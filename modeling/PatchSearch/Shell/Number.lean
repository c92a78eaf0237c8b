import PatchSearch.Decimal.Literal
import PatchSearch.Shell.Arithmetic

namespace PatchSearch.Shell

def signed (cs : List Char) : Bool × List Char :=
  match cs with
  | '-' :: ds => (true, ds)
  | '+' :: ds => (false, ds)
  | ds => (false, ds)

/-- The whole number that a text begins with, behind blanks, and what follows; nothing if there are no
digits. -/
def wholePrefix? (cs : List Char) : Option (Int × List Char) :=
  let (negative, ds) := signed (cs.dropWhile isNumberSpace)
  let (n, rest) := numeral ds
  if rest.length < ds.length then some (if negative then -(n : Int) else n, rest) else none

def decimalPrefix? (cs : List Char) : Option (Int × List Char) :=
  let (negative, ds) := signed (cs.dropWhile isNumberSpace)
  let (n, rest) := digitsOf 10 ds
  if rest.length < ds.length then some (if negative then -(n : Int) else n, rest) else none

/-- A decimal number that a whole text is, with a sign. -/
def decimal? (s : String) : Option Int :=
  match decimalPrefix? s.toList with
  | some (n, []) => some n
  | _ => none

def natural? (s : String) : Option Nat :=
  if s ≠ "" ∧ s.toList.all Char.isDigit then some (digitsOf 10 s.toList).1 else none

/-- An exponent behind a mantissa; a letter that no digits follow does not belong to the number. -/
def exponentPrefix (letters : List Char) (cs : List Char) : Int × List Char :=
  match cs with
  | e :: rest =>
    let (negative, ds) := signed rest
    let (n, after) := digitsOf 10 ds
    if letters.contains e ∧ after.length < ds.length then
      (if negative then -(n : Int) else n, after)
    else (0, cs)
  | [] => (0, [])

/-- Digits of a base with a point among them: their number without the point, how many stand behind
it, and what follows. -/
def pointPrefix? (base : Nat) (cs : List Char) : Option (Nat × Nat × List Char) :=
  let (whole, behind) := digitsOf base cs
  let (digits, places, rest) := match behind with
    | '.' :: after =>
      let (fraction, rest) := digitsOf base after
      let places := after.length - rest.length
      (whole * Nat.pow base places + fraction, places, rest)
    | behind => (whole, 0, behind)
  if behind.length = cs.length ∧ places = 0 then none else some (digits, places, rest)

/-- A power of two that is at least as fine as any number needs. -/
def binaryFloat (digits : Nat) (exponent : Int) : Float :=
  if digits = 0 then 0
  else if 5000 < exponent then 1 / 0
  else if exponent < -5000 then 0
  else
    Float.ofBits (Decimal.double.nearestQuotient (digits * Nat.pow 2 exponent.toNat)
      (Nat.pow 2 (-exponent).toNat)).toUInt64

/-- The number without a sign that a text begins with. -/
def magnitudePrefix? (cs : List Char) : Option (Float × List Char) :=
  let begins (word : String) : Bool := word.toList.isPrefixOf (cs.map Char.toLower)
  if begins "infinity" then some (1 / 0, cs.drop 8)
  else if begins "inf" then some (1 / 0, cs.drop 3)
  else if begins "nan" then some (0 / 0, cs.drop 3)
  else
    let hex : Option (Float × List Char) :=
      if begins "0x" then
        (pointPrefix? 16 (cs.drop 2)).map fun (digits, places, rest) =>
          let (e, rest) := exponentPrefix ['p', 'P'] rest
          (binaryFloat digits (e - 4 * places), rest)
      else none
    match hex with
    | some found => some found
    | none =>
      (pointPrefix? 10 cs).map fun (digits, places, rest) =>
        let (e, rest) := exponentPrefix ['e', 'E'] rest
        (Decimal.toFloat ⟨digits, e - places⟩, rest)

/-- The number that a text begins with, behind blanks and a sign. -/
def floatPrefix? (cs : List Char) : Option (Float × List Char) :=
  let (negative, ds) := signed (cs.dropWhile isNumberSpace)
  (magnitudePrefix? ds).map fun (x, rest) => (if negative then -x else x, rest)

end PatchSearch.Shell
