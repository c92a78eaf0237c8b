import PatchSearch.Decimal.Nearest

namespace PatchSearch.Decimal

inductive Literal where
  | finite (s : Scientific)
  | infinite
  | undefined
deriving Repr, DecidableEq

def ofDigits (cs : List Char) : Nat :=
  cs.foldl (fun n c => n * 10 + (c.toNat - '0'.toNat)) 0

/-- A sign in front of a text, and whether it is a minus. -/
def splitSign : List Char → Bool × List Char
  | '-' :: cs => (true, cs)
  | '+' :: cs => (false, cs)
  | cs => (false, cs)

/-- The exponent after a mantissa; none at all is zero. -/
def readExponent? : List Char → Option Int
  | [] => some 0
  | e :: cs =>
    let (negative, ds) := splitSign cs
    if (e = 'e' ∨ e = 'E') ∧ ds ≠ [] ∧ ds.all Char.isDigit then
      some (if negative then -(ofDigits ds : Int) else ofDigits ds)
    else none

/-- Digits, at least one, with at most one point, and an exponent. -/
def readFinite? (cs : List Char) : Option Scientific :=
  let whole := cs.takeWhile Char.isDigit
  let (fraction, rest) := match cs.dropWhile Char.isDigit with
    | '.' :: after => (after.takeWhile Char.isDigit, after.dropWhile Char.isDigit)
    | rest => ([], rest)
  if whole = [] ∧ fraction = [] then none
  else (readExponent? rest).map fun e => ⟨ofDigits (whole ++ fraction), e - fraction.length⟩

/-- A literal without its sign; names may have capital letters. -/
def readMagnitude? (cs : List Char) : Option Literal :=
  match String.ofList (cs.map Char.toLower) with
  | "inf" | "infinity" => some .infinite
  | "nan" => some .undefined
  | _ => (readFinite? cs).map .finite

def readFloat? (text : String) : Option Float :=
  let (negative, cs) := splitSign text.toList
  (readMagnitude? cs).map fun m =>
    let x := match m with
      | .finite s => toFloat s
      | .infinite => 1 / 0
      | .undefined => 0 / 0
    if negative then -x else x

def readSingle? (text : String) : Option Single :=
  let (negative, cs) := splitSign text.toList
  (readMagnitude? cs).map fun m =>
    let x := match m with
      | .finite s => toSingle s
      | .infinite => ⟨0x7f800000⟩
      | .undefined => ⟨0x7fc00000⟩
    if negative then x.negate else x

end PatchSearch.Decimal
