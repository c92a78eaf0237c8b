import PatchSearch.Decimal.Shortest

namespace PatchSearch.Decimal

/-- The digits of a decimal with the point in its place, or none of them after it. -/
def Scientific.positional (s : Scientific) : List Char :=
  let digits := Nat.toDigits 10 s.digits
  if 0 ≤ s.exponent then digits ++ List.replicate s.exponent.toNat '0'
  else
    let after := (-s.exponent).toNat
    if after < digits.length then
      digits.take (digits.length - after) ++ '.' :: digits.drop (digits.length - after)
    else ['0', '.'] ++ List.replicate (after - digits.length) '0' ++ digits

/-- The power of ten of the first digit. -/
def Scientific.power (s : Scientific) : Int :=
  (digitCount s.digits : Int) - 1 + s.exponent

/-- The powers of ten for which data has no exponent. -/
structure PlainPowers where
  least : Int
  greatest : Int

/-- Doubles have an exponent from the seventeenth digit before the point on. -/
def plainDouble : PlainPowers := ⟨-5, 15⟩

/-- Singles have an exponent from the fourteenth digit before the point on. -/
def plainSingle : PlainPowers := ⟨-6, 12⟩

/-- Digits with a point in them, as data: a point is never missing, and a power of ten outside the
plain ones is written as an exponent with its sign. -/
def Scientific.data (s : Scientific) (plain : PlainPowers) : List Char :=
  if s.digits = 0 then ['0', '.', '0']
  else if plain.least ≤ s.power ∧ s.power ≤ plain.greatest then
    if 0 ≤ s.exponent then s.positional ++ ['.', '0'] else s.positional
  else
    let sign := if s.power < 0 then '-' else '+'
    let mantissa := match Nat.toDigits 10 s.digits with
      | [] => []
      | [d] => [d]
      | d :: ds => d :: '.' :: ds
    mantissa ++ 'e' :: sign :: Nat.toDigits 10 s.power.natAbs

def signed (negative : Bool) (cs : List Char) : String :=
  String.ofList (if negative then '-' :: cs else cs)

/-- A double for people: the shortest digits, never an exponent, no point behind a whole number. -/
def display (x : Float) : String :=
  let bits := x.toBits.toNat
  match double.magnitude bits with
  | .undefined => "NaN"
  | .infinite => signed (double.isNegative bits) "inf".toList
  | .finite b => signed (double.isNegative bits) (shortest .up b).positional

/-- The data form of a bit pattern; infinities and what is not a number have none. -/
def Format.data? (f : Format) (plain : PlainPowers) (bits : Nat) : Option String :=
  match f.magnitude bits with
  | .finite b => some (signed (f.isNegative bits) ((shortest .toEven b).data plain))
  | .infinite | .undefined => none

end PatchSearch.Decimal
