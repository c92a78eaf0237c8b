import PatchSearch.Decimal.Shortest

namespace PatchSearch.Decimal

/-- The quotient rounded to the nearest integer, a half to the even one. -/
def roundDiv (num den : Nat) : Nat :=
  let q := num / den
  let twice := 2 * (num % den)
  if twice < den ∨ (twice = den ∧ q % 2 = 0) then q else q + 1

/-- `num / den` over a power of two. -/
def scaledRound (num den : Nat) (exponent : Int) : Nat :=
  roundDiv (num * Nat.pow 2 (-exponent).toNat) (den * Nat.pow 2 exponent.toNat)

/-- The bit pattern nearest to a positive quotient. -/
def Format.nearestQuotient (f : Format) (num den : Nat) : Nat :=
  let rough : Int := (num.log2 : Int) - den.log2 - f.fraction
  -- The quotient has the exponent of its last place at `rough` or one below.
  let top := den * Nat.pow 2 rough.toNat * Nat.pow 2 f.fraction
  let exact := if num * Nat.pow 2 (-rough).toNat < top then rough - 1 else rough
  let exponent := max exact f.minExponent
  let mantissa := scaledRound num den exponent
  if mantissa = Nat.pow 2 (f.fraction + 1) then f.encode (Nat.pow 2 f.fraction) (exponent + 1)
  else f.encode mantissa exponent

/-- The bit pattern nearest to a decimal. Decimals far outside the range of the format are settled
by the place of their first digit. -/
def Format.nearest (f : Format) (s : Scientific) : Nat :=
  let place := (digitCount s.digits : Int) + s.exponent
  if s.digits = 0 ∨ place < -400 then 0
  else if 400 < place then f.topExponent * Nat.pow 2 f.fraction
  else f.nearestQuotient (s.digits * Nat.pow 10 s.exponent.toNat) (Nat.pow 10 (-s.exponent).toNat)

def toFloat (s : Scientific) : Float :=
  Float.ofBits (double.nearest s).toUInt64

def toSingle (s : Scientific) : Single :=
  ⟨(single.nearest s).toUInt32⟩

end PatchSearch.Decimal
