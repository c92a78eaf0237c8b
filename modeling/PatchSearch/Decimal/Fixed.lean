import PatchSearch.Decimal.Nearest

namespace PatchSearch.Decimal

def Binary.quotient (b : Binary) : Nat × Nat :=
  (b.mantissa * Nat.pow 2 b.exponent.toNat, Nat.pow 2 (-b.exponent).toNat)

/-- The digits with a point in front of the last `places`. -/
def pointed (digits places : Nat) : List Char :=
  let ds := Nat.toDigits 10 digits
  let ds := List.replicate (places + 1 - ds.length) '0' ++ ds
  if places = 0 then ds
  else ds.take (ds.length - places) ++ '.' :: ds.drop (ds.length - places)

/-- A number with a fixed number of digits behind the point. -/
def Binary.fixed (b : Binary) (places : Nat) : List Char :=
  let (num, den) := b.quotient
  pointed (roundDiv (num * Nat.pow 10 places) den) places

/-- The power of ten of the first digit of a positive quotient. -/
def leadingPower (num den : Nat) : Int :=
  if den ≤ num then (digitCount (num / den) : Int) - 1
  else
    let n := (den - 1) / num
    if n = 0 then 0 else Int.neg (digitCount n)

/-- The number whose first digit stands for that power and which has `places` more digits. -/
def Binary.rounded (b : Binary) (places : Nat) : Scientific :=
  let (num, den) := b.quotient
  if num = 0 then ⟨0, -(places : Int)⟩
  else
    let exponent := leadingPower num den - places
    let n := roundDiv (num * Nat.pow 10 (-exponent).toNat) (den * Nat.pow 10 exponent.toNat)
    if n = Nat.pow 10 (places + 1) then ⟨Nat.pow 10 places, exponent + 1⟩ else ⟨n, exponent⟩

/-- An exponent with its sign and at least two digits. -/
def signedExponent (e : Int) : List Char :=
  let ds := Nat.toDigits 10 e.natAbs
  (if e < 0 then '-' else '+') :: (List.replicate (2 - ds.length) '0' ++ ds)

/-- A number with one digit in front of the point, a fixed number behind it, and its power of ten. -/
def Binary.powered (b : Binary) (places : Nat) : List Char :=
  let s := b.rounded places
  pointed s.digits places ++ 'e' :: signedExponent (s.exponent + places)

/-- Without the zeros at the end of what stands behind a point, and without a point that nothing stands
behind. -/
def dropZeros (cs : List Char) : List Char :=
  let mantissa := cs.takeWhile (· ≠ 'e')
  if mantissa.contains '.' then
    let kept := (mantissa.reverse.dropWhile (· = '0'))
    (if kept.head? = some '.' then kept.tail else kept).reverse ++ cs.drop mantissa.length
  else cs

/-- A number with a fixed count of digits, as a power of ten only if it is very large or very small. -/
def Binary.general (b : Binary) (digits : Nat) (keepZeros : Bool) : List Char :=
  let digits := max digits 1
  let s := b.rounded (digits - 1)
  let power := s.exponent + (digits - 1 : Nat)
  let shown :=
    if -4 ≤ power ∧ power < digits then b.fixed ((digits : Int) - 1 - power).toNat
    else b.powered (digits - 1)
  if keepZeros then shown else dropZeros shown

end PatchSearch.Decimal
