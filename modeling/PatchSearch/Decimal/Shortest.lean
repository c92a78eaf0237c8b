import PatchSearch.Decimal.Binary

namespace PatchSearch.Decimal

/-- The decimal `digits * 10 ^ exponent`. -/
structure Scientific where
  digits : Nat
  exponent : Int
deriving Repr, DecidableEq

/-- Which of two equally near candidates is taken. -/
inductive Tie where
  | up
  | toEven
deriving Repr, DecidableEq

/-- A number and the ends of its rounding interval, all over one denominator. -/
structure Interval where
  low : Nat
  value : Nat
  high : Nat
  unit : Nat
  closed : Bool
deriving Repr

/-- The rounding interval of a positive number, in quarters of its last place. -/
def Binary.interval (b : Binary) : Interval :=
  let up := Nat.pow 2 (b.exponent - 2).toNat
  let below := if b.narrowBelow then 1 else 2
  { low := (4 * b.mantissa - below) * up
    value := 4 * b.mantissa * up
    high := (4 * b.mantissa + 2) * up
    unit := Nat.pow 2 (2 - b.exponent).toNat
    closed := b.mantissa % 2 = 0 }

/-- The interval seen from the grid of multiples of `10 ^ exponent`. -/
def Interval.scale (i : Interval) (exponent : Int) : Interval :=
  let up := Nat.pow 10 (-exponent).toNat
  { i with
    low := i.low * up, value := i.value * up, high := i.high * up
    unit := i.unit * Nat.pow 10 exponent.toNat }

/-- Whether the grid point `d` rounds to the number. -/
def Interval.holds (i : Interval) (d : Nat) : Bool :=
  if i.closed then i.low ≤ d * i.unit && d * i.unit ≤ i.high
  else i.low < d * i.unit && d * i.unit < i.high

/-- The grid point inside the interval that is nearest to the number, if there is one. -/
def Interval.nearest? (i : Interval) (tie : Tie) : Option Nat :=
  let d := i.value / i.unit
  match i.holds d, i.holds (d + 1) with
  | true, true =>
    let twice := 2 * (i.value % i.unit)
    if twice < i.unit then some d
    else if i.unit < twice then some (d + 1)
    else
      match tie with
      | .up => some (d + 1)
      | .toEven => some (if d % 2 = 0 then d else d + 1)
  | true, false => some d
  | false, true => some (d + 1)
  | false, false => none

/-- The number of decimal digits of a positive number. -/
def digitCount (n : Nat) : Nat :=
  (Nat.toDigits 10 n).length

/-- The exponent of the first significant digit. -/
def Interval.leading (i : Interval) : Int :=
  if i.unit ≤ i.value then (digitCount (i.value / i.unit) : Int) - 1
  else
    let n := (i.unit - 1) / i.value
    if n = 0 then 0 else Int.neg (digitCount n)

/-- Tries the grids from `10 ^ exponent` downwards, at most `grids` of them. -/
def Interval.search (i : Interval) (tie : Tie) : (grids : Nat) → (exponent : Int) → Scientific
  | 0, exponent => ⟨(i.scale exponent).value / (i.scale exponent).unit, exponent⟩
  | grids + 1, exponent =>
    match (i.scale exponent).nearest? tie with
    | some d => ⟨d, exponent⟩
    | none => i.search tie grids (exponent - 1)

/-- Moves zeros at the end of the digits into the exponent, at most `n` of them. -/
def Scientific.strip (s : Scientific) : (n : Nat) → Scientific
  | 0 => s
  | n + 1 => if s.digits ≠ 0 ∧ s.digits % 10 = 0 then
      Scientific.strip ⟨s.digits / 10, s.exponent + 1⟩ n else s

/-- The shortest decimal of a number; seventeen digits are enough for every double. -/
def shortest (tie : Tie) (b : Binary) : Scientific :=
  if b.mantissa = 0 then ⟨0, 0⟩
  else (b.interval.search tie 17 b.interval.leading).strip 17

end PatchSearch.Decimal
