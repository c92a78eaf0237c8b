import PatchSearch.Decimal.Nearest
import PatchSearch.Json.Basic

namespace PatchSearch.Json

/-- The largest whole number of 64 bits. -/
def maxWord : Nat := UInt64.size - 1

structure Numeral where
  negative : Bool
  whole : List Nat
  fraction : List Nat
  exponent : Option Int
deriving Repr, DecidableEq

/-- Appends digits to a number while it fits into 64 bits; the second component counts the digits
that are left. -/
def absorb (n : Nat) : List Nat → Nat × Nat
  | [] => (n, 0)
  | d :: ds => if n * 10 + d ≤ maxWord then absorb (n * 10 + d) ds else (n, ds.length + 1)

/-- The double nearest to a power of ten. -/
def powerOfTen (exponent : Nat) : Float :=
  Decimal.toFloat ⟨1, exponent⟩

/-- A non-negative double times a power of ten, in steps of at most `10 ^ 308`; nothing if the
product is too large. -/
def scale (x : Float) (exponent : Int) : Option Float :=
  if 0 ≤ exponent then
    if exponent ≤ 308 then
      let y := x * powerOfTen exponent.toNat
      if y.isInf then none else some y
    else if x == 0 then some x
    else none
  else if -308 ≤ exponent then some (x / powerOfTen (-exponent).toNat)
  else if x == 0 then some x
  else scale (x / powerOfTen 308) (exponent + 308)
termination_by (-exponent).toNat

def Numeral.value (n : Numeral) : Json :=
  let (whole, dropped) := absorb 0 n.whole
  let sign (x : Float) : Float := if n.negative then -x else x
  if n.fraction = [] ∧ n.exponent = none ∧ dropped = 0 then
    if !n.negative then .integer whole
    else if 0 < whole ∧ whole ≤ Nat.pow 2 63 then .integer (-whole)
    else .real (sign whole.toUInt64.toFloat)
  else
    let (significand, unused) := absorb whole n.fraction
    let places : Int := (n.fraction.length : Int) - unused
    match scale significand.toUInt64.toFloat (dropped - places + n.exponent.getD 0) with
    | some x => .real (sign x)
    | none => .unreadable

end PatchSearch.Json
