namespace PatchSearch.Decimal

structure Format where
  fraction : Nat
  exponentBits : Nat
deriving Repr, DecidableEq

def double : Format := ⟨52, 11⟩

def single : Format := ⟨23, 8⟩

/-- The exponent of the last place of the smallest numbers. -/
def Format.minExponent (f : Format) : Int :=
  2 - Nat.pow 2 (f.exponentBits - 1) - f.fraction

/-- The largest value of the exponent field, kept for infinities and what is not a number. -/
def Format.topExponent (f : Format) : Nat :=
  Nat.pow 2 f.exponentBits - 1

/-- A number without its sign: `mantissa * 2 ^ exponent`. -/
structure Binary where
  mantissa : Nat
  exponent : Int
  /-- Whether the next smaller number is only half as far away as the next larger one. -/
  narrowBelow : Bool
deriving Repr, DecidableEq

inductive Magnitude where
  | finite (value : Binary)
  | infinite
  | undefined
deriving Repr, DecidableEq

def Format.isNegative (f : Format) (bits : Nat) : Bool :=
  bits.testBit (f.fraction + f.exponentBits)

def Format.magnitude (f : Format) (bits : Nat) : Magnitude :=
  let fraction := bits % Nat.pow 2 f.fraction
  let exponent := bits / Nat.pow 2 f.fraction % Nat.pow 2 f.exponentBits
  if exponent = f.topExponent then if fraction = 0 then .infinite else .undefined
  else if exponent = 0 then .finite ⟨fraction, f.minExponent, false⟩
  else
    .finite ⟨Nat.pow 2 f.fraction + fraction, f.minExponent + (exponent - 1 : Nat),
      fraction = 0 && exponent > 1⟩

/-- The bit pattern of `mantissa * 2 ^ exponent` for a mantissa that fits, and of infinity when the
exponent is too large. -/
def Format.encode (f : Format) (mantissa : Nat) (exponent : Int) : Nat :=
  let field := (exponent - f.minExponent).toNat
  let bits := if mantissa < Nat.pow 2 f.fraction then mantissa
    else mantissa - Nat.pow 2 f.fraction + (field + 1) * Nat.pow 2 f.fraction
  min bits (f.topExponent * Nat.pow 2 f.fraction)

/-- A number of single precision by its bits, so that what is not a number keeps its sign. -/
structure Single where
  bits : UInt32
deriving Repr, DecidableEq

namespace Single

def ofFloat32 (x : Float32) : Single := ⟨x.toBits⟩

def negate (x : Single) : Single := ⟨x.bits ^^^ 0x80000000⟩

end Single

end PatchSearch.Decimal
