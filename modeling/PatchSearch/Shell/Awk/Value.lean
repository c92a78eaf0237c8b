import PatchSearch.Shell.Awk.Matching

namespace PatchSearch.Shell.Awk

inductive Value where
  | unset
  | number (x : Float)
  | text (cs : List Char)
  | input (cs : List Char)

def leadingNumber (cs : List Char) : Float :=
  match floatPrefix? cs with
  | some (x, _) => x
  | none => 0

/-- Whether a text is a number and nothing else but blanks around it. -/
def looksNumeric (cs : List Char) : Bool :=
  let inner := ((cs.dropWhile isBlank).reverse.dropWhile isBlank).reverse
  let opens := (inner.head?.map fun c => c.isDigit || "+-.".toList.contains c).getD false
  let ends := (inner.getLast?.map fun c => c.isDigit || c == '.').getD false
  opens && ends && ((floatPrefix? inner).map fun (_, rest) => rest.isEmpty).getD false

/-- The greatest number that is shown as a whole one. -/
def greatestWhole : Float := 18446744073709551616

/-- A number as a whole one, without its fraction, and within what fits into a machine's word. -/
def wholePart (x : Float) : Int :=
  if x < 0 then max (-(x.abs.toUInt64.toNat : Int)) (-(Nat.pow 2 63 : Nat)) else x.toUInt64.toNat

def isWhole (x : Float) : Bool :=
  x.floor == x && -9223372036854775808 <= x && x <= greatestWhole

/-- What is wrong with a format, or with what it is for. -/
inductive FormatFault where
  | tooFew
  | improper (nth : Nat)

/-- A number that is no whole one, as a directive with a letter sets it. -/
def setReal (d : Directive) (letter : Char) (x : Float) : List Char :=
  if x.isNaN then d.text "-nan".toList else d.real letter x

def setNumber (d : Directive) (letter : Char) (x : Float) : Option (List Char) :=
  if letter = 'd' ∨ letter = 'i' then some (d.integer (wholePart x))
  else if "ouxX".toList.contains letter then
    some (d.unsigned letter (wholePart x % UInt64.size).toNat)
  else if "eEfgG".toList.contains letter then some (setReal d letter x)
  else none

/-- The text of a number in a format with one directive. -/
def numberText (format : List Char) (x : Float) : List Char :=
  if isWhole x then toString (wholePart x) |>.toList
  else
    let before := format.takeWhile (· ≠ '%')
    let (d, rest) := Directive.read (format.drop (before.length + 1))
    match rest with
    | letter :: behind =>
      match setNumber d letter x with
      | some cs => before ++ cs ++ behind
      | none => setReal ⟨[], .none, .none⟩ 'g' x
    | [] => format

namespace Value

def toNumber : Value → Float
  | .unset => 0
  | .number x => x
  | .text cs | .input cs => leadingNumber cs

/-- The text of a value; numbers are set in a format. -/
def toText (format : List Char) : Value → List Char
  | .unset => []
  | .number x => numberText format x
  | .text cs | .input cs => cs

def asNumber? : Value → Option Float
  | .unset => some 0
  | .number x => some x
  | .text _ => none
  | .input cs => if looksNumeric cs then some (leadingNumber cs) else none

def isTrue (v : Value) : Bool :=
  match v with
  | .unset => false
  | .number x => x != 0
  | .text cs => cs != []
  | .input cs => if looksNumeric cs then leadingNumber cs != 0 else cs != []

def ofBool (b : Bool) : Value :=
  .number (if b then 1 else 0)

def ofNat (n : Nat) : Value :=
  .number n.toFloat

/-- How a text stands to another one in their order. -/
def compareTexts : List Char → List Char → Ordering
  | [], [] => .eq
  | [], _ => .lt
  | _, [] => .gt
  | a :: as, b :: bs => if a < b then .lt else if b < a then .gt else compareTexts as bs

/-- How a value stands to another one: as numbers if both are some, and as texts otherwise. -/
def order (format : List Char) (v w : Value) : Ordering :=
  match v.asNumber?, w.asNumber? with
  | some x, some y => if x < y then .lt else if y < x then .gt else .eq
  | _, _ => compareTexts (v.toText format) (w.toText format)

def toChar : Value → Char
  | .number x => byteChar (wholePart x % 256).toNat
  | .input cs => if looksNumeric cs then byteChar (wholePart (leadingNumber cs) % 256).toNat
      else cs.headD '\x00'
  | .text cs => cs.headD '\x00'
  | .unset => '\x00'

end Value

def Comparison.accepts : Comparison → Ordering → Bool
  | .less, o => o == .lt
  | .atMost, o => o != .gt
  | .equal, o => o == .eq
  | .different, o => o != .eq
  | .atLeast, o => o != .lt
  | .greater, o => o == .gt

/-- The remainder with the sign of the first number. -/
def remainderOf (x y : Float) : Float :=
  if y == 0 || x.isInf || x.isNaN || y.isNaN then 0 / 0
  else if y.isInf then x
  else
    let scale (z : Float) : Nat × Int := match Decimal.double.magnitude z.toBits.toNat with
      | .finite b => (b.mantissa, b.exponent)
      | _ => (0, 0)
    let (m, e) := scale x
    let (n, k) := scale y
    let low := min e k
    let a := m * Nat.pow 2 (e - low).toNat
    let b := n * Nat.pow 2 (k - low).toNat
    let r := binaryFloat (a % b) low
    if x < 0 then -r else r

def Operation.apply : Operation → Float → Float → Float
  | .add, x, y => x + y
  | .subtract, x, y => x - y
  | .multiply, x, y => x * y
  | .divide, x, y => x / y
  | .remainder, x, y => remainderOf x y
  | .power, x, y => Float.pow x y

structure Formatting where
  /-- Output, the newest first. -/
  pieces : List (List Char)
  args : List Value
  count : Nat
  fault : Option FormatFault

namespace Formatting

/-- Replaces amounts that are asked for by values. -/
def settle (d : Directive) (f : Formatting) : Directive × Formatting :=
  let next (f : Formatting) : Int × Formatting :=
    match f.args with
    | v :: args => (wholePart v.toNumber, { f with args := args })
    | [] => (0, { f with fault := some .tooFew })
  let (d, f) := if d.width = .asked then
      let (n, f) := next f
      (d.withWidth n, f)
    else (d, f)
  if d.precision = .asked then
    let (n, f) := next f
    (d.withPrecision n, f)
  else (d, f)

def convert (numbers : List Char) (d : Directive) (letter : Char) (f : Formatting) : Formatting :=
  let (d, f) := settle d { f with count := f.count + 1 }
  match f.args with
  | [] => { f with fault := some .tooFew }
  | v :: args =>
    let put (cs : List Char) : Formatting := { f with pieces := cs :: f.pieces, args := args }
    if letter = 's' then put (d.text (v.toText numbers))
    else if letter = 'c' then put (d.set false [] [v.toChar])
    else
      match setNumber d letter v.toNumber with
      | some cs => put cs
      | none => { f with fault := some (.improper f.count) }

/-- Goes through a format, at most `left` steps. -/
def run (numbers : List Char) : (left : Nat) → List Char → Formatting → Formatting
  | 0, _, f | _, [], f => f
  | left + 1, '%' :: '%' :: cs, f => run numbers left cs { f with pieces := ['%'] :: f.pieces }
  | left + 1, '%' :: cs, f =>
    let (d, rest) := Directive.read cs
    let rest := rest.dropWhile fun c => c == 'h' || c == 'l'
    let f := convert numbers d (rest.headD '\x00') f
    if f.fault.isSome then f else run numbers left rest.tail f
  | left + 1, c :: cs, f =>
    let plain := c :: cs.takeWhile (· ≠ '%')
    run numbers left (cs.drop (plain.length - 1)) { f with pieces := plain :: f.pieces }

/-- What a format makes of values, and what is wrong with it; numbers that are texts are set in the
format `numbers`. -/
def make (numbers format : List Char) (args : List Value) : List Char × Option FormatFault :=
  let f := run numbers (format.length + 1) format ⟨[], args, 0, none⟩
  (f.pieces.reverse.flatten, f.fault)

end Formatting

/-- What is said about a format that does not work in a function. -/
def FormatFault.message (name : String) (format : List Char) : FormatFault → String
  | .tooFew => "not enough arguments passed to " ++ name ++ "(\"" ++ String.ofList format ++ "\")"
  | .improper n => "improper conversion(number " ++ toString n ++ ") in " ++ name ++ "(\"" ++
      String.ofList format ++ "\")"

end PatchSearch.Shell.Awk
