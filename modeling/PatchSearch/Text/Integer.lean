namespace PatchSearch.Text

/-- Why a text is no number. -/
inductive IntegerError where
  | empty
  | invalidDigit
  | tooLarge
  | tooSmall
deriving Repr, DecidableEq

def IntegerError.message : IntegerError → String
  | .empty => "cannot parse integer from empty string"
  | .invalidDigit => "invalid digit found in string"
  | .tooLarge => "number too large to fit in target type"
  | .tooSmall => "number too small to fit in target type"

/-- Appends digits to a number up to a limit; `excess` is the error beyond it. -/
def appendDigits (limit : Nat) (excess : IntegerError) : (n : Nat) → List Char → Except IntegerError Nat
  | n, [] => .ok n
  | n, c :: cs =>
    if c.isDigit then
      let m := n * 10 + (c.toNat - '0'.toNat)
      if m ≤ limit then appendDigits limit excess m cs else .error excess
    else .error .invalidDigit

/-- A number up to a limit, with an optional plus sign. -/
def readNat (limit : Nat) (cs : List Char) : Except IntegerError Nat :=
  match cs with
  | [] => .error .empty
  | '+' :: [] => .error .invalidDigit
  | '+' :: cs => appendDigits limit .tooLarge 0 cs
  | cs => appendDigits limit .tooLarge 0 cs

/-- A number with an optional sign, from `-(limit + 1)` to `limit`. -/
def readInt (limit : Nat) (cs : List Char) : Except IntegerError Int :=
  match cs with
  | '-' :: [] => .error .invalidDigit
  | '-' :: cs => (appendDigits (limit + 1) .tooSmall 0 cs).map fun n => -(n : Int)
  | cs => (readNat limit cs).map fun n => (n : Int)

end PatchSearch.Text
