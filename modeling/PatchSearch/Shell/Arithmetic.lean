namespace PatchSearch.Shell

/-- Why an expression has no value. -/
inductive ArithmeticError where
  | expectingPrimary
  | expectingEnd
  | expecting (sign : String)
  | divisionByZero
  | illegalNumber (text : String)
deriving Repr, DecidableEq

def ArithmeticError.message (expression : String) : ArithmeticError → String
  | .expectingPrimary => "arithmetic expression: expecting primary: \"" ++ expression ++ "\""
  | .expectingEnd => "arithmetic expression: expecting EOF: \"" ++ expression ++ "\""
  | .expecting sign => "arithmetic expression: expecting '" ++ sign ++ "': \"" ++ expression ++ "\""
  | .divisionByZero => "arithmetic expression: division by zero: \"" ++ expression ++ "\""
  | .illegalNumber text => "Illegal number: " ++ text

/-- A number as a word of 64 bits with a sign. -/
def wrap (n : Int) : Int :=
  n.bmod UInt64.size

/-- A number no further from zero than words of 64 bits reach. -/
def clamp (n : Int) : Int :=
  max (-Nat.pow 2 63) (min n (Nat.pow 2 63 - 1))

/-- The value of a digit, also of those above nine. -/
def digitValue (c : Char) : Nat :=
  if c.isDigit then c.toNat - 48 else if c.isAlpha then c.toLower.toNat - 87 else 36

/-- The digits of a base at the beginning of a text as a number, and what follows. -/
def digitsOf (base : Nat) (cs : List Char) : Nat × List Char :=
  let ds := cs.takeWhile fun c => digitValue c < base
  (ds.foldl (fun n c => n * base + digitValue c) 0, cs.drop ds.length)

/-- A number in hexadecimal, octal or decimal digits at the beginning of a text, and what follows. -/
def numeral (cs : List Char) : Nat × List Char :=
  match cs with
  | '0' :: x :: d :: ds =>
    if (x = 'x' ∨ x = 'X') ∧ digitValue d < 16 then digitsOf 16 (d :: ds)
    else digitsOf 8 (x :: d :: ds)
  | '0' :: ds => digitsOf 8 ds
  | ds => digitsOf 10 ds

def isNumberSpace (c : Char) : Bool :=
  c == ' ' || (9 ≤ c.toNat && c.toNat ≤ 13)

/-- The number that a text is, with a sign and blanks; a text without digits is zero. -/
def integer? (cs : List Char) : Option Int :=
  let cs := cs.dropWhile isNumberSpace
  let (negative, digits) := match cs with
    | '-' :: ds => (true, ds)
    | '+' :: ds => (false, ds)
    | ds => (false, ds)
  let (n, rest) := numeral digits
  if rest.all isNumberSpace ∧ (rest.length < digits.length ∨ cs.all isNumberSpace) then
    some (clamp (if negative then -(n : Int) else n))
  else none

inductive ArithmeticToken where
  | number (n : Int)
  | name (s : String)
  | sign (s : String)
deriving Repr, DecidableEq

/-- The signs; one stands before those that it begins with. -/
def arithmeticSigns : List String :=
  ["<<=", ">>=", "||", "&&", "==", "!=", "<<", ">>", "<=", ">=", "*=", "/=", "%=", "+=", "-=", "&=",
    "^=", "|=", "=", "<", ">", "|", "^", "&", "+", "-", "*", "/", "%", "!", "~", "?", ":", "(", ")"]

/-- At most `left` parts of an expression. -/
def arithmeticTokens : (left : Nat) → List Char → List ArithmeticToken
  | 0, _ => []
  | _, [] => []
  | left + 1, c :: cs =>
    if c = ' ' ∨ c = '\t' ∨ c = '\n' then arithmeticTokens left cs
    else if c.isDigit then
      let (n, rest) := numeral (c :: cs)
      .number (clamp n) :: arithmeticTokens left rest
    else if c.isAlpha || c == '_' then
      let isNameChar (c : Char) : Bool := c.isAlphanum || c == '_'
      .name (String.ofList (c :: cs.takeWhile isNameChar)) ::
        arithmeticTokens left (cs.dropWhile isNameChar)
    else
      match arithmeticSigns.find? fun s => s.toList.isPrefixOf (c :: cs) with
      | some s => .sign s :: arithmeticTokens left ((c :: cs).drop s.length)
      | none => .sign (String.singleton c) :: arithmeticTokens left cs

/-- A bitwise operation on words of 64 bits. -/
def onWords (f : UInt64 → UInt64 → UInt64) (a b : Int) : Int :=
  wrap (f (UInt64.ofInt a) (UInt64.ofInt b)).toNat

def truth (b : Bool) : Int :=
  if b then 1 else 0

/-- How tightly a sign between two numbers binds, the tightest with the least number. -/
def precedence? : String → Option Nat
  | "*" | "/" | "%" => some 0
  | "+" | "-" => some 1
  | "<<" | ">>" => some 2
  | "<" | "<=" | ">" | ">=" => some 3
  | "==" | "!=" => some 4
  | "&" => some 5
  | "^" => some 6
  | "|" => some 7
  | _ => none

def operate (sign : String) (a b : Int) : Except ArithmeticError Int :=
  match sign with
  | "*" => .ok (wrap (a * b))
  | "/" => if b = 0 then .error .divisionByZero else .ok (wrap (a.tdiv b))
  | "%" => if b = 0 then .error .divisionByZero else .ok (a.tmod b)
  | "+" => .ok (wrap (a + b))
  | "-" => .ok (wrap (a - b))
  | "<<" => .ok (onWords (· <<< ·) a b)
  | ">>" => .ok (a >>> (UInt64.ofInt b % 64).toNat)
  | "<" => .ok (truth (a < b))
  | "<=" => .ok (truth (a ≤ b))
  | ">" => .ok (truth (a > b))
  | ">=" => .ok (truth (a ≥ b))
  | "==" => .ok (truth (a = b))
  | "!=" => .ok (truth (a ≠ b))
  | "&" => .ok (onWords (· &&& ·) a b)
  | "^" => .ok (onWords (· ^^^ ·) a b)
  | _ => .ok (onWords (· ||| ·) a b)

/-- The sign that an assignment applies before it assigns; an empty one for none. -/
def assigning? (sign : String) : Option String :=
  if ["=", "*=", "/=", "%=", "+=", "-=", "<<=", ">>=", "&=", "^=", "|="].contains sign then
    some (String.ofList sign.toList.dropLast)
  else none

/-- A computation that knows the values that were assigned so far, the newest first. -/
abbrev Arithmetic := StateT (List (String × Int)) (Except ArithmeticError)

namespace Arithmetic

def look (value : String → String) (name : String) : Arithmetic Int := do
  match (← get).lookup name with
  | some n => return n
  | none =>
    let text := value name
    match integer? text.toList with
    | some n => return n
    | none => throw (.illegalNumber text)

section

variable (value : String → String)

mutual

/-- Reads an operand. Where `idle` is set nothing is looked up or assigned. -/
def operand : (depth : Nat) → (idle : Bool) → List ArithmeticToken →
    Arithmetic (Int × List ArithmeticToken)
  | 0, _, _ => throw .expectingPrimary
  | depth + 1, idle, ts =>
    match ts with
    | .number n :: rest => return (n, rest)
    | .name s :: rest => do
      let n ← if idle then pure 0 else look value s
      return (n, rest)
    | .sign "(" :: rest => do
      match ← assignment depth idle rest with
      | (n, .sign ")" :: rest) => return (n, rest)
      | _ => throw (.expecting ")")
    | .sign "+" :: rest => operand depth idle rest
    | .sign "-" :: rest => do
      let (n, rest) ← operand depth idle rest
      return (wrap (-n), rest)
    | .sign "!" :: rest => do
      let (n, rest) ← operand depth idle rest
      return (truth (n = 0), rest)
    | .sign "~" :: rest => do
      let (n, rest) ← operand depth idle rest
      return (-n - 1, rest)
    | _ => throw .expectingPrimary

/-- Reads operands joined by signs that bind at least as tightly as `level`, from the first on. -/
def joined : (depth : Nat) → (idle : Bool) → (level : Nat) → Int → List ArithmeticToken →
    Arithmetic (Int × List ArithmeticToken)
  | 0, _, _, a, ts => return (a, ts)
  | depth + 1, idle, level, a, ts =>
    match ts with
    | .sign s :: rest =>
      match precedence? s with
      | some p =>
        if level < p then return (a, ts)
        else do
          let (b, rest) ← operand depth idle rest
          let (b, rest) ← if p = 0 then pure (b, rest) else joined depth idle (p - 1) b rest
          let n ← if idle then pure b else liftM (operate s a b)
          joined depth idle level n rest
      | none => return (a, ts)
    | _ => return (a, ts)

/-- Reads operands joined by signs for numbers, then by the one for `and`. -/
def conjunction : (depth : Nat) → (idle : Bool) → List ArithmeticToken →
    Arithmetic (Int × List ArithmeticToken)
  | 0, _, _ => throw .expectingPrimary
  | depth + 1, idle, ts => do
    let (a, rest) ← operand depth idle ts
    let (a, rest) ← joined depth idle 7 a rest
    match rest with
    | .sign "&&" :: rest =>
      let (b, rest) ← conjunction depth (idle || a == 0) rest
      return (truth (a ≠ 0 && b ≠ 0), rest)
    | rest => return (a, rest)

/-- Reads conjunctions joined by the sign for `or`. -/
def disjunction : (depth : Nat) → (idle : Bool) → List ArithmeticToken →
    Arithmetic (Int × List ArithmeticToken)
  | 0, _, _ => throw .expectingPrimary
  | depth + 1, idle, ts => do
    let (a, rest) ← conjunction depth idle ts
    match rest with
    | .sign "||" :: rest =>
      let (b, rest) ← disjunction depth (idle || a != 0) rest
      return (truth (a ≠ 0 || b ≠ 0), rest)
    | rest => return (a, rest)

/-- Reads a condition with two values to choose from, or only a condition. -/
def choice : (depth : Nat) → (idle : Bool) → List ArithmeticToken →
    Arithmetic (Int × List ArithmeticToken)
  | 0, _, _ => throw .expectingPrimary
  | depth + 1, idle, ts => do
    let (a, rest) ← disjunction depth idle ts
    match rest with
    | .sign "?" :: rest =>
      match ← assignment depth (idle || a == 0) rest with
      | (b, .sign ":" :: rest) =>
        let (c, rest) ← choice depth (idle || a != 0) rest
        return (if a ≠ 0 then b else c, rest)
      | _ => throw (.expecting ":")
    | rest => return (a, rest)

def assignment : (depth : Nat) → (idle : Bool) → List ArithmeticToken →
    Arithmetic (Int × List ArithmeticToken)
  | 0, _, _ => throw .expectingPrimary
  | depth + 1, idle, ts =>
    match ts with
    | .name name :: .sign sign :: rest =>
      match assigning? sign with
      | none => choice depth idle ts
      | some sign => do
        let (n, rest) ← assignment depth idle rest
        if idle then return (n, rest)
        else
          let n ← if sign = "" then pure n else do liftM (operate sign (← look value name) n)
          modify fun assigned => (name, n) :: assigned
          return (n, rest)
    | ts => choice depth idle ts

end

/-- The value of an expression, and the variables that it assigns to. -/
def evaluate (cs : List Char) : Except ArithmeticError (Int × List (String × Int)) := do
  let ts := arithmeticTokens cs.length cs
  let ((n, rest), assigned) ← (assignment value (8 * ts.length + 8) false ts).run []
  if rest = [] then return (n, assigned) else throw .expectingEnd

end

end Arithmetic

end PatchSearch.Shell
