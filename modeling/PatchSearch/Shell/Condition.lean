import PatchSearch.Shell.Call
import PatchSearch.Shell.Number

namespace PatchSearch.Shell

/-- Why words are no condition. -/
inductive ConditionError where
  | missingArgument (op : String)
  | missingParenthesis
  | unexpected (word : String)
  | badNumber (word : String)
deriving Repr, DecidableEq

def ConditionError.message : ConditionError → String
  | .missingArgument op => op ++ ": argument expected"
  | .missingParenthesis => "closing paren expected"
  | .unexpected word => word ++ ": unexpected operator"
  | .badNumber word => "Illegal number: " ++ word

namespace Condition

def unaryOperators : List String :=
  ["-r", "-w", "-x", "-e", "-f", "-d", "-c", "-b", "-p", "-u", "-g", "-k", "-s", "-t", "-z", "-n", "-h",
    "-O", "-G", "-L", "-S"]

def binaryOperators : List String :=
  ["=", "!=", "<", ">", "-eq", "-ne", "-ge", "-gt", "-le", "-lt", "-nt", "-ot", "-ef"]

def otherOperators : List String :=
  ["!", "-a", "-o", "(", ")"]

def operator? : List String → Option String
  | [] => none
  | s :: rest =>
    let isOperand := match rest with
      | [] => true
      | [_] => false
      | next :: _ => binaryOperators.contains next
    if unaryOperators.contains s then if isOperand then none else some s
    else if s = "(" ∧ rest = [] then none
    else if binaryOperators.contains s ∨ otherOperators.contains s then some s
    else none

def number (s : String) : Except ConditionError Int :=
  match decimalPrefix? s.toList with
  | some (n, rest) =>
    if rest.all isNumberSpace ∧ clamp n = n then .ok n else .error (.badNumber s)
  | none => .error (.badNumber s)

def onFile (c : Call) (fs : Files) (op path : String) : Bool :=
  let e := c.entry fs path
  let mode (bits : Nat) : Bool := match e with
    | .ok (.file _ mode) => mode &&& bits != 0
    | _ => false
  match op with
  | "-e" | "-r" | "-w" | "-O" | "-G" => e.toOption.isSome
  | "-f" => match e with
    | .ok (.file _ _) => true
    | _ => false
  | "-d" => match e with
    | .ok .directory => true
    | _ => false
  | "-x" => mode 0o111 || c.isDirectory fs path
  | "-s" => match e with
    | .ok (.file content _) => !content.isEmpty
    | .ok .directory => true
    | _ => false
  | "-c" => match e with
    | .ok (.device _) => true
    | _ => false
  | "-h" | "-L" => match c.linkEntry fs path with
    | .ok (.link _) => true
    | _ => false
  | "-u" => mode 0o4000
  | "-g" => mode 0o2000
  | "-k" => mode 0o1000
  | _ => false

def sameFile (c : Call) (fs : Files) (a b : String) : Bool :=
  match c.locate fs a, c.locate fs b with
  | .ok p, .ok q => (fs.entry? p).isSome && (p == q || (fs.node? p).isSome && fs.node? p == fs.node? q)
  | _, _ => false

def compare (c : Call) (fs : Files) (op a b : String) : Except ConditionError Bool :=
  let numbers (test : Int → Int → Bool) : Except ConditionError Bool := do
    return test (← number a) (← number b)
  match op with
  | "=" => .ok (a = b)
  | "!=" => .ok (a ≠ b)
  | "<" => .ok (a ≠ b ∧ Text.isAtMost a.toList b.toList)
  | ">" => .ok (a ≠ b ∧ Text.isAtMost b.toList a.toList)
  | "-eq" => numbers fun x y => x == y
  | "-ne" => numbers fun x y => x != y
  | "-lt" => numbers fun x y => x < y
  | "-le" => numbers fun x y => x ≤ y
  | "-gt" => numbers fun x y => x > y
  | "-ge" => numbers fun x y => x ≥ y
  | "-ef" => .ok (sameFile c fs a b)
  | _ => .ok false

section

variable (c : Call) (fs : Files)

mutual

/-- Reads a condition without `and` and `or`; the words that come back begin with its last one. -/
def primary : (depth : Nat) → List String → Except ConditionError (Bool × List String)
  | 0, ts => .ok (false, ts)
  | _, [] => .ok (false, [])
  | depth + 1, s :: rest =>
    match operator? (s :: rest) with
    | some "!" =>
      match rest with
      | [] => .ok (true, [s])
      | rest => do
        let (holds, ts) ← primary depth rest
        return (!holds, ts)
    | some "(" =>
      if operator? rest = some ")" then .ok (false, rest)
      else do
        let (holds, ts) ← disjunction depth rest
        if operator? ts.tail = some ")" then return (holds, ts.tail) else throw .missingParenthesis
    | op =>
      if unaryOperators.contains s ∧ op.isSome then
        match rest with
        | [] => .error (.missingArgument s)
        | arg :: _ =>
          match s with
          | "-z" => .ok (arg = "", rest)
          | "-n" => .ok (arg ≠ "", rest)
          | "-t" => do
            let _ ← number arg
            return (false, rest)
          | s => .ok (onFile c fs s arg, rest)
      else
        match operator? rest, rest with
        | some op, _ :: behind =>
          if binaryOperators.contains op then
            match behind with
            | [] => .error (.missingArgument op)
            | b :: _ => do return (← compare c fs op s b, behind)
          else .ok (s ≠ "", s :: rest)
        | _, _ => .ok (s ≠ "", s :: rest)

/-- Reads conditions joined by `and`. -/
def conjunction : (depth : Nat) → List String → Except ConditionError (Bool × List String)
  | 0, ts => .ok (false, ts)
  | depth + 1, ts => do
    let (a, ts) ← primary depth ts
    if operator? ts.tail = some "-a" then
      let (b, ts) ← conjunction depth (ts.drop 2)
      return (a && b, ts)
    else return (a, ts)

/-- Reads conditions joined by `or`. -/
def disjunction : (depth : Nat) → List String → Except ConditionError (Bool × List String)
  | 0, ts => .ok (false, ts)
  | depth + 1, ts => do
    let (a, ts) ← conjunction depth ts
    if operator? ts.tail = some "-o" then
      let (b, ts) ← disjunction depth (ts.drop 2)
      return (a || b, ts)
    else return (a, ts)

end

/-- Reads a condition that has to be all of the words. -/
def whole (ts : List String) : Except ConditionError Bool := do
  match ← disjunction c fs (4 * ts.length + 4) ts with
  | (_, word :: _ :: _) => throw (.unexpected word)
  | (holds, _) => return holds

/-- Whether the condition that words are holds. Three or four words are read by their number. -/
def holds : List String → Except ConditionError Bool
  | [] => .ok false
  | a :: rest => do
    let isShort := rest.length = 2 ∨ rest.length = 3
    match rest with
    | [op, b] => if binaryOperators.contains op then return ← compare c fs op a b
    | _ => pure ()
    if isShort ∧ a = "(" ∧ rest.getLast? = some ")" then whole c fs rest.dropLast
    else if isShort ∧ a = "!" then return !(← holds rest)
    else whole c fs (a :: rest)

end

end Condition

end PatchSearch.Shell
