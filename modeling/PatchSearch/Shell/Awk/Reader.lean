import PatchSearch.Shell.Awk.Matching

namespace PatchSearch.Shell.Awk

/-- What a name stands for, as far as that is known. -/
inductive Kind where
  | unknown
  | scalar
  | array
deriving Repr, DecidableEq

/-- What a function is called with: a value, or what a name stands for, that may belong to a function
itself. -/
inductive Argument where
  | value
  | named (owner : Option String) (name : String)

structure Calling where
  name : String
  args : List Argument
  line : Nat

structure Reading where
  rest : List Lexeme
  /-- Faults that reading goes on after, the last one first. -/
  faults : List LineFault
  kinds : List (String × Kind)
  /-- The function that is being read, and its parameters. -/
  current : Option String
  params : Option (List (String × Kind))
  routines : List (String × List (String × Kind))
  /-- Calls, the last one first. -/
  called : List Calling
  loops : Nat
  records : Bool

abbrev Reader := StateT Reading (Except (List LineFault))

namespace Reader

def peek : Reader Lexeme := do
  return (← get).rest.headD ⟨.finish, 0, 0, 0, []⟩

def token : Reader Token := do
  return (← peek).token

def advance : Reader Unit :=
  modify fun r => { r with
    rest := r.rest.tail
    faults := (r.rest.tail.head?.map (·.faults)).getD [] ++ r.faults }

def closes (r : Reading) : Bool :=
  r.rest.any fun l => match l.token with
    | .sign s => s == "\x7d"
    | _ => false

def fail {α : Type} (f : Fault) : Reader α := do
  let r ← get
  throw (r.faults.reverse ++ [⟨(← peek).line, f⟩])

def isEnd : Token → Bool
  | .lineEnd | .finish => true
  | .sign s => s == ";" || s == "\x7d"
  | _ => false

def refuse {α : Type} : Reader α := do
  let l ← peek
  let r ← get
  let inside := 0 < l.braces
  let f := match l.token with
    | .wrong f => f
    | .finish => if inside then .missing '\x7d' l.token.shown else .near l.token.shown
    | t => if isEnd t ∧ 0 < l.parens then .missing ')' t.shown else .near t.shown
  let more : List LineFault := match l.token with
    | .finish => []
    | .wrong (.strange _) | .lineEnd =>
      if inside ∧ !closes r then
        [⟨((r.rest.getLast?.map (·.line)).getD 0), .missing '\x7d' "end of file"⟩]
      else []
    | _ => []
  throw (r.faults.reverse ++ ⟨l.line, f⟩ :: more)

def isSign (s : String) : Reader Bool := do
  match ← token with
  | .sign t => return t == s
  | _ => return false

def isWord (s : String) : Reader Bool := do
  match ← token with
  | .word t => return t == s
  | _ => return false

def trySign (s : String) : Reader Bool := do
  let found ← isSign s
  if found then advance
  return found

def tryWord (s : String) : Reader Bool := do
  let found ← isWord s
  if found then advance
  return found

def expect (s : String) : Reader Unit := do
  if !(← trySign s) then refuse

/-- Takes a line end that does not count here. -/
def skipLineEnd : Reader Unit := do
  match ← token with
  | .lineEnd => advance
  | _ => return ()

/-- Takes what ends a statement; a closing brace does so and stays. -/
def endStatement : Reader Unit := do
  match ← token with
  | .lineEnd => advance
  | .sign ";" => advance
  | .sign "\x7d" => return ()
  | _ => refuse

section Names

def kindOf (r : Reading) (name : String) : Kind :=
  match r.params.bind fun ps => ps.lookup name with
  | some k => k
  | none => (r.kinds.lookup name).getD .unknown

def settle (name : String) (kind : Kind) : Reader Unit := do
  let r ← get
  let isLocal := (r.params.getD []).any (·.1 = name)
  let old := kindOf r name
  if old = .unknown then
    let replace (ks : List (String × Kind)) : List (String × Kind) :=
      ks.map fun (n, k) => if n = name then (n, kind) else (n, k)
    if isLocal then set { r with params := r.params.map replace }
    else set { r with kinds := (name, kind) :: r.kinds.filter (·.1 ≠ name) }
  else if kind ≠ .unknown ∧ old ≠ kind then
    let word := if old = .array then "array" else "variable"
    fail (.notScalar (if isLocal then "local " ++ word else word) name)

def isVariable (name : String) : Reader Bool := do
  let r ← get
  return (r.params.getD []).any (·.1 = name) || r.kinds.any (·.1 = name)

def isRoutine (name : String) : Reader Bool := do
  let r ← get
  return r.routines.any (·.1 = name) || r.called.any (·.name = name)

def array (name : String) : Reader String := do
  settle name .array
  return name

def arrayName : Reader String := do
  match ← token with
  | .name name _ =>
    advance
    array name
  | _ => refuse

end Names

def compile (cs : List Char) : Reader Regex := do
  match readRegex cs with
  | .ok r => return r
  | .error e => fail (.badRegex e cs)

/-- An expression as a pattern, read at once if it is a text. -/
def asPattern : Expr → Reader Expr
  | .text cs => return .regex (← compile cs)
  | e => return e

def asDivision (e : Expr) : Reader Expr := do
  match e with
  | .text (c :: d :: cs) => return .regex (← compile (c :: d :: cs))
  | e => return e

/-- Whether an expression stands for something that can be changed. -/
def isTarget : Expr → Bool
  | .named _ | .element .. | .field _ => true
  | .group [.field _] => true
  | _ => false

/-- What stands between the parentheses of a target. -/
def bare : Expr → Expr
  | .group [e] => e
  | e => e

/-- The operation of a sign that changes a target; none for plain assignment. -/
def assignment? : Token → Option (Option Operation)
  | .sign "=" => some none
  | .sign "+=" => some (some .add)
  | .sign "-=" => some (some .subtract)
  | .sign "*=" => some (some .multiply)
  | .sign "/=" => some (some .divide)
  | .sign "%=" => some (some .remainder)
  | .sign "^=" => some (some .power)
  | _ => none

/-- How an operator joins two expressions, for each level of operators. Inside of a print statement a
greater sign is no operator. -/
def operator? (printing : Bool) : (level : Nat) → Token → Option (Expr → Expr → Expr)
  | 1, .sign "||" => some .either
  | 2, .sign "&&" => some .both
  | 4, .sign "~" => some (.matching true)
  | 4, .sign "!~" => some (.matching false)
  | 5, .sign "<" => some (.compare .less)
  | 5, .sign "<=" => some (.compare .atMost)
  | 5, .sign "==" => some (.compare .equal)
  | 5, .sign "!=" => some (.compare .different)
  | 5, .sign ">=" => some (.compare .atLeast)
  | 5, .sign ">" => if printing then none else some (.compare .greater)
  | 7, .sign "+" => some (.calculate .add)
  | 7, .sign "-" => some (.calculate .subtract)
  | 8, .sign "*" => some (.calculate .multiply)
  | 8, .sign "/" => some (.calculate .divide)
  | 8, .sign "%" => some (.calculate .remainder)
  | _, _ => none

/-- Whether a token begins an expression that another one is joined to. -/
def begins : Token → Bool
  | .number .. | .text _ | .regex _ | .name .. | .builtIn .. => true
  | .word s => s == "getline"
  | .sign s => s == "$" || s == "!" || s == "(" || s == "++" || s == "--"
  | _ => false

/-- The numbers of arguments that a function may have. -/
def argumentCounts : BuiltIn → Nat × Nat
  | .length | .seed | .flush => (0, 1)
  | .index | .angle | .find => (2, 2)
  | .part | .split | .replaceFirst | .replaceAll => (2, 3)
  | .format => (1, 255)
  | .random => (0, 0)
  | _ => (1, 1)

/-- Whether the first argument of a function may be an array. -/
def takesArray (f : BuiltIn) : Bool :=
  f = .length

mutual

def expression (printing : Bool) : (depth : Nat) → Reader Expr
  | 0 => refuse
  | depth + 1 => do
    let e ← level printing depth 1
    if ← trySign "?" then
      let x ← expression printing depth
      expect ":"
      let y ← expression printing depth
      return .choose e x y
    else return e

/-- Reads an expression of operators of a level and of higher ones. -/
def level (printing : Bool) : (depth : Nat) → (n : Nat) → Reader Expr
  | 0, _ => refuse
  | depth + 1, n => do
    if n = 9 then unary printing depth
    else
      let e ← level printing depth (n + 1)
      if n = 6 then
        let joined ← joins printing depth e
        match assignment? (← token) with
        | none => return joined
        | some o =>
          if !isTarget joined then return joined
          advance
          let value ← expression printing depth
          match o with
          | none => return .assign (bare joined) value
          | some o => return .update (bare joined) o value
      else levelRest printing depth n e

/-- Reads on behind an expression, for operators of a level. -/
def levelRest (printing : Bool) : (depth : Nat) → (n : Nat) → Expr → Reader Expr
  | 0, _, _ => refuse
  | depth + 1, n, e => do
    if n = 3 then
      if ← tryWord "in" then
        let name ← arrayName
        let parts := match e with
          | .group (x :: y :: more) => x :: y :: more
          | e => [e]
        levelRest printing depth n (.member parts name)
      else return e
    else
      match operator? printing n (← token) with
      | none => return e
      | some f =>
        advance
        let x ← level printing depth (n + 1)
        levelRest printing depth n (f e (← if n = 4 then asPattern x else pure x))

/-- Reads on behind an expression that others may be joined to. -/
def joins (printing : Bool) : (depth : Nat) → Expr → Reader Expr
  | 0, _ => refuse
  | depth + 1, e => do
    if begins (← token) then
      let x ← level printing depth 7
      joins printing depth (.join e x)
    else return e

/-- Reads an expression with signs in front of it. -/
def unary (printing : Bool) : (depth : Nat) → Reader Expr
  | 0 => refuse
  | depth + 1 => do
    if ← trySign "!" then return .invert (← unary printing depth)
    else if ← trySign "-" then return .negate (← unary printing depth)
    else if ← trySign "+" then return .plain (← unary printing depth)
    else
      let e ← power printing depth
      commands printing depth e

/-- Reads on behind a command line whose output is read. -/
def commands (printing : Bool) : (depth : Nat) → Expr → Reader Expr
  | 0, _ => refuse
  | depth + 1, e => do
    if !printing ∧ (← isSign "|") then
      advance
      if !(← tryWord "getline") then refuse
      let target ← maybeTarget printing depth
      commands printing depth (.readCommand target e)
    else return e

/-- Reads an expression that may be raised to a power. -/
def power (printing : Bool) : (depth : Nat) → Reader Expr
  | 0 => refuse
  | depth + 1 => do
    let e ← counted printing depth
    if ← trySign "^" then
      let x ← exponent printing depth
      return .calculate .power e x
    else return e

def exponent (printing : Bool) : (depth : Nat) → Reader Expr
  | 0 => refuse
  | depth + 1 => do
    if ← trySign "!" then return .invert (← exponent printing depth)
    else if ← trySign "-" then return .negate (← exponent printing depth)
    else if ← trySign "+" then return .plain (← exponent printing depth)
    else power printing depth

/-- Reads an operand that may be counted up or down. -/
def counted (printing : Bool) : (depth : Nat) → Reader Expr
  | 0 => refuse
  | depth + 1 => do
    let e ← operand printing depth
    if isTarget e then
      if ← trySign "++" then return .step (bare e) true false
      else if ← trySign "--" then return .step (bare e) false false
      else return e
    else return e

def maybeTarget (printing : Bool) : (depth : Nat) → Reader (Option Expr)
  | 0 => refuse
  | depth + 1 => do
    match ← token with
    | .name .. =>
      let e ← operand printing depth
      return some e
    | .sign "$" => return some (← operand printing depth)
    | _ => return none

def target (printing : Bool) : (depth : Nat) → Reader Expr
  | 0 => refuse
  | depth + 1 => do
    match ← maybeTarget printing depth with
    | some e => if isTarget e then return bare e else refuse
    | none => refuse

def operand (printing : Bool) : (depth : Nat) → Reader Expr
  | 0 => refuse
  | depth + 1 => do
    match ← token with
    | .number x _ =>
      advance
      return .number x
    | .text cs =>
      advance
      return .text cs
    | .regex cs =>
      let r ← compile cs
      advance
      return .regex r
    | .sign "(" =>
      advance
      let parts ← expressions false depth
      expect ")"
      match parts with
      | [_] => return .group parts
      | _ => if ← isWord "in" then return .group parts else refuse
    | .sign "$" =>
      advance
      match ← token with
      | .sign s =>
        if s = "-" ∨ s = "+" ∨ s = "!" then return .field (← unary printing depth)
        else return .field (← operand printing depth)
      | .name "NF" _ => return .field (← counted printing depth)
      | _ => return .field (← operand printing depth)
    | .sign "++" =>
      advance
      return .step (← target printing depth) true true
    | .sign "--" =>
      advance
      return .step (← target printing depth) false true
    | .word "getline" =>
      advance
      let target ← maybeTarget printing depth
      if ← trySign "<" then
        let path ← power printing depth
        return .readFile target path
      else return .readNext target
    | .builtIn f name =>
      advance
      builtIn depth f name
    | .name name opened =>
      let line := (← peek).line
      let isCall := (opened && !(← isVariable name)) || (← isRoutine name)
      advance
      if isCall then
        expect "("
        let args ← if ← isSign ")" then pure [] else arguments depth
        expect ")"
        let r ← get
        let given := args.map fun e => match e with
          | .named s =>
            Argument.named (if (r.params.getD []).any (·.1 = s) then r.current else none) s
          | _ => .value
        set { r with called := ⟨name, given, line⟩ :: r.called }
        return .call name args
      else if ← trySign "[" then
        let name ← array name
        let subscripts ← expressions false depth
        expect "]"
        return .element name subscripts
      else
        settle name .scalar
        return .named name
    | _ => refuse

/-- Reads the call of a function that every program knows. -/
def builtIn : (depth : Nat) → BuiltIn → (name : String) → Reader Expr
  | 0, _, _ => refuse
  | depth + 1, f, name => do
    if f = .length ∧ !(← isSign "(") then return .apply f []
    expect "("
    let args ← if ← isSign ")" then pure [] else
      match f with
      | .length =>
        match (← get).rest with
        | ⟨.name s false, _, _, _, _⟩ :: ⟨.sign ")", _, _, _, _⟩ :: _ =>
          advance
          settle s .unknown
          pure [Expr.named s]
        | _ => pure [← expression false depth]
      | .split =>
        let first ← expression false depth
        expect ","
        let name ← arrayName
        if ← trySign "," then pure [first, .named name, ← asDivision (← expression false depth)]
        else pure [first, .named name]
      | .replaceFirst | .replaceAll =>
        let first ← asPattern (← expression false depth)
        expect ","
        let second ← expression false depth
        if ← trySign "," then pure [first, second, ← target false depth] else pure [first, second]
      | .find =>
        match ← expressions false depth with
        | [x, p] => pure [x, ← asPattern p]
        | args => pure args
      | _ => expressions false depth
    if !(← isSign ")") then refuse
    let (least, most) := argumentCounts f
    if args.length < least ∨ most < args.length then fail (.wrongCount name)
    advance
    return .apply f args

/-- Reads the arguments of a function; a name on its own may be an array. -/
def arguments : (depth : Nat) → Reader (List Expr)
  | 0 => refuse
  | depth + 1 => do
    let first ← match (← get).rest with
      | ⟨.name s false, _, _, _, _⟩ :: ⟨.sign t, _, _, _, _⟩ :: _ =>
        if (t = "," ∨ t = ")") ∧ !(← isRoutine s) then
          advance
          settle s .unknown
          pure (Expr.named s)
        else expression false depth
      | _ => expression false depth
    if ← trySign "," then return first :: (← arguments depth) else return [first]

def expressions (printing : Bool) : (depth : Nat) → Reader (List Expr)
  | 0 => refuse
  | depth + 1 => do
    let e ← expression printing depth
    if ← trySign "," then return e :: (← expressions printing depth) else return [e]

end

/-- Reads what a print statement prints, which may stand between parentheses. -/
def printed (depth : Nat) : Reader (List Expr) := do
  let plainly : Reader (List Expr) := do
    match ← token with
    | .sign s => if isEnd (.sign s) ∨ s = ">" ∨ s = ">>" ∨ s = "|" then return [] else expressions true depth
    | .lineEnd => return []
    | _ => expressions true depth
  if ← isSign "(" then
    let before ← get
    let grouped : Reader (List Expr) := do
      advance
      let parts ← if ← isSign ")" then pure [] else expressions false depth
      expect ")"
      return parts
    match grouped.run before with
    | .error _ => plainly
    | .ok (parts, after) =>
      let next := (after.rest.head?.map (·.token)).getD .finish
      let closed : Bool := match next with
        | .sign s => s == ">" || s == ">>" || s == "|" || isEnd next
        | t => isEnd t
      if closed || parts.length != 1 then
        set after
        let isMember ← isWord "in"
        if isMember then
          set before
          plainly
        else if !closed then refuse
        else return parts
      else plainly
  else plainly

def direction (depth : Nat) : Reader (Option (Direction × Expr)) := do
  let towards (d : Direction) : Reader (Option (Direction × Expr)) := do
    advance
    return some (d, ← expression false depth)
  if ← isSign ">" then towards .file
  else if ← isSign ">>" then towards .append
  else if ← isSign "|" then towards .pipe
  else return none

def inLoop {α : Type} (body : Reader α) : Reader α := do
  modify fun r => { r with loops := r.loops + 1 }
  let a ← body
  modify fun r => { r with loops := r.loops - 1 }
  return a

def condition (depth : Nat) : Reader Expr := do
  expect "("
  let e ← expression false depth
  expect ")"
  return e

def wordStatement? (depth : Nat) (word : String) : Reader (Option Statement) := do
  let isOver : Reader Bool := do return isEnd (← token)
  let finish (s : Statement) : Reader (Option Statement) := do
    endStatement
    return some s
  if word = "print" then
    advance
    let args ← printed depth
    let target ← direction depth
    finish (.print args target)
  else if word = "printf" then
    advance
    let args ← printed depth
    if args = [] then fail .nothingToFormat
    let target ← direction depth
    finish (.format args target)
  else if word = "next" ∨ word = "nextfile" then
    if !(← get).records then fail (.improper word)
    advance
    finish (if word = "next" then .nextRecord else .nextFile)
  else if word = "break" ∨ word = "continue" then
    if (← get).loops = 0 then fail (.outsideLoop word)
    advance
    finish (if word = "break" then .leave else .again)
  else if word = "exit" ∨ word = "return" then
    if word = "return" ∧ (← get).params.isNone then fail .outsideRoutine
    advance
    let value ← if ← isOver then pure none else some <$> expression false depth
    finish (if word = "exit" then .exit value else .answer value)
  else if word = "delete" then
    advance
    let name ← arrayName
    if ← trySign "[" then
      let subscripts ← expressions false depth
      expect "]"
      finish (.delete name subscripts)
    else finish (.delete name [])
  else return none

mutual

def statement : (depth : Nat) → Reader Statement
  | 0 => refuse
  | depth + 1 => do
    match ← token with
    | .sign "\x7b" => block depth
    | .sign ";" =>
      advance
      return .block []
    | .sign "\x7d" => return .block []
    | .word "if" =>
      advance
      let test ← condition depth
      skipLineEnd
      let yes ← statement depth
      if ← tryWord "else" then return .branch test yes (some (← statement depth))
      else return .branch test yes none
    | .word "while" =>
      advance
      let test ← condition depth
      if ← trySign ";" then return .loop true (some test) none (.block [])
      skipLineEnd
      let body ← inLoop (statement depth)
      return .loop true (some test) none body
    | .word "do" =>
      advance
      let body ← inLoop (statement depth)
      if !(← tryWord "while") then refuse
      let test ← condition depth
      endStatement
      return .loop false (some test) none body
    | .word "for" =>
      advance
      expect "("
      forLoop depth
    | .word word =>
      match ← wordStatement? depth word with
      | some s => return s
      | none =>
        let e ← expression false depth
        endStatement
        return .value e
    | _ =>
      let e ← expression false depth
      endStatement
      return .value e

def forLoop : (depth : Nat) → Reader Statement
  | 0 => refuse
  | depth + 1 => do
    match (← get).rest with
    | ⟨.name name _, _, _, _, _⟩ :: ⟨.word "in", _, _, _, _⟩ :: ⟨.name arr _, _, _, _, _⟩ ::
        ⟨.sign ")", _, _, _, _⟩ :: _ =>
      settle name .scalar
      settle arr .array
      advance
      advance
      advance
      advance
      skipLineEnd
      return .each name arr (← inLoop (statement depth))
    | _ =>
      let start ← if ← isSign ";" then pure none else some <$> expression false depth
      expect ";"
      let test ← if ← isSign ";" then pure none else some <$> expression false depth
      expect ";"
      let step ← if ← isSign ")" then pure none else some <$> expression false depth
      expect ")"
      skipLineEnd
      let body ← inLoop (statement depth)
      return .block ((start.map Statement.value).toList ++ [.loop true test step body])

def block : (depth : Nat) → Reader Statement
  | 0 => refuse
  | depth + 1 => do
    expect "\x7b"
    let body ← statements depth
    return .block body

/-- Reads statements up to a closing brace. -/
def statements : (depth : Nat) → Reader (List Statement)
  | 0 => refuse
  | depth + 1 => do
    if ← trySign "\x7d" then return []
    else
      let s ← statement depth
      return s :: (← statements depth)

end

def parameters : (depth : Nat) → Reader (List String)
  | 0 => refuse
  | depth + 1 => do
    match ← token with
    | .name s _ =>
      advance
      if ← trySign "," then return s :: (← parameters depth) else return [s]
    | _ => refuse

/-- Reads a function behind its first word. -/
def routine (depth : Nat) : Reader Routine := do
  match ← token with
  | .name name _ =>
    if (← get).routines.any (·.1 = name) then fail (.redefined name)
    if ← isVariable name then refuse
    advance
    if !(← trySign "(") then refuse
    let params ← if ← isSign ")" then pure [] else parameters depth
    if params.contains name then
      let r ← get
      let line := (← peek).line
      throw (r.faults.reverse ++ [⟨line, .ownParameter⟩, ⟨line, .near name⟩])
    match params.find? fun p => 1 < params.count p with
    | some p => fail (.twice p)
    | none => pure ()
    if !(← trySign ")") then refuse
    skipLineEnd
    modify fun r => { r with
      routines := (name, params.map fun p => (p, Kind.unknown)) :: r.routines
      current := some name
      params := some (params.map fun p => (p, Kind.unknown))
      records := false }
    let body ← block depth
    modify fun r => { r with
      current := none, params := none
      routines := r.routines.map fun (n, ps) => if n = name then (n, r.params.getD ps) else (n, ps) }
    return ⟨name, params, body⟩
  | _ => refuse

def rule (depth : Nat) : Reader Rule := do
  let withBlock (p : Pattern) (records : Bool) : Reader Rule := do
    modify fun r => { r with records := records }
    if !(← isSign "\x7b") then refuse
    return ⟨p, some (← block depth)⟩
  if ← tryWord "BEGIN" then withBlock .first false
  else if ← tryWord "END" then withBlock .last false
  else if ← isSign "\x7b" then withBlock .every true
  else
    let e ← expression false depth
    let pattern ← if ← trySign "," then
        pure (Pattern.span e (← expression false depth))
      else pure (Pattern.test e)
    match ← token with
    | .sign "\x7b" => withBlock pattern true
    | .sign ";" | .lineEnd =>
      advance
      return ⟨pattern, none⟩
    | _ => refuse

def code (depth : Nat) : (left : Nat) → Reader Code
  | 0 => return ⟨[], []⟩
  | left + 1 => do
    match ← token with
    | .finish => return ⟨[], []⟩
    | .word "function" =>
      advance
      let f ← routine depth
      let c ← code depth left
      return { c with routines := f :: c.routines }
    | _ =>
      let r ← rule depth
      let c ← code depth left
      return { c with rules := r :: c.rules }

def argumentKind (r : Reading) : Argument → Kind
  | .value => .scalar
  | .named none name => (r.kinds.lookup name).getD .unknown
  | .named (some owner) name => (((r.routines.lookup owner).getD []).lookup name).getD .unknown

/-- The first argument of a call that is not what its function wants, with its number. -/
def misfit? (r : Reading) (params : List (String × Kind)) (args : List Argument) : Option (Nat × Kind) :=
  ((args.zip params).zipIdx.find? fun ((a, (_, wanted)), _) =>
    let given := argumentKind r a
    given != .unknown && wanted != .unknown && given != wanted).map
      fun ((a, _), i) => (i + 1, argumentKind r a)

/-- Faults that show only at the end of a program: calls that fit no function. -/
def callFaults (r : Reading) (line : Nat) : List LineFault :=
  let missing := r.called.reverse.filterMap fun c =>
    if r.routines.any (·.1 = c.name) then none else some (LineFault.mk line (.undefined c.name))
  let wrong := r.called.reverse.filterMap fun c =>
    match r.routines.lookup c.name with
    | some params =>
      if params.length < c.args.length then some (LineFault.mk c.line (.tooMany c.name))
      else (misfit? r params c.args).map fun (n, kind) =>
        LineFault.mk c.line (.misfit n c.name (kind = .array))
    | none => none
  wrong ++ missing

/-- Names that stand for the same in all programs. -/
def givenNames : List (String × Kind) :=
  [("ENVIRON", .array), ("ARGV", .array), ("NF", .scalar), ("NR", .scalar), ("FNR", .scalar),
    ("FS", .scalar), ("OFS", .scalar), ("ORS", .scalar), ("RS", .scalar), ("FILENAME", .scalar),
    ("SUBSEP", .scalar), ("RSTART", .scalar), ("RLENGTH", .scalar), ("CONVFMT", .scalar),
    ("OFMT", .scalar), ("ARGC", .scalar)]

end Reader

def Code.read (cs : List Char) : Except (List LineFault) Code := do
  let lexemes := tokens cs
  let start : Reading :=
    { rest := lexemes, faults := (lexemes.head?.map (·.faults)).getD [], kinds := Reader.givenNames
      current := none, params := none, routines := [], called := [], loops := 0, records := true }
  let (c, r) ← (Reader.code (20 * lexemes.length + 40) (lexemes.length + 1)).run start
  let line := (lexemes.getLast?.map (·.line)).getD 1
  match r.faults.reverse ++ Reader.callFaults r line with
  | [] => return c
  | faults => throw faults

end PatchSearch.Shell.Awk
