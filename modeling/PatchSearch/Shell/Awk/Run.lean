import PatchSearch.Shell.Awk.Reader
import PatchSearch.Shell.Awk.State

namespace PatchSearch.Shell.Awk

/-- What does not change while a program runs. -/
structure Setting where
  call : Call
  code : Code

inductive Target where
  | named (name : String)
  | field (n : Nat)
  | element (id : Nat) (k : Key)

def Target.value : Target → Run Value
  | .named name => valueOf name
  | .field n => Awk.field n
  | .element id k => Awk.element id k

def Target.put (t : Target) (v : Value) : Run Unit :=
  match t with
  | .named name => store name v
  | .field n => setField n v
  | .element id k => setElement id k v

/-- How many functions may run at a time. -/
def maxDepth : Nat := 250

def fieldNumber (v : Value) : Run Nat := do
  let n := wholePart v.toNumber
  if n < 0 then fault ("negative field index $" ++ toString n)
  return n.toNat

/-- Where a text is in another one, counted from one; zero if it is not there. -/
def indexOf (part : List Char) : (place : Nat) → List Char → Nat
  | _, [] => 0
  | place, c :: cs => if part.isPrefixOf (c :: cs) then place else indexOf part (place + 1) cs

/-- A part of a text from a place on, with so many characters or all. -/
def partOf (cs : List Char) (start : Float) (count : Option Float) : List Char :=
  let first := wholePart start
  let first := if start.isNaN then 0 else first
  let length : Int := match count with
    | some n => wholePart n
    | none => cs.length
  let length := if first ≤ 0 then length - first else length
  let first := if first ≤ 0 then 1 else first
  (cs.drop (first - 1).toNat).take length.toNat

/-- The next random number, and what the one behind it is made from. -/
def randomStep (seed : Nat) : Float × Nat :=
  let next := (seed * 1103515245 + 12345) % 2147483648
  (next.toFloat / 2147483648, next)

/-- The value of a function that needs nothing but the values of its arguments. -/
def plainBuiltIn (c : Call) (f : BuiltIn) (args : List Value) : Run Value := do
  let number (n : Nat) : Float := ((args[n]?).getD .unset).toNumber
  let text (n : Nat) : Run (List Char) := textOf ((args[n]?).getD .unset)
  match f with
  | .index => return .ofNat (indexOf (← text 1) 1 (← text 0))
  | .part =>
    let count := if args.length < 3 then none else some (number 2)
    return .text (partOf (← text 0) (number 1) count)
  | .format =>
    let format ← text 0
    match Formatting.make (← numberFormat) format args.tail with
    | (cs, none) => return .text cs
    | (_, some e) => fault (e.message "sprintf" format)
  | .sine => return .number (number 0).sin
  | .cosine => return .number (number 0).cos
  | .angle => return .number (Float.atan2 (number 0) (number 1))
  | .exponential => return .number (number 0).exp
  | .logarithm => return .number (number 0).log
  | .root => return .number (number 0).sqrt
  | .whole =>
    let x := number 0
    return .number (if x < 0 then x.ceil else x.floor)
  | .random =>
    let st ← get
    let (x, next) := randomStep st.seed
    set { st with seed := next }
    return .number x
  | .seed =>
    let st ← get
    set { st with seed := if args = [] then 1 else (wholePart (number 0)).toNat }
    return .ofNat st.seed
  | .close =>
    match ← close c (String.ofList (← text 0)) with
    | some status => return .ofNat status
    | none => return .number (-1)
  | .system =>
    flushAll
    let (status, _) ← work (runLine c "sh" (String.ofList (← text 0)) none false)
    return .ofNat status
  | .lower => return .text ((← text 0).map Char.toLower)
  | .upper => return .text ((← text 0).map Char.toUpper)
  | .flush =>
    if args = [] then flushOutput else flushAll
    return .number 0
  | _ => return .unset

mutual

def eval (q : Setting) : (depth : Nat) → Expr → Run Value
  | 0, _ => throw .exit
  | depth + 1, e => do
    match e with
    | .number x => return .number x
    | .text cs => return .text cs
    | .regex r =>
      let text ← textOf (← record)
      return .ofBool (r.isIn text)
    | .named name => valueOf name
    | .field index =>
      let n ← fieldNumber (← eval q depth index)
      field n
    | .element .. =>
      let t ← target q depth e
      t.value
    | .assign place value =>
      let t ← target q depth place
      let v ← eval q depth value
      t.put v
      return v
    | .update place o value =>
      let t ← target q depth place
      let y ← eval q depth value
      let x ← t.value
      let v := Value.number (o.apply x.toNumber y.toNumber)
      t.put v
      return v
    | .step place up before =>
      let t ← target q depth place
      let x := (← t.value).toNumber
      let y := if up then x + 1 else x - 1
      t.put (.number y)
      return .number (if before then y else x)
    | .calculate o x y =>
      let x ← eval q depth x
      let y ← eval q depth y
      return .number (o.apply x.toNumber y.toNumber)
    | .negate x => return .number (-(← eval q depth x).toNumber)
    | .plain x => return .number (← eval q depth x).toNumber
    | .invert x => return .ofBool (!(← eval q depth x).isTrue)
    | .compare o x y =>
      let x ← eval q depth x
      let y ← eval q depth y
      return .ofBool (o.accepts (x.order (← numberFormat) y))
    | .join x y =>
      let x ← textOf (← eval q depth x)
      let y ← textOf (← eval q depth y)
      return .text (x ++ y)
    | .both x y =>
      if (← eval q depth x).isTrue then return .ofBool (← eval q depth y).isTrue
      else return .ofBool false
    | .either x y =>
      if (← eval q depth x).isTrue then return .ofBool true
      else return .ofBool (← eval q depth y).isTrue
    | .choose test x y => if (← eval q depth test).isTrue then eval q depth x else eval q depth y
    | .member subscripts name =>
      let k ← key q depth subscripts
      let id ← tableOf name
      match (← table id).get? k with
      | some (_, t) =>
        setTable id t
        return .ofBool true
      | none => return .ofBool false
    | .matching wanted x pattern =>
      let text ← textOf (← eval q depth x)
      let r ← regex q depth pattern
      return .ofBool (r.isIn text == wanted)
    | .call name args => callRoutine q depth name args
    | .apply f args => builtIn q depth f args
    | .readNext place =>
      match ← nextRecord? q.call 100000 with
      | none => return .number 0
      | some text =>
        receive q depth place text
        return .number 1
    | .readFile place path => 
      let name ← textOf (← eval q depth path)
      receiveFrom q depth place false (String.ofList name)
    | .readCommand place line =>
      let name ← textOf (← eval q depth line)
      receiveFrom q depth place true (String.ofList name)
    | .group [e] => eval q depth e
    | .group _ => return .unset

def receive (q : Setting) : (depth : Nat) → Option Expr → List Char → Run Unit
  | 0, _, _ => throw .exit
  | depth + 1, place, text => do
    match place with
    | none => setRecord (.input text)
    | some e =>
      let t ← target q depth e
      t.put (.input text)

/-- Reads a record of a file or of the output of a command line. -/
def receiveFrom (q : Setting) : (depth : Nat) → Option Expr → (isCommand : Bool) → String → Run Value
  | 0, _, _, _ => throw .exit
  | depth + 1, place, isCommand, name => do
    match ← nextSupply? q.call isCommand name with
    | none => return .number (-1)
    | some none => return .number 0
    | some (some text) =>
      receive q depth place text
      return .number 1

def regex (q : Setting) : (depth : Nat) → Expr → Run Regex
  | 0, _ => throw .exit
  | depth + 1, e => do
    match e with
    | .regex r => return r
    | e =>
      let text ← textOf (← eval q depth e)
      regexOf text

def key (q : Setting) : (depth : Nat) → List Expr → Run Key
  | 0, _ => throw .exit
  | depth + 1, es => do
    match es with
    | [] => return ⟨[], none⟩
    | [e] =>
      match ← eval q depth e with
      | .number x =>
        let text ← textOf (.number x)
        return ⟨text, if isWhole x then some (wholePart x) else none⟩
      | v => return ⟨← textOf v, none⟩
    | e :: es =>
      let first ← textOf (← eval q depth e)
      let rest ← key q depth es
      return ⟨first ++ (← variableText "SUBSEP") ++ rest.text, none⟩

/-- What an expression that can be changed stands for. -/
def target (q : Setting) : (depth : Nat) → Expr → Run Target
  | 0, _ => throw .exit
  | depth + 1, e => do
    match e with
    | .named name => return .named name
    | .field index => return .field (← fieldNumber (← eval q depth index))
    | .element name subscripts =>
      let k ← key q depth subscripts
      return .element (← tableOf name) k
    | .group [e] => target q depth e
    | _ => return .field 0

def evalAll (q : Setting) : (depth : Nat) → List Expr → Run (List Value)
  | 0, _ => throw .exit
  | depth + 1, es => do
    match es with
    | [] => return []
    | e :: es =>
      let v ← eval q depth e
      return v :: (← evalAll q depth es)

/-- What a function gets for its arguments: the array that a name stands for, or else a value. -/
def cells (q : Setting) : (depth : Nat) → List Expr → Run (List Cell)
  | 0, _ => throw .exit
  | depth + 1, es => do
    match es with
    | [] => return []
    | .named name :: es =>
      let c ← match ← cell? name with
        | some c => pure c
        | none =>
          if name = "NF" then pure (.scalar (← valueOf name))
          else
            let c := Cell.pending (← newTable)
            setCell name c
            pure c
      return c :: (← cells q depth es)
    | e :: es =>
      let v ← eval q depth e
      return .scalar v :: (← cells q depth es)

def callRoutine (q : Setting) : (depth : Nat) → String → List Expr → Run Value
  | 0, _, _ => throw .exit
  | depth + 1, name, args => do
    match q.code.routines.find? (·.name = name) with
    | none => return .unset
    | some f =>
      let given ← cells q depth args
      let st ← get
      if maxDepth < st.depth then throw (.fatal "program limit exceeded: eval stack size=1024")
      let missing := List.replicate (f.params.length - given.length) (Cell.scalar .unset)
      set { st with locals := f.params.zip (given ++ missing), depth := st.depth + 1 }
      let restore : Run Unit := modify fun after => { after with locals := st.locals, depth := st.depth }
      let result : Value ← try
          exec q depth f.body
          pure .unset
        catch
          | .answer v => pure v
          | s =>
            restore
            throw s
      restore
      return result

/-- The value of a function that every program knows. -/
def builtIn (q : Setting) : (depth : Nat) → BuiltIn → List Expr → Run Value
  | 0, _, _ => throw .exit
  | depth + 1, f, args => do
    match f, args with
    | .length, [] => return .ofNat (← textOf (← record)).length
    | .length, [.named name] =>
      match ← cell? name with
      | some (.array id) => return .ofNat (← table id).size
      | some (.pending _) | none =>
        if name = "NF" then return .ofNat (← textOf (← valueOf name)).length else return .number 0
      | some (.scalar v) => return .ofNat (← textOf v).length
    | .length, e :: _ => return .ofNat (← textOf (← eval q depth e)).length
    | .split, e :: .named name :: rest =>
      let text ← textOf (← eval q depth e)
      let d ← match rest with
        | [] => divisionOf (← variableText "FS")
        | .regex r :: _ => pure (.regex r)
        | e :: _ => divisionOf (← textOf (← eval q depth e))
      let id ← tableOf name
      let pieces := d.pieces text
      setTable id (.ofPieces (pieces.map .input))
      return .ofNat pieces.length
    | .find, [e, pattern] =>
      let text ← textOf (← eval q depth e)
      let r ← regex q depth pattern
      let (start, length) : Float × Float := match r.search? text (Regex.origin text) with
        | some (first, last) => ((first.index + 1).toFloat, (last.index - first.index).toFloat)
        | none => (0, -1)
      store "RSTART" (.number start)
      store "RLENGTH" (.number length)
      return .number start
    | .replaceFirst, pattern :: new :: rest => replace q depth false pattern new rest
    | .replaceAll, pattern :: new :: rest => replace q depth true pattern new rest
    | f, args =>
      let values ← evalAll q depth args
      plainBuiltIn q.call f values

/-- Puts a text in the place of matches; the answer is how many there were. -/
def replace (q : Setting) : (depth : Nat) → (all : Bool) → (pattern new : Expr) → List Expr → Run Value
  | 0, _, _, _, _ => throw .exit
  | depth + 1, all, pattern, new, rest => do
    let r ← regex q depth pattern
    let new ← textOf (← eval q depth new)
    let place ← match rest with
      | e :: _ => target q depth e
      | [] => pure (.field 0)
    let text ← textOf (← place.value)
    let found := if all then r.all text else (r.search? text (Regex.origin text)).toList
    let (result, count) := replaceMatches found new text
    if 0 < count then place.put (.text result)
    return .ofNat count

def put (q : Setting) : (depth : Nat) → Option (Direction × Expr) → List Char → Run Unit
  | 0, _, _ => throw .exit
  | depth + 1, target, cs => do
    match target with
    | none => emit cs
    | some (d, e) =>
      let name ← textOf (← eval q depth e)
      writeOut q.call d (String.ofList name) cs

def exec (q : Setting) : (depth : Nat) → Statement → Run Unit
  | 0, _ => throw .exit
  | depth + 1, s => do
    match s with
    | .block body => execAll q depth body
    | .value e =>
      let _ ← eval q depth e
    | .print args target =>
      let format := (← plainValue "OFMT").toText []
      let values ← if args.isEmpty then pure [← record] else evalAll q depth args
      let texts := values.map (Value.toText format)
      let text := (← variableText "OFS").intercalate texts ++ (← variableText "ORS")
      put q depth target text
    | .format args target =>
      let values ← evalAll q depth args
      let format ← textOf (values.headD .unset)
      let (text, e) := Formatting.make (← numberFormat) format values.tail
      put q depth target text
      match e with
      | some e => fault (e.message "printf" format)
      | none => return ()
    | .branch test yes no =>
      if (← eval q depth test).isTrue then exec q depth yes
      else
        match no with
        | some s => exec q depth s
        | none => return ()
    | .loop testFirst test step body => loop q depth testFirst test step body
    | .each name arr body =>
      let id ← tableOf arr
      let t ← table id
      setTable id t.withTexts
      each q depth name t.keys body
    | .leave => throw .leave
    | .again => throw .again
    | .nextRecord => throw .nextRecord
    | .nextFile => throw .nextFile
    | .exit status =>
      match status with
      | some e =>
        let v ← eval q depth e
        modify fun st => { st with status := (wholePart v.toNumber % 256).toNat }
      | none => pure ()
      throw .exit
    | .answer value =>
      match value with
      | some e => throw (.answer (← eval q depth e))
      | none => throw (.answer .unset)
    | .delete name [] => setTable (← tableOf name) .empty
    | .delete name subscripts =>
      let k ← key q depth subscripts
      let id ← tableOf name
      setTable id ((← table id).erase k)

def execAll (q : Setting) : (depth : Nat) → List Statement → Run Unit
  | 0, _ => throw .exit
  | depth + 1, ss => do
    match ss with
    | [] => return ()
    | s :: ss =>
      exec q depth s
      execAll q depth ss

/-- One round of a loop; the answer tells whether it goes on. -/
def round (q : Setting) : (depth : Nat) → Statement → Run Bool
  | 0, _ => throw .exit
  | depth + 1, body =>
    tryCatch (do
      exec q depth body
      return true) fun
      | .leave => return false
      | .again => return true
      | s => throw s

def loop (q : Setting) : (depth : Nat) → (testFirst : Bool) → (test step : Option Expr) → Statement →
    Run Unit
  | 0, _, _, _, _ => throw .exit
  | depth + 1, testFirst, test, step, body => do
    let holds ← match testFirst, test with
      | true, some e => pure (← eval q depth e).isTrue
      | _, _ => pure true
    if holds then
      if ← round q depth body then
        match step with
        | some e =>
          let _ ← eval q depth e
        | none => pure ()
        let more ← match testFirst, test with
          | false, some e => pure (← eval q depth e).isTrue
          | _, _ => pure true
        if more then loop q depth testFirst test step body

def each (q : Setting) : (depth : Nat) → (name : String) → List (List Char) → Statement → Run Unit
  | 0, _, _, _ => throw .exit
  | depth + 1, name, keys, body => do
    match keys with
    | [] => return ()
    | k :: keys =>
      store name (.text k)
      if ← round q depth body then each q depth name keys body

end

/-- How deep calls may be, and how often loops may go round. -/
def limit : Nat := 10000000

/-- Whether a rule is for the record; `index` is the number of the rule. -/
def applies (q : Setting) (index : Nat) : Pattern → Run Bool
  | .first | .last => return false
  | .every => return true
  | .test e => return (← eval q limit e).isTrue
  | .span first last => do
    let isOpen := (← get).spans.contains index
    if isOpen || (← eval q limit first).isTrue then
      let isDone := (← eval q limit last).isTrue
      modify fun st =>
        let others := st.spans.filter (· ≠ index)
        { st with spans := if isDone then others else index :: others }
      return true
    else return false

def act (q : Setting) (r : Rule) : Run Unit :=
  match r.action with
  | some s => exec q limit s
  | none => exec q limit (.print [] none)

def rules (q : Setting) : Run Unit := do
  for (r, i) in q.code.rules.zipIdx do
    if ← applies q i r.pattern then act q r

/-- Runs the rules for all records, at most `left` of them. -/
def records (q : Setting) : (left : Nat) → Run Unit
  | 0 => return ()
  | left + 1 => do
    match ← nextRecord? q.call 100000 with
    | none => return ()
    | some text =>
      setRecord (.input text)
      tryCatch (rules q) fun
        | .nextRecord => return ()
        | .nextFile => modify fun st => { st with input := none }
        | s => throw s
      records q left

def Pattern.isFirst : Pattern → Bool
  | .first => true
  | _ => false

def Pattern.isLast : Pattern → Bool
  | .last => true
  | _ => false

/-- Runs a part of a program up to where it exits. -/
def upToExit (body : Run Unit) : Run Bool :=
  tryCatch (do
    body
    return true) fun
    | .exit => return false
    | s => throw s

def runCode (q : Setting) : Run Unit := do
  let chosen (test : Pattern → Bool) : List Rule := q.code.rules.filter fun r => test r.pattern
  let rest := q.code.rules.filter fun r => !r.pattern.isFirst
  let more ← upToExit ((chosen Pattern.isFirst).forM (act q))
  if rest = [] then return ()
  if more then
    let _ ← upToExit (records q limit)
  let _ ← upToExit ((chosen Pattern.isLast).forM (act q))

def startValues : List (String × Value) :=
  [("NR", .number 0), ("FNR", .number 0), ("FS", .text [' ']), ("OFS", .text [' ']),
    ("ORS", .text ['\n']), ("RS", .text ['\n']), ("FILENAME", .unset), ("SUBSEP", .text ['\x1c']),
    ("CONVFMT", .text "%.6g".toList),
    ("OFMT", .text "%.6g".toList)]

/-- The state before a program runs, with its arguments. -/
def State.start (name : String) (args : List String) (environment : List (String × String)) : State :=
  let argv := (name :: args).zipIdx.foldl (fun t (arg, i) =>
    t.put ⟨(toString i).toList, some i⟩ (.input arg.toList)) Table.empty
  let environ := environment.foldl (fun t (name, v) => t.put ⟨name.toList, none⟩ (.input v.toList)) Table.empty
  { globals := ("ARGC", .scalar (.ofNat (args.length + 1))) :: ("ARGV", .array 0) ::
      ("ENVIRON", .array 1) :: startValues.map fun (name, v) => (name, .scalar v)
    locals := [], arrays := #[argv, environ], record := .input [], stale := false, fields := #[]
    buffer := [], writers := [], supplies := [], place := 1, input := none, opened := false
    spans := [], seed := 0, status := 0, depth := 0 }

/-- Runs a program with variables that are set before; the answer is its status. -/
def execute (q : Setting) (args : List String) (given : List (String × Value)) :
    Work Nat := do
  let run (body : Run Unit) (st : State) : Work State := do
    match ← (body.run).run st with
    | (.error (.fatal message), st) =>
      q.call.warn message
      return { st with status := 2 }
    | (_, st) => return st
  let body : Run Unit := do
    for (name, v) in given do
      store name v
    runCode q
  let st ← run body (State.start q.call.name args q.call.environment)
  let st ← run (closeAll q.call) st
  match (← get).trouble with
  | none => return st.status
  | some e =>
    modify fun d => { d with trouble := none }
    q.call.warn (closeFailure "/dev/stdout" e)
    return 2

end PatchSearch.Shell.Awk
