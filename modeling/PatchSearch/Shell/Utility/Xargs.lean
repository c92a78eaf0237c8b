import PatchSearch.Shell.Number
import PatchSearch.Shell.Program
import PatchSearch.Shell.Utility.Lines

namespace PatchSearch.Shell

/-- Runs a program without input. -/
def Call.spawnAlone (c : Call) (words : List String) : Work (Except FileError Ending) := do
  let d ← get
  let (o, w) := d.world.addPipe .empty
  set { d with world := w, descriptors := (0, o) :: d.descriptors.filter (·.1 ≠ 0) }
  let result ← c.spawn words
  modify fun after => { after with descriptors := d.descriptors }
  return result

namespace Xargs

inductive Division where
  /-- At blanks and line ends, of which quotes and backslashes take the meaning. -/
  | words
  | lines
  | at (separator : Char)

/-- Why the input cannot be taken apart: a quote without its partner. -/
inductive Fault where
  | unmatched (quote : Char)

def Fault.message : Fault → String
  | .unmatched quote =>
    "unmatched " ++ (if quote = '"' then "double" else "single") ++
      " quote; by default quotes are special to xargs unless you use the -0 option"

/-- An argument, and whether a line ends behind it that does not go on. -/
structure Item where
  text : List Char
  lineEnd : Bool

structure Reading where
  done : List Item
  text : List Char
  /-- Whether something of an argument was there, be it only quotes. -/
  started : Bool
  quote : Option Char
  escaped : Bool
  blank : Bool

def Reading.push (r : Reading) (lineEnd : Bool) : Reading :=
  if r.started then
    { r with done := ⟨r.text.reverse, lineEnd⟩ :: r.done, text := [], started := false, blank := false }
  else if lineEnd ∧ !r.blank then
    { r with
      blank := false
      done := match r.done with
        | item :: rest => { item with lineEnd := true } :: rest
        | [] => [] }
  else r

def Reading.step (lines : Bool) (r : Reading) (c : Char) : Except Fault Reading :=
  let add (r : Reading) : Reading := { r with text := c :: r.text, started := true, blank := false }
  if r.escaped then .ok (add { r with escaped := false })
  else
    match r.quote with
    | some q =>
      if c = q then .ok { r with quote := none }
      else if c = '\n' then .error (.unmatched q)
      else .ok (add r)
    | none =>
      if c = '\'' ∨ c = '"' then .ok { r with quote := some c, started := true }
      else if c = '\\' then .ok { r with escaped := true, started := true }
      else if c = '\n' then .ok (r.push true)
      else if c = ' ' ∨ c = '\t' then
        if lines then .ok (if r.started then add r else r)
        else .ok { r.push false with blank := true }
      else .ok (add r)

def items (division : Division) (cs : List Char) : Except Fault (List Item) :=
  let read (lines : Bool) : Except Fault (List Item) := do
    let r ← cs.foldlM (Reading.step lines) ⟨[], [], false, none, false, false⟩
    match r.quote with
    | some q => throw (.unmatched q)
    | none => return (r.push true).done.reverse
  match division with
  | .words => read false
  | .lines => read true
  | .at separator =>
    let swap (c : Char) : Char := if c = separator then '\n' else if c = '\n' then separator else c
    let parts := (textLines (cs.map swap)).map fun part => part.map swap
    .ok (parts.map fun text => ⟨text, true⟩)

structure Limits where
  arguments : Option Nat
  lines : Option Nat
  size : Nat

/-- Groups of arguments for one program each; `base` is the size of what is always there. -/
def groups (q : Limits) (base : Nat) (items : List Item) : List (List (List Char)) :=
  let step (st : List (List (List Char)) × List (List Char) × Nat × Nat) (item : Item) :
      List (List (List Char)) × List (List Char) × Nat × Nat :=
    let (done, group, size, lines) := st
    let length := item.text.length + 1
    let isFull := group ≠ [] &&
      (q.size < size + length || q.arguments == some group.length || q.lines == some lines)
    let (done, group, size, lines) := if isFull then (group.reverse :: done, [], base, 0)
      else (done, group, size, lines)
    (done, item.text :: group, size + length, if item.lineEnd then lines + 1 else lines)
  let (done, group, _, _) := items.foldl step ([], [], base, 0)
  (if group = [] then done else group.reverse :: done).reverse

/-- A text with another one in the place of a mark. -/
def replaceMark (mark : List Char) (value : List Char) : (left : Nat) → List Char → List Char
  | 0, cs => cs
  | _, [] => []
  | left + 1, c :: cs =>
    if mark ≠ [] ∧ mark.isPrefixOf (c :: cs) then
      value ++ replaceMark mark value left ((c :: cs).drop mark.length)
    else c :: replaceMark mark value left cs

/-- Runs one program; the answer is a status, and whether to stop. -/
def runOne (c : Call) (verbose : Bool) (words : List String) : Work (Nat × Bool) := do
  if verbose then Work.warn (" ".intercalate words)
  let name := words.headD ""
  match ← c.spawnAlone words with
  | .error e =>
    c.warn (name ++ ": " ++ reason e)
    return (launchStatus e, true)
  | .ok (.code 0) => return (0, false)
  | .ok (.code 255) =>
    c.warn (name ++ ": exited with status 255; aborting")
    return (124, true)
  | .ok (.code _) => return (123, false)
  | .ok (.signal n) =>
    c.warn (name ++ ": terminated by signal " ++ toString n)
    return (125, true)

def form : OptionForm :=
  { plain := "0prtxoi"
    valued := "adEILnPsJ"
    words := [("null", '0'), ("arg-file", 'a'), ("delimiter", 'd'), ("eof", 'E'), ("replace", 'J'),
      ("max-lines", 'L'), ("max-args", 'n'), ("max-procs", 'P'), ("interactive", 'p'),
      ("no-run-if-empty", 'r'), ("max-chars", 's'), ("verbose", 't'), ("exit", 'x'), ("open-tty", 'o')]
    strict := true }

/-- The character that the value of an option stands for. -/
def separator (s : String) : Char :=
  match s.toList with
  | ['\\', 'n'] => '\n'
  | ['\\', 't'] => '\t'
  | ['\\', '0'] => '\x00'
  | c :: _ => c
  | [] => '\n'

/-- The largest size of all arguments of a program. -/
def maxSize : Nat := 131072

/-- A count that has to be at least one, or what is wrong with it. -/
def count (a : Arguments) (letter : Char) : Except String (Option Nat) :=
  match a.value? letter with
  | none => .ok none
  | some s =>
    match natural? s with
    | none => .error ("invalid number \"" ++ s ++ "\" for -" ++ String.singleton letter ++ " option")
    | some 0 => .error ("value 0 for -" ++ String.singleton letter ++ " option should be >= 1")
    | some n => .ok (some n)

end Xargs

def xargs : Utility := fun c =>
  let args := c.args.map fun s => if s = "--replace" then "-i" else s
  Xargs.form.apply { c with args := args } 1 fun a => do
    match Xargs.count a 'n', Xargs.count a 'L', Xargs.count a 's' with
    | .error message, _, _ | _, .error message, _ | _, _, .error message => c.misuse message 1
    | .ok arguments, .ok lines, .ok size =>
      let mark := ((a.value? 'I').orElse fun _ => a.value? 'J').orElse fun _ =>
        if a.has 'i' then some "\x7b\x7d" else none
      if mark.isSome && arguments.isSome then
        c.warn "warning: options --max-args and --replace/-I/-i are mutually exclusive, ignoring previous --max-args value"
      let source ← match a.value? 'a' with
        | some path => c.read path
        | none => Work.readInput
      match source with
      | .error e => c.fail ("Cannot open input file " ++ inQuotes ((a.value? 'a').getD "") ++ ": " ++ reason e) 1
      | .ok s =>
        let division : Xargs.Division :=
          if a.has '0' then .at '\x00'
          else match a.value? 'd' with
            | some s => .at (Xargs.separator s)
            | none => if mark.isSome then .lines else .words
        match Xargs.items division s.finite with
        | .error e => c.fail e.message 1
        | .ok items =>
          let items := match a.value? 'E' with
            | some word => items.takeWhile fun i => i.text != word.toList
            | none => items
          let command := if a.operands = [] then ["echo"] else a.operands
          let commands : List (List String) := match mark with
            | some mark => items.map fun i => command.map fun word =>
                String.ofList (Xargs.replaceMark mark.toList i.text word.length word.toList)
            | none =>
              let base := command.foldl (fun n w => n + w.length + 1) 0
              let groups := Xargs.groups ⟨arguments, lines, size.getD Xargs.maxSize⟩ base items
              let groups := if groups = [] ∧ !a.has 'r' then [[]] else groups
              groups.map fun group => command ++ group.map String.ofList
          let mut status := 0
          for words in commands do
            let (result, stop) ← Xargs.runOne c (a.has 't') words
            status := max status result
            if stop then return result
          return status

end PatchSearch.Shell
