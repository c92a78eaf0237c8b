import PatchSearch.Shell.Sed.Reader
import PatchSearch.Shell.Utility.Lines

namespace PatchSearch.Shell.Sed

structure Line where
  text : List Char
  closed : Bool

/-- A file of the input with its lines, or why it cannot be read. -/
structure Source where
  path : String
  lines : Except FileError (List Line)

/-- What is written when the script is through with a line. -/
inductive Queued where
  | text (cs : List Char)
  | file (path : String)
  | lineOf (path : String)

/-- How far a run of lines that a command is for has come. -/
inductive Progress where
  | running (last : Option Nat)
  | over
deriving DecidableEq

structure State where
  space : List Char
  held : List Char
  line : Line
  /-- The rest of the file that the line is from, and the path of that file. -/
  input : List Line
  path : String
  /-- The files that were not opened yet. -/
  sources : List Source
  number : Nat
  /-- Output, the newest first. -/
  output : List (List Char)
  /-- Whether the end of the last line of the output is missing. -/
  unended : Bool
  queue : List Queued
  replaced : Bool
  /-- The runs of lines by the indices of their commands. -/
  runs : List (Nat × Progress)
  regex : Option Regex
  written : List (String × List Char)
  linesRead : List (String × Nat)
  /-- Files that could not be read, the last one first. -/
  unreadable : List (String × FileError)
  fault : Option Fault

/-- What does not change while a script runs. -/
structure Setting where
  commands : Array Command
  quiet : Bool
  delimiter : Char
  /-- Where lines that are shown with all their characters visible break. -/
  width : Nat
  inPlace : Bool
  content : String → Option (List Char)

inductive Next where
  | go (index : Nat)
  | cycle (print : Bool)
  | again
  | quit (print : Bool) (status : Nat)

namespace State

/-- Writes a text; `closed` adds the end of a line. -/
def emit (st : State) (q : Setting) (cs : List Char) (closed : Bool) : State :=
  let before := if st.unended then [q.delimiter] else []
  { st with
    output := (before ++ cs ++ if closed then [q.delimiter] else []) :: st.output
    unended := !closed }

def emitText (st : State) (q : Setting) (cs : List Char) : State :=
  let before := if st.unended then [q.delimiter] else []
  { st with output := (before ++ cs) :: st.output, unended := false }

def emitSpace (st : State) (q : Setting) : State :=
  st.emit q st.space st.line.closed

def writeTo (st : State) (q : Setting) (path : String) (cs : List Char) : State :=
  if path = "/dev/stdout" ∧ !q.inPlace then st.emit q cs true
  else
    let old := (st.written.lookup path).getD []
    { st with written := (path, old ++ cs ++ [q.delimiter]) :: st.written.filter (·.1 ≠ path) }

/-- Goes on to the next file that has lines if there are none left. -/
def settleIn (st : State) : List Source → State
  | [] => { st with sources := [] }
  | source :: rest =>
    match st.input with
    | _ :: _ => { st with sources := source :: rest }
    | [] =>
      match source.lines with
      | .ok lines => settleIn { st with input := lines, path := source.path } rest
      | .error e =>
        let st := { st with unreadable := (source.path, e) :: st.unreadable }
        -- A directory ends it all.
        if e = .isADirectory then { st with sources := [] } else settleIn st rest

def settle (st : State) : State :=
  st.settleIn st.sources

def advance? (st : State) : State × Bool :=
  let st := st.settle
  match st.input with
  | [] => (st, false)
  | line :: rest => ({ st with space := line.text, line := line, input := rest, number := st.number + 1 }, true)

/-- Whether an address is for the line, and the state with the pattern that was used. -/
def isAt (st : State) (a : Address) : Bool × State :=
  match a with
  | .line n => (st.number == n, st)
  | .step first stride =>
    (if stride = 0 then st.number == first
      else first ≤ st.number && (st.number - first) % stride == 0, st)
  | .last =>
    let st := st.settle
    (st.input.isEmpty, st)
  | .regex r =>
    match r.orElse fun _ => st.regex with
    | some r => (r.isIn st.space, { st with regex := some r })
    | none => (false, { st with fault := some .noRegex })

def setRun (st : State) (index : Nat) (p : Progress) : State :=
  { st with runs := (index, p) :: st.runs.filter (·.1 ≠ index) }

/-- Begins a run of lines, which may be over at once. -/
def begin (st : State) (index : Nat) (stop : Stop) : State :=
  let upTo (n : Nat) : State :=
    st.setRun index (if st.number < n then .running (some n) else .over)
  match stop with
  | .address (.line n) => upTo n
  | .count n => upTo (st.number + n)
  | .multiple n =>
    if n = 0 then st.setRun index .over
    else if st.number % n = 0 then st
    else upTo ((st.number + n - 1) / n * n)
  | .address _ => st.setRun index (.running none)

/-- Whether a command is for the line, if its lines have a first and a last one. -/
def isInRun (st : State) (index : Nat) (first : Address) (stop : Stop) : Bool × State :=
  match st.runs.lookup index, stop with
  | some (.running (some last)), _ =>
    (st.number ≤ last, if st.number < last then st else st.setRun index .over)
  | some (.running none), .address a =>
    let (ends, st) := st.isAt a
    (true, if ends then st.setRun index .over else st)
  | progress, _ =>
    match first with
    | .line n =>
      let starts : Bool := match stop with
        | .address (.line m) => if m ≤ n then st.number == n else n ≤ st.number
        | _ => n ≤ st.number
      if starts && progress != some .over then (true, st.begin index stop) else (false, st)
    | a =>
      let (starts, st) := st.isAt a
      (starts, if starts then st.begin index stop else st)

def admits (st : State) (index : Nat) (g : Guard) : Bool × State :=
  let (holds, st) := match g.first, g.stop with
    | none, _ => (true, st)
    | some a, none => st.isAt a
    | some a, some stop => st.isInRun index a stop
  (holds != g.negated, st)

def emitQueued (q : Setting) (st : State) : Queued → State
  | .text cs => st.emitText q cs
  | .file path =>
    match q.content path with
    | some [] | none => st
    | some cs => st.emitText q cs
  | .lineOf path =>
    match q.content path with
    | none => st
    | some cs =>
      let n := (st.linesRead.lookup path).getD 0
      match (Shell.textLines cs)[n]? with
      | some line =>
        { st.emit q line true with linesRead := (path, n + 1) :: st.linesRead.filter (·.1 ≠ path) }
      | none => st

def flush (st : State) (q : Setting) : State :=
  { st.queue.reverse.foldl (emitQueued q) st with queue := [] }

end State

/-- A text with the change of letters that holds for it, and the one that holds behind it. -/
def changeLetters (all once : Option Char) (cs : List Char) : List Char × Option Char :=
  let body := match all with
    | some 'U' => cs.map Char.toUpper
    | some 'L' => cs.map Char.toLower
    | _ => cs
  match once, body with
  | some 'u', c :: rest => (c.toUpper :: rest, none)
  | some 'l', c :: rest => (c.toLower :: rest, none)
  | once, body => (body, once)

def replacement (text : List Char) (first last : Spot) (ps : List Piece) : List Char :=
  let step (st : List (List Char) × Option Char × Option Char) (p : Piece) :
      List (List Char) × Option Char × Option Char :=
    let (done, all, once) := st
    let add (cs : List Char) : List (List Char) × Option Char × Option Char :=
      let (cs, once) := changeLetters all once cs
      (cs :: done, all, once)
    match p with
    | .text cs => add cs
    | .group i => add (Regex.groupText text first last i)
    | .change c => if c = 'u' ∨ c = 'l' then (done, all, some c)
      else if c = 'E' then (done, none, none) else (done, some c, none)
  (ps.foldl step ([], none, none)).1.reverse.flatten

/-- A text after a substitution, if it was carried out. -/
def substitute (r : Regex) (s : Substitution) (text : List Char) : Option (List Char) :=
  let found := (List.range text.length.succ).zip (r.all text)
  let chosen := (found.filter fun (i, _) => i + 1 == s.nth || (s.all && s.nth ≤ i + 1)).map Prod.snd
  if chosen = [] then none
  else
    let (done, behind) := chosen.foldl (fun (done, behind) (first, last) =>
      (replacement text first last s.pieces :: Regex.cut text behind first.index :: done, last.index))
      (([] : List (List Char)), 0)
    some ((text.drop behind :: done).reverse.flatten)

/-- A text with all its characters visible, broken at a width. -/
def listing (width : Nat) (cs : List Char) : List Char :=
  let shown (c : Char) : List Char :=
    if c = '\\' then ['\\', '\\']
    else if c = '\x07' then ['\\', 'a']
    else if c = '\x08' then ['\\', 'b']
    else if c = '\x0c' then ['\\', 'f']
    else if c = '\n' then ['\\', 'n']
    else if c = '\r' then ['\\', 'r']
    else if c = '\t' then ['\\', 't']
    else if c = '\x0b' then ['\\', 'v']
    else if 32 ≤ c.toNat ∧ c.toNat < 127 then [c]
    else
      let ds := Nat.toDigits 8 c.toNat
      '\\' :: (List.replicate (3 - ds.length) '0' ++ ds)
  let (done, _) := cs.foldl (fun (done, column) c =>
    let cs := shown c
    if 0 < width ∧ width - 1 < column + cs.length then (cs :: ['\\', '\n'] :: done, cs.length)
    else (cs :: done, column + cs.length)) (([] : List (List Char)), 0)
  done.reverse.flatten ++ ['$']

/-- The index behind the end of the group that begins at an index, at most `left` commands further. -/
def behindGroup (commands : Array Command) : (left index depth : Nat) → Nat
  | 0, index, _ => index
  | left + 1, index, depth =>
    let verb : Option Verb := commands[index]?.map fun c => c.verb
    match verb with
    | some .openGroup => behindGroup commands left (index + 1) (depth + 1)
    | some .closeGroup => if depth ≤ 1 then index + 1 else behindGroup commands left (index + 1) (depth - 1)
    | some _ => behindGroup commands left (index + 1) depth
    | none => index

/-- The index of a label; none stands for the end of the script. -/
def target (commands : Array Command) (name : String) : Nat :=
  let isLabel (c : Command) : Bool := match c.verb with
    | .label l => l == name
    | _ => false
  if name = "" then commands.size else (commands.toList.findIdx? isLabel).getD commands.size

def perform (q : Setting) (index : Nat) (v : Verb) (st : State) : State × Next :=
  let on (st : State) : State × Next := (st, .go (index + 1))
  match v with
  | .openGroup | .closeGroup | .label _ => on st
  | .jump name => (st, .go (target q.commands name))
  | .jumpIf wanted name =>
    if st.replaced = wanted then ({ st with replaced := false }, .go (target q.commands name))
    else on { st with replaced := false }
  | .substitute s =>
    match s.regex.orElse fun _ => st.regex with
    | none => ({ st with fault := some .noRegex }, .quit false 1)
    | some r =>
      let st := { st with regex := some r }
      match substitute r s st.space with
      | none => on st
      | some text =>
        let st := { st with space := text, replaced := true }
        let st := if s.print then st.emitSpace q else st
        on (match s.path with
          | some path => st.writeTo q path st.space
          | none => st)
  | .translate table => on { st with space := st.space.map fun c => (table.lookup c).getD c }
  | .delete => (st, .cycle false)
  | .deleteFirst =>
    if st.space.contains '\n' then
      ({ st with space := (st.space.dropWhile (· ≠ '\n')).drop 1 }, .again)
    else (st, .cycle false)
  | .print => on (st.emitSpace q)
  | .printFirst => on (st.emit q (st.space.takeWhile (· ≠ '\n')) true)
  | .next =>
    let st := st.settle
    if st.input.isEmpty then (st, .cycle true)
    else on ((if q.quiet then st else st.emitSpace q).flush q).advance?.1
  | .nextAppended =>
    let st := st.settle
    if st.input.isEmpty then (st, .cycle true)
    else
      let next := (st.flush q).advance?.1
      on { next with space := st.space ++ '\n' :: next.space }
  | .keep => on { st with held := st.space }
  | .keepAppended => on { st with held := st.held ++ '\n' :: st.space }
  | .recall => on { st with space := st.held }
  | .recallAppended => on { st with space := st.space ++ '\n' :: st.held }
  | .exchange => on { st with space := st.held, held := st.space }
  | .append cs => on { st with queue := .text cs :: st.queue }
  | .insert cs => on (st.emitText q cs)
  | .change cs =>
    let isInside := match st.runs.lookup index with
      | some (.running _) => true
      | _ => false
    (if isInside then st else st.emitText q cs, .cycle false)
  | .read path => on { st with queue := .file path :: st.queue }
  | .readLine path => on { st with queue := .lineOf path :: st.queue }
  | .write path => on (st.writeTo q path st.space)
  | .writeFirst path => on (st.writeTo q path (st.space.takeWhile (· ≠ '\n')))
  | .quit print status => (st, .quit print status)
  | .number => on (st.emitText q ((toString st.number).toList ++ ['\n']))
  | .list width => on (st.emitText q (listing (width.getD q.width) st.space ++ ['\n']))
  | .fileName => on (st.emitText q (st.path.toList ++ ['\n']))
  | .empty => on { st with space := [] }

/-- Carries out commands from an index on, at most `left` of them. -/
def performFrom (q : Setting) : (left index : Nat) → State → State × Next
  | 0, _, st => (st, .cycle true)
  | left + 1, index, st =>
    match q.commands[index]? with
    | none => (st, .cycle true)
    | some c =>
      let (holds, st) := st.admits index c.guard
      if st.fault.isSome then (st, .quit false 1)
      else if !holds then
        let isOpening := match c.verb with
          | .openGroup => true
          | _ => false
        performFrom q left (if isOpening then behindGroup q.commands q.commands.size index 0 else index + 1) st
      else
        match perform q index c.verb st with
        | (st, .go index) => performFrom q left index st
        | (st, next) => (st, next)

/-- How many commands a script may carry out for one line. -/
def maxSteps : Nat := 1000000

/-- Runs a script for lines until the input ends or the script does, at most `left` times; the status is
none unless the script ended. -/
def cycles (q : Setting) : (left : Nat) → State → State × Option Nat
  | 0, st => (st, none)
  | left + 1, st =>
    let finish (st : State) (print : Bool) : State :=
      (if print ∧ !q.quiet then st.emitSpace q else st).flush q
    match performFrom q maxSteps 0 st with
    | (st, .quit print status) => (finish st print, some status)
    | (st, .again) => cycles q left (st.flush q)
    | (st, .cycle print) =>
      match (finish st print).advance? with
      | (st, true) => cycles q left { st with replaced := false }
      | (st, false) => (st, none)
    | (st, .go _) => (st, none)

/-- Runs of lines that begin before the first one. -/
def earlyRuns (commands : Array Command) : List (Nat × Progress) :=
  ((List.range commands.size).zip commands.toList).filterMap fun (i, c) =>
    match c.guard.first with
    | some (.line 0) => some (i, .running none)
    | _ => none

/-- Runs a script for files that are all there is. -/
def State.run (st : State) (q : Setting) (sources : List Source) : State × Option Nat :=
  let size := sources.foldl (fun n s => match s.lines with
    | .ok lines => lines.foldl (fun n l => n + l.text.length + 1) n
    | .error _ => n) 0
  match { st with sources := sources, input := [], number := 0, runs := earlyRuns q.commands }.advance? with
  | (st, false) => (st, none)
  | (st, true) => cycles q (size + maxSteps) { st with replaced := false }

def linesOf (delimiter : Char) (cs : List Char) : List Line :=
  let swap (c : Char) : Char := if c = delimiter then '\n' else if c = '\n' then delimiter else c
  let lines := if delimiter = '\n' then Shell.textLines cs
    else (Shell.textLines (cs.map swap)).map fun l => l.map swap
  let closed := cs.getLast? == some delimiter
  ((List.range lines.length).zip lines).map fun (i, text) => ⟨text, closed || i + 1 < lines.length⟩

def State.start : State :=
  { space := [], held := [], line := ⟨[], true⟩, input := [], path := "-", sources := [], number := 0
    output := [], unended := false, queue := [], replaced := false, runs := [], regex := none
    written := [], linesRead := [], unreadable := [], fault := none }

end PatchSearch.Shell.Sed
