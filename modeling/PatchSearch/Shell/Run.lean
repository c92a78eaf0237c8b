import PatchSearch.Harness.Workplace
import PatchSearch.Shell.Arithmetic
import PatchSearch.Shell.Command

namespace PatchSearch.Shell

namespace Machine

/-- The values that a shell was called with, as parts of a word. -/
def parameterGlyphs (m : Machine) (quoted : Bool) (name : String) : List Glyph :=
  if quoted ∧ name = "*" then
    let between := (m.separators.take 1).map Glyph.solid
    .mark :: between.intercalate (m.parameters.map fun p => p.toList.map .solid)
  else [Glyph.gap].intercalate (m.parameters.map fun p => Glyph.ofText quoted p.toList)

def isList (name : String) : Bool :=
  name == "@" || name == "*"

def glyphs (m : Machine) (quoted : Bool) (name : String) : List Glyph :=
  if isList name then m.parameterGlyphs quoted name else Glyph.ofText quoted (m.valueOf name).toList

/-- A word that does not fall apart. -/
def joined (m : Machine) (gs : List Glyph) : String :=
  String.ofList (gs.flatMap fun g =>
    if g = .gap then m.separators.take 1 else g.char?.toList)

/-- The words that parts of a word fall apart into. -/
def split (m : Machine) (gs : List Glyph) : List String :=
  let fields := Glyph.fields m.separators gs
  if m.hasOption 'f' then fields.map fun f => String.ofList (Glyph.text f)
  else fields.flatMap (Glyph.spread m.files m.directory)

/-- Ends the shell if it insists on variables and one is not set. -/
def insist (m : Machine) (name : String) : Machine :=
  if m.hasOption 'u' ∧ !isList name ∧ (m.value? name).isNone then m.fault (name ++ ": parameter not set")
  else m

/-- Ends the shell after a failure that nobody looks at, if it is to end then. -/
def checkStatus (manner : Manner) (m : Machine) : Machine :=
  if m.hasOption 'e' ∧ !manner.tested ∧ m.status ≠ 0 ∧ !m.isLeaving then
    { m with leaving := some .exiting }
  else m

/-- What is left of leaving loops behind one of them, and whether it goes on. -/
def closeRound (m : Machine) : Machine × Bool :=
  match m.leaving with
  | none => (m, true)
  | some (.breaking n) => ({ m with leaving := if n ≤ 1 then none else some (.breaking (n - 1)) }, false)
  | some (.continuing n) =>
    if n ≤ 1 then ({ m with leaving := none }, true)
    else ({ m with leaving := some (.continuing (n - 1)) }, false)
  | some _ => (m, false)

/-- Takes the status of a loop, unless the shell leaves more than the loop. -/
def closeLoop (m : Machine) (status : Nat) : Machine :=
  match m.leaving with
  | none | some (.breaking _) | some (.continuing _) => m.withStatus status
  | some _ => m

end Machine

def outputText (s : Stream) : List Char :=
  ((s.finite.filter (· ≠ '\x00')).reverse.dropWhile (· = '\n')).reverse

/-- How often the body of a loop may run; a loop that goes on longer is taken to end there. -/
def maxRounds : Nat := 100000

/-- Applies a step as long as it says to go on, at most `rounds` times. -/
def iterate {α : Type} (step : α → α × Bool) : (rounds : Nat) → α → α
  | 0, a => a
  | rounds + 1, a =>
    let (a, more) := step a
    if more then iterate step rounds a else a

structure Bindings where
  shown : List (String × String)
  /-- What the names stood for before, the newest first. -/
  saved : List (String × Option Variable)

inductive Scope where
  | shell
  | replacement
  | command
deriving DecidableEq

def Machine.bind (m : Machine) (scope : Scope) (name value : String) (b : Bindings) :
    Bindings × Machine :=
  let b := ⟨b.shown ++ [(name, value)], if scope = .command then (name, m.named? name) :: b.saved
    else b.saved⟩
  let m := m.assign name value
  if scope = .shell ∨ m.isLeaving then (b, m)
  else
    match m.named? name with
    | some v => (b, m.putVariable { v with exported := true })
    | none => (b, m)

def Word.isAssignment : Word → Bool
  | .text false cs _ => (assignment? cs).isSome
  | _ => false

/-- Whether a script is one of several joined by pipes. -/
def Script.isPipe : Script → Bool
  | .pipe _ _ => true
  | _ => false

def Machine.trace (m : Machine) (descriptors : List (Nat × Outlet)) (b : Bindings)
    (words : List String) : Machine :=
  if m.hasOption 'x' then
    let line := " ".intercalate (b.shown.map (fun (name, value) => name ++ "=" ++ value) ++ words)
    let shown := (m.withDescriptors descriptors).mutter (m.valueOf "PS4" ++ line ++ "\n")
    shown.withDescriptors m.desk.descriptors
  else m

section

variable (run : Runner)

mutual

/-- Runs a script; `run` is for scripts that this one calls. -/
def Script.run : Script → Manner → Machine → Machine
  | .skip, _, m => m
  | .sequence first second, manner, m =>
    let m := first.run { manner with final := false } m
    if m.isLeaving then m else second.run manner m
  | .both first second, manner, m =>
    let m := first.run ⟨false, true⟩ m
    if m.isLeaving ∨ m.status ≠ 0 then m else second.run manner m
  | .either first second, manner, m =>
    let m := first.run ⟨false, true⟩ m
    if m.isLeaving ∨ m.status = 0 then m else second.run manner m
  | .pipe first second, manner, m =>
    let (o, w) := m.desk.world.addPipe .empty
    let m := { m with desk := { m.desk with world := w } }
    let (e, m) := m.runApart run fun m =>
      first.run { manner with final := true } (m.setDescriptor 1 (some o))
    let m := (m.report e)
    let before := m.desk.descriptors
    let m := m.setDescriptor 0 (some o)
    let m :=
      if m.isLeaving then m
      else if second.isPipe then second.run manner m
      else
        let (e, m) := m.runApart run fun m => second.run { manner with final := true } m
        (m.withDescriptors before).report e
    ((m.withDescriptors before).checkpoint run).checkStatus manner
  | .background body, _, m =>
    let inner := (m.fork).setDescriptor 0 none
    let (inner, _) := inner.redirect 0 .read "/dev/null"
    let work (w : World) : World × Ending :=
      let inner := { inner with desk := { inner.desk with world := w } }
      let (e, inner) := (body.run ⟨true, false⟩ inner).finish run
      (inner.desk.world, e)
    let job : Job := ⟨inner.process, some work, .code 0⟩
    { m with
      desk := { m.desk with world := inner.desk.world }
      jobs := m.jobs ++ [job]
      lastJob := some inner.process
      status := 0 }
  | .negate body, _, m =>
    let m := body.run ⟨false, true⟩ m
    if m.isLeaving then m else m.withStatus (if m.status = 0 then 1 else 0)
  | .group line body redirections, manner, m =>
    let before := m.desk.descriptors
    let (m, ready) := redirections.redirectAll { m with line := line }
    let m := if ready then body.run { manner with final := false } m else m
    m.withDescriptors before
  | .subshell line body redirections, manner, m =>
    let m := { m with line := line }
    let work (m : Machine) : Machine :=
      let (m, ready) := redirections.redirectAll m
      if ready then body.run { manner with final := true } m else m
    if manner.final ∧ !m.traps.any (·.2 ≠ "") then
      let m := work m
      { m with leaving := some (m.leaving.getD .exiting) }
    else
      let (e, m) := m.runApart run work
      ((m.report e).checkpoint run).checkStatus manner
  | .conditional test yes no, manner, m =>
    let m := test.run ⟨false, true⟩ m
    if m.isLeaving then m
    else if m.status = 0 then yes.run manner m
    else no.run manner (m.withStatus 0)
  | .each line name words body, manner, m =>
    let (values, m) := words.expandWords [] { m with line := line }
    if m.isLeaving then m
    else
      let (m, last, _) := values.foldl (fun ((m, last, going) : Machine × Nat × Bool) value =>
        let m := if going then m.assign name value else m
        if !going ∨ m.isLeaving then (m, last, false)
        else
          let m := body.run { manner with final := false } m
          let (closed, more) := m.closeRound
          (closed, m.status, more)) ({ m with loops := m.loops + 1 }, 0, true)
      { m with loops := m.loops - 1 }.closeLoop last
  | .loop failing test body, manner, m =>
    let step (st : Machine × Nat) : (Machine × Nat) × Bool :=
      let (m, last) := st
      let m := test.run ⟨false, true⟩ m
      if m.isLeaving then
        let (m, more) := m.closeRound
        ((m, if m.leaving = some .returning then m.status else last), more)
      else if (m.status = 0) = failing then ((m, last), false)
      else
        let m := body.run { manner with final := false } m
        let (closed, more) := m.closeRound
        ((closed, m.status), more)
    let (m, last) := iterate step maxRounds ({ m with loops := m.loops + 1 }, 0)
    { m with loops := m.loops - 1 }.closeLoop last
  | .choose line subject branches, manner, m =>
    let (gs, m) := subject.expand { m with line := line }
    if m.isLeaving then m else branches.run (m.joined gs).toList manner m
  | .define name body, _, m =>
    { m with functions := (name, body) :: m.functions.filter (·.1 ≠ name), status := 0 }
  | .command line items, manner, m =>
    if m.hasOption 'n' then m
    else
      let (words, m) := items.expandWords [] { m with line := line, outputStatus := 0 }
      if m.isLeaving then m
      else
        let before := m.desk.descriptors
        let special := m.isSpecialCommand words
        let (m, ready) := items.redirectAll m
        let settle (m : Machine) (saved : List (String × Option Variable)) : Machine :=
          let kept := ready && (Machine.directWords words).2.head? = some "exec"
          saved.foldl Machine.restore (if kept then m else m.withDescriptors before)
        if m.isLeaving then settle m []
        else if !ready then
          let m := settle m []
          (if special then { m with leaving := some .failing } else m).checkStatus manner
        else
          let scope := if words = [] then Scope.shell
            else if special then
              if words.head? = some "exec" ∧ words.length > 1 then Scope.replacement else Scope.shell
            else Scope.command
          let (b, m) := items.bindAll scope ⟨[], []⟩ m
          if m.isLeaving then settle m b.saved
          else
            let m := m.trace before b words
            let m := if words = [] then m.withStatus m.outputStatus else m.execute run manner words
            ((settle m b.saved).checkpoint run).checkStatus manner

/-- Runs the body of the first branch with a pattern for the subject. -/
def Branches.run : Branches → (subject : List Char) → Manner → Machine → Machine
  | .none, _, _, m => m.withStatus 0
  | .branch pattern body rest, subject, manner, m =>
    let (gs, m) := pattern.expand m
    if m.isLeaving then m
    else if Glyph.isFor gs subject then
      match body with
      | .skip => m.withStatus 0
      | body => body.run manner m
    else rest.run subject manner m

/-- The words of a command behind those that are known. -/
def Items.expandWords : Items → List String → Machine → List String × Machine
  | .none, words, m => (words, m)
  | .word w rest, words, m =>
    let (gs, m) := w.expand m
    if m.isLeaving then (words, m)
    else
      let assigning := match (Machine.directWords words).2 with
        | name :: _ => assigningBuiltins.contains name && w.isAssignment
        | [] => false
      rest.expandWords (words ++ if assigning then [m.joined gs] else m.split gs) m
  | .assign _ _ rest, words, m | .redirect _ _ _ rest, words, m | .document _ _ rest, words, m =>
    rest.expandWords words m

/-- Carries out the redirections of a command, and tells whether all worked. -/
def Items.redirectAll : Items → Machine → Machine × Bool
  | .none, m => (m, true)
  | .redirect descriptor channel w rest, m =>
    let (gs, m) := w.expand m
    if m.isLeaving then (m, false)
    else
      let (m, done) := m.redirect descriptor channel (m.joined gs)
      if done then rest.redirectAll m else (m, false)
  | .document descriptor text rest, m =>
    let (gs, m) := text.expand m
    if m.isLeaving then (m, false)
    else rest.redirectAll (m.openPipe descriptor (.of (m.joined gs).toList))
  | .word _ rest, m | .assign _ _ rest, m => rest.redirectAll m

def Items.bindAll : Items → Scope → Bindings → Machine → Bindings × Machine
  | .none, _, b, m => (b, m)
  | .assign name w rest, scope, b, m =>
    let (gs, m) := w.expand m
    if m.isLeaving then (b, m)
    else
      let (b, m) := m.bind scope name (m.joined gs) b
      if m.isLeaving then (b, m) else rest.bindAll scope b m
  | .word _ rest, scope, b, m | .redirect _ _ _ rest, scope, b, m | .document _ _ rest, scope, b, m =>
    rest.bindAll scope b m

def Word.expand : Word → Machine → List Glyph × Machine
  | .done, m => ([], m)
  | .text quoted cs rest, m =>
    let (gs, m) := rest.expand m
    ((if quoted then .mark :: cs.map .solid else cs.map .plain) ++ gs, m)
  | .variable quoted name rest, m =>
    let m := m.insist name
    if m.isLeaving then ([], m)
    else
      let value := m.glyphs quoted name
      let (gs, m) := rest.expand m
      (value ++ gs, m)
  | .adjusted quoted name how w rest, m =>
    let value := m.value? name
    let isEmpty := value.getD "" = ""
    let missing (orEmpty : Bool) : Bool := value.isNone || (orEmpty && isEmpty)
    let (shown, m) : List Glyph × Machine :=
      match how with
      | .fallback orEmpty =>
        if missing orEmpty then
          let (gs, m) := w.expand m
          (if quoted then .mark :: gs else Glyph.loosen gs, m)
        else (m.glyphs quoted name, m)
      | .instead orEmpty =>
        if missing orEmpty then (if quoted then [.mark] else [], m)
        else
          let (gs, m) := w.expand m
          (if quoted then .mark :: gs else Glyph.loosen gs, m)
      | .assign orEmpty =>
        if missing orEmpty then
          let (gs, m) := w.expand m
          if m.isLeaving then ([], m)
          else if !isName name then ([], m.fault (name ++ ": bad variable name"))
          else
            let m := m.assign name (m.joined gs)
            (m.glyphs quoted name, m)
        else (m.glyphs quoted name, m)
      | .require orEmpty =>
        if missing orEmpty then
          let (gs, m) := w.expand m
          if m.isLeaving then ([], m)
          else
            let words := m.joined gs
            let words := if words ≠ "" then words
              else if orEmpty then "parameter not set or null" else "parameter not set"
            ([], m.fault (name ++ ": " ++ words))
        else (m.glyphs quoted name, m)
      | .length =>
        let m := m.insist name
        let n := if Machine.isList name then m.parameters.length else (value.getD "").length
        (Glyph.ofText quoted (toString n).toList, m)
      | .cutStart longest =>
        let m := m.insist name
        let (gs, m) := w.expand m
        (Glyph.ofText quoted (Glyph.trim gs false longest (value.getD "").toList), m)
      | .cutEnd longest =>
        let m := m.insist name
        let (gs, m) := w.expand m
        (Glyph.ofText quoted (Glyph.trim gs true longest (value.getD "").toList), m)
    if m.isLeaving then ([], m)
    else
      let (gs, m) := rest.expand m
      (shown ++ gs, m)
  | .malformed _, m => ([], m.fault "Bad substitution")
  | .home rest, m =>
    let value : List Glyph := match m.value? "HOME" with
      | some path => path.toList.map .solid
      | none => [.solid '~']
    let (gs, m) := rest.expand m
    (value ++ gs, m)
  | .output quoted body rest, m =>
    let (o, w) := m.desk.world.addPipe .empty
    let m := { m with desk := { m.desk with world := w } }
    let (m, text) : Machine × List Char := match body with
      | .skip => ({ m with outputStatus := 0 }, [])
      | body =>
        let (e, m') := m.runApart run fun m =>
          body.run ⟨true, false⟩ (m.setDescriptor 1 (some o))
        let m' := { (m'.report e) with status := m.status, outputStatus := e.status }
        let text := outputText (m'.desk.world.stream o)
        ({ m' with desk := { m'.desk with world := m'.desk.world.consume o text.length } }, text)
    if m.isLeaving then ([], m)
    else
      let (gs, m) := rest.expand m
      (Glyph.ofText quoted text ++ gs, m)
  | .arithmetic quoted expression rest, m =>
    let (es, m) := expression.expand m
    if m.isLeaving then ([], m)
    else
      let text := m.joined es
      match Arithmetic.evaluate m.valueOf text.toList with
      | .error e => ([], m.fault (e.message text))
      | .ok (n, assigned) =>
        let m := assigned.reverse.foldl (fun m (name, n) =>
          if m.isLeaving then m else m.assign name (toString n)) m
        if m.isLeaving then ([], m)
        else
          let (gs, m) := rest.expand m
          (Glyph.ofText quoted (toString n).toList ++ gs, m)

end

end

/-- Runs scripts that call scripts at most that deep. -/
def runDeep : (depth : Nat) → Runner
  | 0 => fun _ _ m => m.fault "Maximum function recursion depth (1000) reached"
  | depth + 1 => Script.run (runDeep depth)

/-- Runs a command line in a directory, for at most that many milliseconds. Nothing is there to read. -/
def runLine (line : String) (limit : Option Nat) (directory : List String) (fs : Files) :
    ProcessEnd × Files :=
  let world := { World.ofFiles { fs with handles := #[] } with deadline := limit }
  let (output, w) := world.addPipe .empty
  let (errors, w) := w.addPipe .empty
  let (input, w) : List (Nat × Outlet) × World := match w.files.openToRead ["dev", "null"] with
    | .ok (handle, fs) => ([(0, .handle handle)], { w with files := fs })
    | .error _ => ([], w)
  let launch : Launch :=
    { name := "sh", args := ["-c", Text.bytewise line], directory := directory
      environment := [("HOME", "/root"), ("PATH", searchPath)], process := w.lastProcess, parents := [] }
  let (e, desk) := runShell (runDeep 1200) launch ⟨w, input ++ [(1, output), (2, errors)], none⟩
  let status : Option Int32 := match e with
    | .code n => some (.ofNat n)
    | .signal _ => none
  (⟨status, Text.toBytes (desk.world.stream output).text, Text.toBytes (desk.world.stream errors).text,
      desk.world.expired⟩,
    { desk.world.files with handles := fs.handles })

/-- How many bytes a command line may have. -/
def maxLineSize : Nat := 131071

/-- A host without a clock and without a network. No process is started: command lines are read here, and
what they do is done to the tree of files. The working directory has to be there. -/
def host : Host Files where
  run directory workdir command limit := fun fs =>
    let failed (e : FileError) : Except ProcessError ProcessEnd × Files := (.error (.start e), fs)
    if command.toList.contains '\x00' then failed .badName
    else
      match fs.locate directory workdir with
      | .error e => failed e
      | .ok place =>
        match fs.entry? place with
        | none => failed .notFound
        | some .directory =>
          if maxLineSize < command.utf8ByteSize then failed .tooLong
          else
            let (p, fs) := runLine command (limit.map fun seconds => 1000 * seconds.toNat) place fs
            (.ok p, fs)
        | some _ => failed .notADirectory
  consumed _ := ⟨0, 0, 0⟩
  ask := Client.backend
  files_ask _ _ _ := rfl

end PatchSearch.Shell
