import PatchSearch.Shell.Sed.Run

namespace PatchSearch.Shell

namespace Sed

def outputs (commands : List Command) : List String :=
  commands.flatMap fun c =>
    match c.verb with
    | .write path | .writeFirst path => [path]
    | .substitute s => s.path.toList
    | _ => []

def missingLabel? (commands : List Command) : Option String :=
  let labels := commands.filterMap fun c => match c.verb with
    | .label l => some l
    | _ => none
  commands.findSome? fun c => match c.verb with
    | .jump l | .jumpIf _ l => if l = "" ∨ labels.contains l then none else some l
    | _ => none

/-- What options say: the parts of the script in their order, and whether the first one is an operand. -/
def form : OptionForm :=
  ⟨"nErsuzi", "eflI", [("quiet", 'n'), ("silent", 'n'), ("expression", 'e'), ("file", 'f'),
    ("regexp-extended", 'E'), ("in-place", 'I'), ("line-length", 'l'), ("separate", 's'),
    ("unbuffered", 'u'), ("null-data", 'z'), ("posix", 'u'), ("debug", 'u'), ("sandbox", 'u')], false⟩

/-- Arguments where what is attached to `-i` stands behind another letter, that always has a value. -/
def withSuffixes (args : List String) : List String :=
  let plain := args.takeWhile (· ≠ "--")
  plain.map (fun arg =>
    match arg.toList with
    | '-' :: '-' :: _ => if arg = "--in-place" then "--in-place=" else arg
    | '-' :: cs =>
      let flags := cs.takeWhile fun c => c != 'i' && c != 'e' && c != 'f' && c != 'l'
      match cs.drop flags.length with
      | 'i' :: suffix =>
        if suffix = [] then arg else String.ofList ('-' :: flags ++ 'I' :: suffix)
      | _ => arg
    | _ => arg) ++ args.drop plain.length

def readParts (c : Call) (a : Arguments) : Work (Option (List Part)) := do
  let mut parts : List Part := []
  let mut count := 0
  for (letter, value) in a.options do
    if letter = 'e' then
      count := count + 1
      parts := parts ++ [⟨.ok count, value.toList⟩]
    else if letter = 'f' then
      match ← c.read value with
      | .ok s =>
        let text := s.finite
        parts := parts ++ [⟨.error value, if text.getLast? = some '\n' then text.dropLast else text⟩]
      | .error e =>
        c.warn ("couldn't open file " ++ value ++ ": " ++ reason e)
        return none
  return some parts

def readSources (c : Call) (delimiter : Char) (paths : List String) : Work (List Source) := do
  let mut sources := []
  for path in Call.inputs paths do
    let lines := (← c.read path).map fun s => linesOf delimiter s.finite
    sources := ⟨path, lines⟩ :: sources
  return sources.reverse

/-- Where the old content of a file goes that is edited in its place. -/
def backupPath (suffix path : String) : String :=
  let name := (path.toList.reverse.takeWhile (· ≠ '/')).reverse
  let directory := path.toList.take (path.length - name.length)
  if suffix.contains '*' then
    let marked := suffix.toList.flatMap fun c => if c = '*' then name else [c]
    if marked.contains '/' then String.ofList marked else String.ofList (directory ++ marked)
  else path ++ suffix

/-- Says which files could not be read; the answer is the status. -/
def blameSources (c : Call) (st : State) : Work Nat := do
  let mut status := 0
  for (path, e) in st.unreadable.reverse do
    if e = .isADirectory then
      c.warn ("read error on " ++ path ++ ": " ++ reason e)
      status := 4
    else
      c.warn ("can't read " ++ path ++ ": " ++ reason e)
      status := max status 2
  return status

def saveWritten (c : Call) (paths : List String) (st : State) : Work Unit := do
  for path in paths.eraseDups do
    if path = "/dev/stdout" ∧ (st.written.lookup path).isNone then continue
    match ← c.writeFile path ((st.written.lookup path).getD []) with
    | .ok () => pure ()
    | .error e => c.warn ("couldn't open file " ++ path ++ ": " ++ reason e)

/-- Says what went wrong while a script ran, if something did. -/
def blameFault (c : Call) (st : State) : Work Unit := do
  match st.fault with
  | some f => c.warn (Part.complaint ⟨.ok 1, []⟩ f none).1
  | none => pure ()

/-- Edits files one after the other, each in its place. -/
def editFiles (c : Call) (q : Setting) (suffix : String) (paths : List String) : Work (State × Nat) := do
  let mut st := State.start
  let mut status := 0
  for path in paths do
    let fs ← Work.files
    match c.entry fs path with
    | .ok (.file content _) =>
      let text := Text.ofBytes content
      let (next, ended) := { st with output := [], unended := false }.run q
        [⟨path, .ok (linesOf q.delimiter text)⟩]
      st := next
      if suffix ≠ "" then
        let _ ← c.writeFile (backupPath suffix path) text
      if st.fault.isNone then
        let _ ← c.writeFile path st.output.reverse.flatten
      match ended with
      | some n => return (st, n)
      | none => pure ()
    | .ok _ =>
      c.warn ("couldn't edit " ++ path ++ ": not a regular file")
      status := 4
    | .error e =>
      c.warn ("can't read " ++ path ++ ": " ++ reason e)
      status := max status 2
  return (st, status)

def editToOutput (c : Call) (q : Setting) (separate : Bool) (paths : List String) :
    Work (State × Nat) := do
  let sources ← readSources c q.delimiter paths
  let groups := if separate then sources.map fun s => [s] else [sources]
  let mut st := State.start
  let mut status := 0
  for group in groups do
    let (next, ended) := st.run q group
    st := next
    match ended with
    | some n =>
      status := n
      break
    | none => if next.unreadable.any (·.2 = .isADirectory) then break
  let unread ← blameSources c st
  Work.say st.output.reverse.flatten
  if st.path = "-" then
    Work.giveBack (.of (st.input.flatMap fun l => l.text ++ if l.closed then [q.delimiter] else []))
  return (st, if status = 0 then unread else status)

def showUsage : Work Nat := do
  Work.warn "Usage: sed [OPTION]... \x7bscript-only-if-no-other-script\x7d [input-file]...\n"
  return 1

end Sed

def sed : Utility := fun c => do
  match Sed.form.readWithin (c.args.length + 1) (Sed.withSuffixes c.args) with
  | .error fault =>
    c.warn (match fault with
      | .unknown letter => "invalid option -- '" ++ String.singleton letter ++ "'"
      | .unknownWord word => "unrecognized option '" ++ word ++ "'"
      | .missing letter => "option requires an argument -- '" ++ String.singleton letter ++ "'")
    Sed.showUsage
  | .ok a =>
    match ← Sed.readParts c a with
    | none => return 4
    | some given =>
      if given = [] ∧ a.operands = [] then return ← Sed.showUsage
      let parts := if given = [] then [⟨.ok 1, (a.operands.headD "").toList⟩] else given
      let paths := if given = [] then a.operands.drop 1 else a.operands
      let extended := a.has 'E' || a.has 'r'
      match Sed.parse extended 0 none (Sed.joined parts) with
      | .error (message, status) => c.fail message status
      | .ok commands =>
        match Sed.missingLabel? commands with
        | some label => c.fail ("can't find label for jump to " ++ Sed.named label) 4
        | none =>
          let marked := match parts.head? with
            | some p => p.text = ['#', 'n'] || ['#', 'n', '\n'].isPrefixOf p.text
            | none => false
          let fs ← Work.files
          let content (path : String) : Option (List Char) := match c.entry fs path with
            | .ok (.file bytes _) => some (Text.ofBytes bytes)
            | _ => none
          let q : Sed.Setting :=
            { commands := commands.toArray, quiet := a.has 'n' || marked
              delimiter := if a.has 'z' then '\x00' else '\n'
              width := match (a.value? 'l').bind natural? with
                | some n => if n = 1 then 0 else n
                | none => 70
              inPlace := a.has 'i' || a.has 'I', content := content }
          let (st, status) ← if q.inPlace then Sed.editFiles c q ((a.value? 'I').getD "") paths
            else Sed.editToOutput c q (a.has 's') paths
          Sed.saveWritten c (Sed.outputs commands) st
          Sed.blameFault c st
          return status

end PatchSearch.Shell
