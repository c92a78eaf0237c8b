import PatchSearch.Shell.Builtin.Output
import PatchSearch.Shell.Launch

namespace PatchSearch.Shell

/-- Builtins that a function may stand in for. -/
def regularBuiltins : List String :=
  ["[", "alias", "bg", "cd", "chdir", "command", "echo", "false", "fg", "getopts", "hash", "jobs", "kill",
    "printf", "pwd", "read", "test", "true", "type", "ulimit", "umask", "unalias", "wait"]

/-- Builtins whose arguments may be assignments, which do not fall apart. -/
def assigningBuiltins : List String :=
  ["alias", "export", "local", "readonly"]

/-- What the first word of a command stands for. -/
inductive Verb where
  | builtin (name : String) (special : Bool)
  | function (body : Script)
  | program

namespace Machine

/-- What a name stands for; with `direct` functions do not count. -/
def verb (m : Machine) (direct : Bool) (name : String) : Verb :=
  if specialBuiltins.contains name then .builtin name !direct
  else
    match if direct then none else m.functions.lookup name with
    | some body => .function body
    | none => if regularBuiltins.contains name then .builtin name false else .program

def homes (m : Machine) : List String :=
  match m.value? "PATH" with
  | some path => Builtin.splitPaths path
  | none => []

def findProgram (m : Machine) (name : String) : Except FileError (String × Program) :=
  Program.find isUtilityName m.files m.directory m.homes name

/-- Says what a name stands for, in few words or in a sentence. -/
def describe (brief : Bool) (m : Machine) (name : String) : Machine :=
  let say (short long : String) : Machine := m.sayLine (if brief then short else name ++ long)
  if reservedWords.contains name then say name " is a shell keyword"
  else
    match m.aliases.lookup name with
    | some text =>
      say ("alias " ++ name ++ "=" ++ Builtin.quoted text) (" is an alias for " ++ text)
    | none =>
      match m.verb false name with
      | .builtin _ special => say name (if special then " is a special shell builtin" else " is a shell builtin")
      | .function _ => say name " is a shell function"
      | .program =>
        match m.findProgram name with
        | .ok (path, _) =>
          let tracked := m.known.contains name && !name.toList.contains '/'
          let m := say path ((if tracked then " is a tracked alias for " else " is ") ++ path)
          { m with known := name :: m.known }
        | .error _ => (if brief then m else m.sayLine (name ++ ": not found")).withStatus 127

def describeAll (brief : Bool) (names : List String) (m : Machine) : Machine :=
  names.foldl (describe brief) (m.withStatus 0)

/-- The programs that the shell knows, in the order of their places in its table. -/
def listKnown (m : Machine) : Machine :=
  let place (name : String) : Nat :=
    (name.toList.foldl (fun n c => n + c.toNat) ((name.toList.head?.map Char.toNat).getD 0 * 16)) % 32768 % 31
  let placed := m.known.eraseDups.reverse.map fun name => (place name, name)
  let sorted := placed.mergeSort fun a b => a.1 ≤ b.1
  (m.withStatus 0).say (String.join (sorted.filterMap fun (_, name) =>
    match m.findProgram name with
    | .ok (path, _) => some (path ++ "\n")
    | .error _ => none))

/-- Looks for programs without running them. -/
def lookUp (args : List String) (m : Machine) : Machine :=
  Builtin.letters "r" args m fun found names m =>
    if found ≠ [] then { m with known := [] }.withStatus 0
    else if names = [] then m.listKnown
    else
      names.foldl (fun m name =>
        match m.verb false name with
        | .program =>
          match m.findProgram name with
          | .ok _ => { m with known := name :: m.known }
          | .error _ => m.refuse (name ++ ": not found") 1
        | _ => m) (m.withStatus 0)

def aliasAll (args : List String) (m : Machine) : Machine :=
  let line (a : String × String) : String := a.1 ++ "=" ++ Builtin.quoted a.2
  if args = [] then
    let shown := (m.aliases.map line).mergeSort fun a b => Text.isAtMost a.toList b.toList
    (m.withStatus 0).say (String.join (shown.map (· ++ "\n")))
  else
    args.foldl (fun m arg =>
      match Builtin.binding arg with
      | (name, some text) => { m with aliases := (name, text) :: m.aliases.filter (·.1 ≠ name) }
      | (name, none) =>
        match m.aliases.lookup name with
        | some text => m.sayLine (line (name, text))
        | none => (m.mutter ("alias: " ++ name ++ " not found\n")).withStatus 1) (m.withStatus 0)

def unaliasAll (args : List String) (m : Machine) : Machine :=
  if args.head? = some "-a" then { m with aliases := [], status := 0 }
  else
    args.foldl (fun m name =>
      if m.aliases.any (·.1 = name) then { m with aliases := m.aliases.filter (·.1 ≠ name) }
      else (m.mutter ("unalias: " ++ name ++ " not found\n")).withStatus 1) (m.withStatus 0)

def leaveLoops (leaving : Nat → Leaving) (args : List String) (m : Machine) : Machine :=
  Builtin.withNumber (args.headD "1") m fun n m =>
    if n = 0 then m.fault ("Illegal number: " ++ args.headD "1")
    else
      let n := min n m.loops
      { m with status := 0, leaving := if n = 0 then m.leaving else some (leaving n) }

section

variable (run : Runner)

def readIn (args : List String) (m : Machine) : Machine :=
  match args with
  | [] => m.withStatus 0
  | path :: _ =>
    let candidates := if path.toList.contains '/' then [path]
      else (m.homes.map fun home => if home = "" then path else Path.join home path).filter fun p =>
        match m.files.locate m.directory (Text.fromBytewise p) with
        | .ok place => m.files.isFile place
        | .error _ => false
    match candidates with
    | [] => m.fault (path ++ ": not found")
    | path :: _ =>
      match m.files.locate m.directory (Text.fromBytewise path) >>= m.files.read with
      | .error .isADirectory => m.withStatus 0
      | .error e => m.fault ("cannot open " ++ path ++ ": " ++ openReason e "No such file")
      | .ok content =>
        let inner := runText run Manner.plain (String.ofList (Text.ofBytes content))
          { m with command := some path }
        { inner with
          command := m.command
          line := m.line
          leaving := if inner.leaving = some .returning then none else inner.leaving }

/-- Runs a program that the shell does not look up as anything else. With `direct` it takes the place of
the shell. -/
def runExternal (direct : Bool) (words : List String) (m : Machine) : Machine :=
  match words with
  | [] => m.withStatus 0
  | name :: args =>
    let m := if name = "sleep" then m.runJobs else m
    match m.findProgram name with
    | .error e =>
      if name = "" then m.refuse ": Permission denied" 127
      else m.refuse (name ++ ": " ++ openReason e "not found") (launchStatus e)
    | .ok _ =>
      let m := { m with known := if m.known.contains name then m.known else name :: m.known }
      let (process, w) := if direct then (m.process, m.desk.world) else m.desk.world.addProcess
      let parents := if direct then m.parents else m.process :: m.parents
      let launch : Launch := ⟨name, args, m.directory, m.environment, process, parents⟩
      let (result, m) :=
        { m with desk := { m.desk with world := w } }.perform (runProgram run 64 launch)
      let m := if direct then m else m.noticeChild
      match result with
      | .error e => (m.refuse (name ++ ": " ++ openReason e "not found") (launchStatus e)).fall
      | .ok (.signal s) =>
        if direct then { m with leaving := some (.killed s), status := 128 + s }
        else (m.report (.signal s)).fall
      | .ok (.code n) => (m.withStatus n).fall

def replace (words : List String) (m : Machine) : Machine :=
  match words with
  | [] => m.withStatus 0
  | name :: args =>
    match m.findProgram name with
    | .error e =>
      { m.refuse (name ++ ": " ++ openReason e "not found") (launchStatus e) with
        leaving := some .exiting }
    | .ok _ =>
      let m := { m with command := none }.runExternal run true (name :: args)
      { m with leaving := some (m.leaving.getD .exiting), traps := [] }

def leave (args : List String) (m : Machine) : Machine :=
  match args with
  | [] => { m with status := m.trapStatus.getD m.status, leaving := some .exiting }
  | n :: _ => Builtin.withNumber n m fun n m => { m with status := n, leaving := some .exiting }

def goBack (args : List String) (m : Machine) : Machine :=
  match args with
  | [] => { m with leaving := some .returning }
  | n :: _ => Builtin.withNumber n m fun n m => { m with status := n, leaving := some .returning }

def runBuiltin (manner : Manner) (name : String) (args : List String) (m : Machine) : Machine :=
  match name with
  | ":" | "true" => m.withStatus 0
  | "false" => m.withStatus 1
  | "." => readIn run args m
  | "break" => leaveLoops .breaking args m
  | "continue" => leaveLoops .continuing args m
  | "eval" =>
    let inner := runText run { manner with final := false } (" ".intercalate args) m
    { inner with line := m.line }
  | "exec" => replace run (if args.head? = some "--" then args.tail else args) m
  | "exit" => leave args m
  | "return" => goBack args m
  | "export" => Builtin.exportAll args m
  | "readonly" => Builtin.readonlyAll args m
  | "local" => Builtin.localAll args m
  | "set" => Builtin.setAll args m
  | "shift" => Builtin.shift args m
  | "times" => Builtin.times m
  | "trap" => Builtin.trap args m
  | "unset" => Builtin.unsetAll args m
  | "[" => Builtin.bracket args m
  | "test" => Builtin.test args m
  | "alias" => aliasAll args m
  | "unalias" => unaliasAll args m
  | "cd" | "chdir" => Builtin.cd args m
  | "pwd" => Builtin.pwd args m
  | "command" =>
    Builtin.letters "pvV" args m fun found names m =>
      if found.contains 'V' ∨ found.contains 'v' then describeAll (found.contains 'v') (names.take 1) m
      else m.withStatus 0
  | "type" => describeAll false args m
  | "hash" => lookUp args m
  | "echo" => Builtin.echo args m
  | "printf" => Builtin.printf args m
  | "getopts" => Builtin.getopts args m
  | "read" => Builtin.read args m
  | "kill" => Builtin.kill args m
  | "jobs" => Builtin.listJobs m
  | "wait" => Builtin.wait args m
  | "umask" => Builtin.umask args m
  | "ulimit" => Builtin.ulimit args m
  | name => m.refuse (name ++ ": not found") 127

/-- Runs a builtin under its name; errors of those that are not special do not end the shell. -/
def callBuiltin (manner : Manner) (special : Bool) (name : String) (args : List String)
    (m : Machine) : Machine :=
  let inner := runBuiltin run manner name args
    { m with command := some name, desk := { m.desk with trouble := none } }
  let inner := if inner.desk.trouble.isSome then
      let inner := { inner with desk := { inner.desk with trouble := none } }
      { inner.complain (name ++ ": I/O error") with status := inner.status ||| 1 }
    else inner
  { inner with
    command := m.command
    leaving := if inner.leaving = some .failing ∧ !special then none else inner.leaving }

/-- How deep functions may call functions. -/
def maxCalls : Nat := 1000

def callFunction (manner : Manner) (body : Script) (args : List String) (m : Machine) : Machine :=
  if maxCalls ≤ m.calls then m.fault "Maximum function recursion depth (1000) reached"
  else
    let inner := run body { manner with final := false }
      { m with parameters := args, locals := [], calls := m.calls + 1, loops := 0, optionOffset := 0 }
    let inner := inner.locals.foldl restore inner
    { inner with
      parameters := m.parameters
      locals := m.locals
      calls := m.calls
      loops := m.loops
      optionOffset := m.optionOffset
      leaving := if inner.leaving = some .returning then none else inner.leaving }

/-- The words of a command without those that only say how to look up the others, and whether there
were any. -/
def directWords : List String → Bool × List String
  | "command" :: rest =>
    match rest with
    | "-p" :: "--" :: rest => if rest = [] then (false, ["command"]) else (true, rest)
    | "-p" :: rest | "--" :: rest => if rest = [] then (false, ["command"]) else (true, rest)
    | word :: rest =>
      if word.toList.head? = some '-' ∧ word ≠ "-" then (false, "command" :: word :: rest)
      else (true, (directWords (word :: rest)).2)
    | [] => (false, ["command"])
  | words => (false, words)

/-- Whether an error in the redirections or assignments of a command ends the shell. -/
def isSpecialCommand (m : Machine) (words : List String) : Bool :=
  match directWords words with
  | (false, name :: _) => match m.verb false name with
    | .builtin _ special => special
    | _ => false
  | _ => false

def execute (manner : Manner) (words : List String) (m : Machine) : Machine :=
  match directWords words with
  | (_, []) => m
  | (direct, name :: args) =>
    match m.verb direct name with
    | .builtin name special => callBuiltin run manner special name args m
    | .function body => callFunction run manner body args m
    | .program =>
      let takesPlace := manner.final && !m.traps.any (·.2 ≠ "")
      runExternal run takesPlace (name :: args) m

end

end Machine

end PatchSearch.Shell
