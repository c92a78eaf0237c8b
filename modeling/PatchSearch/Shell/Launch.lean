import PatchSearch.Shell.Builtin.Directory
import PatchSearch.Shell.Number
import PatchSearch.Shell.Program
import PatchSearch.Shell.Runner
import PatchSearch.Shell.Utility.Table

namespace PatchSearch.Shell

/-- A program that is to run, and what it is given. -/
structure Launch where
  name : String
  args : List String
  directory : List String
  environment : List (String × String)
  process : Nat
  /-- The processes that wait for it, the nearest first. -/
  parents : List Nat

section Shells

/-- What a shell has to do according to its arguments. -/
structure ShellRequest where
  options : List Char
  /-- Whether the first argument is the script itself. -/
  given : Bool
  operands : List String

def readShellRequest : (left : Nat) → List String → Except String ShellRequest
  | 0, args => .ok ⟨[], false, args⟩
  | _, [] => .ok ⟨[], false, []⟩
  | left + 1, arg :: args =>
    match arg.toList with
    | ['-'] | ['-', '-'] => .ok ⟨[], false, args⟩
    | sign :: c :: cs =>
      if sign ≠ '-' ∧ sign ≠ '+' then .ok ⟨[], false, arg :: args⟩
      else do
        let letters := (c :: cs).filter fun c => c != 'c' && c != 'o'
        match letters.find? fun c => !Builtin.optionNames.any (·.2 = c) with
        | some c => throw ("Illegal option -" ++ String.singleton c)
        | none => pure ()
        let (named, rest) ← if (c :: cs).contains 'o' then
            match args with
            | [] => pure ([], [])
            | name :: rest =>
              match Builtin.optionNames.find? (·.1 = name) with
              | some (_, letter) => pure ([letter], rest)
              | none => throw ("Illegal option -o " ++ name)
          else pure ([], args)
        let r ← readShellRequest left rest
        let options := if sign = '-' then letters ++ named ++ r.options else r.options
        return ⟨options, (sign = '-' && (c :: cs).contains 'c') || r.given, r.operands⟩
    | _ => .ok ⟨[], false, arg :: args⟩

/-- Variables that every shell sets, unless it gets them. -/
def defaultVariables (parent : Nat) : List (String × String) :=
  [("OPTIND", "1"), ("PPID", toString parent), ("PS1", "# "), ("PS2", "> "), ("PS4", "+ "),
    ("IFS", " \t\n")]

def searchPath : String :=
  "/usr/local/sbin:/usr/local/bin:/usr/sbin:/usr/bin:/sbin:/bin"

/-- A shell before its first command. -/
def Machine.start (l : Launch) (desk : Desk) : Machine :=
  let known := l.environment.filter fun (name, _) => isName name && name != "IFS" && name != "PPID"
  let shown := match known.lookup "PWD" with
    | some path =>
      let place := Path.resolve [] (Text.fromBytewise path)
      match desk.world.files.locate [] (Text.fromBytewise path) with
      | .ok reached => if reached = l.directory then place else l.directory
      | .error _ => l.directory
    | none => l.directory
  let others := (known.filter fun (name, _) => name != "PWD" && name != "OPTIND").map fun (name, value) =>
    Variable.mk name (some value) true false
  let defaults := (defaultVariables (l.parents.headD (l.process - 1))).map fun (name, value) =>
    Variable.mk name (some value) false false
  let path := if (known.lookup "PATH").isSome then [] else [Variable.mk "PATH" (some searchPath) false false]
  { desk := desk
    directory := l.directory
    shown := shown
    bindings := others ++ defaults.filter (fun v => !others.any (·.name = v.name)) ++ path ++
      [⟨"PWD", some (shownPlace shown), true, false⟩]
    locals := [], parameters := [], name := l.name, command := none, line := 0
    functions := [], aliases := [], known := [], options := [], traps := []
    trapStatus := none, status := 0, outputStatus := 0
    process := l.process, shell := l.process, parents := l.parents
    jobs := [], lastJob := none, leaving := none, loops := 0, calls := 0, optionOffset := 0
    mask := 0o22 }

def runShell (run : Runner) (l : Launch) : Work Ending := fun desk =>
  let m := Machine.start l desk
  let stop (message : String) : Ending × Desk := (.code 2, (m.complain message).desk)
  let go (m : Machine) (manner : Manner) (text : String) : Ending × Desk :=
    let (e, m) := (m.runText run manner text).finish run
    (e, { m.desk with descriptors := desk.descriptors })
  match readShellRequest (l.args.length + 1) l.args with
  | .error message => stop message
  | .ok r =>
    let m := { m with options := r.options }
    match r.given, r.operands with
    | true, [] => stop "-c requires an argument"
    | true, [text] => go m ⟨true, false⟩ text
    | true, text :: name :: params => go { m with name := name, parameters := params } ⟨true, false⟩ text
    | false, path :: params =>
      if r.options.contains 's' then
        let (s, m) := m.perform Work.takeInput
        go { m with parameters := path :: params } Manner.plain (String.ofList s.finite)
      else
        match m.files.locate m.directory (Text.fromBytewise path) >>= m.files.read with
        | .ok content =>
          go { m with name := path, parameters := params } Manner.plain
            (String.ofList (Text.ofBytes content))
        | .error .isADirectory => (.code 0, desk)
        | .error e => stop ("cannot open " ++ path ++ ": " ++ Machine.openReason e "No such file")
    | false, [] =>
      let (s, m) := m.perform Work.takeInput
      go m Manner.plain (String.ofList s.finite)

end Shells

section Replacements

structure Replacement where
  name : String
  args : List String
  environment : List (String × String)
  directory : List String
  /-- Milliseconds that it may take. -/
  limit : Option Nat
  /-- What is said if it cannot be run, in front of its name and behind. -/
  complaint : String

/-- Why a program does not make way: messages, output and a status. -/
structure Refusal where
  messages : List String
  output : String
  status : Nat

abbrev Replacing := Call → Files → Except Refusal Replacement

def Call.refusal (c : Call) (message : String) (status : Nat) : Refusal :=
  ⟨[c.name ++ ": " ++ message, "Try '" ++ c.name ++ " --help' for more information."], "", status⟩

/-- Changes of the variables in front of a command, at most `left` of them. -/
def replaceEnvironment (c : Call) (fs : Files) (complaint : String) : (left : Nat) →
    (options : Bool) → List String → (environment : List (String × String)) →
    (directory : List String) → Except Refusal Replacement
  | 0, _, _, _, _ => .error ⟨[], "", 125⟩
  | _, _, [], environment, _ =>
    .error ⟨[], String.join (environment.map fun (n, v) => n ++ "=" ++ v ++ "\n"), 0⟩
  | left + 1, options, arg :: args, environment, directory =>
    let without (name : String) : List (String × String) := environment.filter (·.1 ≠ name)
    let isWord (s : String) : Bool := options && arg == s
    if isWord "-i" || isWord "-" || isWord "--ignore-environment" then
      replaceEnvironment c fs complaint left true args [] directory
    else if isWord "-u" || isWord "--unset" then
      replaceEnvironment c fs complaint left true args.tail (without (args.headD "")) directory
    else if isWord "-C" then
      let path := args.headD ""
      match fs.locate directory (Text.fromBytewise path) with
      | .ok place =>
        if fs.isDirectory place then replaceEnvironment c fs complaint left true args.tail environment place
        else .error ⟨[c.name ++ ": cannot change directory to '" ++ path ++ "': " ++
          (if (fs.entry? place).isSome then "Not a directory" else "No such file or directory")], "", 125⟩
      | .error e =>
        .error ⟨[c.name ++ ": cannot change directory to '" ++ path ++ "': " ++ reason e], "", 125⟩
    else if isWord "--" then replaceEnvironment c fs complaint left false args environment directory
    else
      match arg.toList with
      | '-' :: 'u' :: name =>
        if options then
          replaceEnvironment c fs complaint left true args (without (String.ofList name)) directory
        else .ok ⟨arg, args, environment, directory, none, complaint⟩
      | '-' :: letter :: _ =>
        if options then .error (c.refusal ("invalid option -- '" ++ String.singleton letter ++ "'") 125)
        else .ok ⟨arg, args, environment, directory, none, complaint⟩
      | _ =>
        match Builtin.binding arg with
        | (name, some value) =>
          replaceEnvironment c fs complaint left false args
            (if environment.any (·.1 = name) then
              environment.map fun (n, v) => if n = name then (n, value) else (n, v)
            else environment ++ [(name, value)]) directory
        | (_, none) => .ok ⟨arg, args, environment, directory, none, complaint⟩

def replaceEnv : Replacing := fun c fs =>
  replaceEnvironment c fs "" (c.args.length + 1) true c.args c.environment c.directory

/-- The command behind options, of which some take the next argument as a value. -/
def commandBehind (valued : List String) : List String → List String
  | [] => []
  | "--" :: args => args
  | arg :: args =>
    if valued.contains arg then commandBehind valued args.tail
    else if arg.toList.head? = some '-' then commandBehind valued args
    else arg :: args
termination_by args => args.length

/-- A program that only changes how another one is run. -/
def replacePlain (valued : List String) : Replacing := fun c _ =>
  match commandBehind valued c.args with
  | [] => .error (c.refusal "missing operand" 125)
  | name :: args => .ok ⟨name, args, c.environment, c.directory, none, "failed to run command "⟩

def replaceNice : Replacing := fun c _ =>
  match commandBehind ["-n"] c.args with
  | [] => if c.args = [] then .error ⟨[], "0\n", 0⟩ else
      .error (c.refusal "a command must be given with an adjustment" 125)
  | name :: args => .ok ⟨name, args, c.environment, c.directory, none, ""⟩

def replaceTimeout : Replacing := fun c _ =>
  match commandBehind ["-s", "-k", "--signal", "--kill-after"] c.args with
  | [] | [_] => .error (c.refusal "missing operand" 125)
  | time :: name :: args =>
    match duration? time with
    | none => .error (c.refusal ("invalid time interval '" ++ time ++ "'") 125)
    | some limit =>
      .ok ⟨name, args, c.environment, c.directory, if limit = 0 then none else some limit,
        "failed to run command "⟩

def replacing? : String → Option Replacing
  | "env" => some replaceEnv
  | "nice" => some replaceNice
  | "nohup" => some (replacePlain [])
  | "setsid" => some (replacePlain [])
  | "stdbuf" => some (replacePlain ["-i", "-o", "-e"])
  | "timeout" => some replaceTimeout
  | _ => none

end Replacements

def isShellName (name : String) : Bool :=
  name == "sh" || name == "dash"

def isUtilityName (name : String) : Bool :=
  isShellName name || (replacing? name).isSome || (utility? name).isSome

/-- The directories in which programs are looked for. -/
def programHomes (environment : List (String × String)) : List String :=
  match environment.lookup "PATH" with
  | some path => Builtin.splitPaths path
  | none => Program.homes

/-- Lets a piece of work take at most that many milliseconds. -/
def withLimit (limit : Option Nat) (work : Work (Except FileError Ending)) :
    Work (Except FileError Ending) := do
  match limit with
  | none => work
  | some milliseconds =>
    let before := (← get).world
    let own := before.clock + milliseconds
    let isNearer := match before.deadline with
      | some d => own < d
      | none => true
    if !isNearer then work
    else
      modify fun d => { d with world := { d.world with deadline := some own } }
      let result ← work
      let expired := (← get).world.expired
      modify fun d => { d with world := { d.world with deadline := before.deadline, expired := false } }
      return if expired then .ok (.code 124) else result

/-- Runs a program; `left` bounds how often programs may make way for others. -/
def runProgram (run : Runner) : (left : Nat) → Launch → Work (Except FileError Ending)
  | 0, _ => return .error .tooLong
  | left + 1, l => do
    let fs ← Work.files
    match Program.find isUtilityName fs l.directory (programHomes l.environment) l.name with
    | .error e => return .error e
    | .ok (path, .script place) =>
      match interpreter? (match fs.read place with
        | .ok content => Text.ofBytes content
        | .error _ => []) with
      | some (name, args) => runProgram run left { l with name := name, args := args ++ path :: l.args }
      | none => return .ok (← runShell run { l with name := "sh", args := path :: l.args })
    | .ok (_, .utility name) =>
      if isShellName name then return .ok (← runShell run l)
      else
        let spawn (words : List String) : Work (Except FileError Ending) := do
          let d ← get
          let (process, w) := d.world.addProcess
          set { d with world := w }
          match words with
          | [] => return .error .notFound
          | name :: args =>
            runProgram run left
              { l with name := name, args := args, process := process, parents := l.process :: l.parents }
        let homes := programHomes l.environment
        let program? (name : String) : Option String :=
          (Program.find isUtilityName fs l.directory homes name).toOption.map Prod.fst
        let call : Call := ⟨l.name, l.args, l.directory, l.environment, spawn, program?⟩
        match replacing? name with
        | some replace =>
          match replace call fs with
          | .error r =>
            r.messages.forM Work.warn
            Work.say r.output.toList
            return .ok (.code r.status)
          | .ok r =>
            let result ← withLimit r.limit (runProgram run left
              { l with name := r.name, args := r.args, environment := r.environment,
                       directory := r.directory })
            match result with
            | .ok e => return .ok e
            | .error e =>
              call.warn (r.complaint ++ "'" ++ r.name ++ "': " ++ reason e)
              return .ok (.code (launchStatus e))
        | none =>
          match utility? name with
          | none => return .error .notFound
          | some u =>
            modify fun d => { d with trouble := none }
            let status ← u call
            match (← get).trouble with
            | none => return .ok (.code status)
            | some e =>
              modify fun d => { d with trouble := none }
              call.warn ("write error: " ++ reason e)
              return .ok (.code (if status = 0 then 1 else status))

end PatchSearch.Shell
