import PatchSearch.Shell.Call
import PatchSearch.Shell.Signal
import PatchSearch.Shell.Syntax

namespace PatchSearch.Shell

structure Variable where
  name : String
  value : Option String
  exported : Bool
  readOnly : Bool
deriving Repr, DecidableEq

inductive Leaving where
  | breaking (loops : Nat)
  /-- It leaves all but the last of that many loops. -/
  | continuing (loops : Nat)
  | returning
  | failing
  | exiting
  | killed (signal : Nat)
deriving Repr, DecidableEq

/-- Work that a shell does not wait for. -/
structure Job where
  process : Nat
  /-- The work while it has not begun. -/
  work : Option (World → World × Ending)
  ending : Ending

structure Machine where
  desk : Desk
  /-- The place that the shell is in, and how it got there if links lead to it. -/
  directory : List String
  shown : List String
  bindings : List Variable
  /-- What names of variables stood for outside the function, the newest first. -/
  locals : List (String × Option Variable)
  parameters : List String
  name : String
  command : Option String
  line : Nat
  functions : List (String × Script)
  aliases : List (String × String)
  known : List String
  options : List Char
  traps : List (Nat × String)
  trapStatus : Option Nat
  status : Nat
  outputStatus : Nat
  process : Nat
  /-- The process that parts of this shell take for themselves. -/
  shell : Nat
  parents : List Nat
  jobs : List Job
  lastJob : Option Nat
  leaving : Option Leaving
  loops : Nat
  calls : Nat
  optionOffset : Nat
  mask : Nat

namespace Machine

def hasOption (m : Machine) (letter : Char) : Bool :=
  m.options.contains letter

def isLeaving (m : Machine) : Bool :=
  m.leaving.isSome

def perform {α : Type} (m : Machine) (w : Work α) : α × Machine :=
  let (a, d) := w.run m.desk
  (a, { m with desk := d })

def say (m : Machine) (s : String) : Machine :=
  (m.perform (Work.say s.toList)).2

def sayLine (m : Machine) (s : String) : Machine :=
  m.say (s ++ "\n")

def mutter (m : Machine) (s : String) : Machine :=
  (m.perform (Work.mutter s.toList)).2

/-- Writes a message with the shell, the line and the builtin that it is about. -/
def complain (m : Machine) (message : String) : Machine :=
  let builtin := match m.command with
    | some name => name ++ ": "
    | none => ""
  m.mutter (m.name ++ ": " ++ toString m.line ++ ": " ++ builtin ++ message ++ "\n")

def withStatus (m : Machine) (status : Nat) : Machine :=
  { m with status := status }

def withFiles (m : Machine) (fs : Files) : Machine :=
  { m with desk := { m.desk with world := { m.desk.world with files := fs } } }

def files (m : Machine) : Files :=
  m.desk.world.files

/-- Ends the shell, or the builtin that fails, with a message. -/
def fault (m : Machine) (message : String) : Machine :=
  { m.complain message with status := 2, leaving := some .failing }

/-- A builtin that fails for a reason that the shell survives. -/
def refuse (m : Machine) (message : String) (status : Nat) : Machine :=
  (m.complain message).withStatus status

section Variables

def named? (m : Machine) (name : String) : Option Variable :=
  m.bindings.find? (·.name = name)

/-- Puts a variable in the place of the one with its name. -/
def putVariable (m : Machine) (v : Variable) : Machine :=
  { m with bindings := v :: m.bindings.filter (·.name ≠ v.name) }

/-- What a name stands for outside of all functions again. -/
def restore (m : Machine) (saved : String × Option Variable) : Machine :=
  match saved with
  | (_, some v) => m.putVariable v
  | (name, none) => { m with bindings := m.bindings.filter (·.name ≠ name) }

/-- Sets a variable, whether or not it may be set. -/
def store (m : Machine) (name value : String) : Machine :=
  let v := (m.named? name).getD ⟨name, none, false, false⟩
  let m := m.putVariable { v with value := some value, exported := v.exported || m.hasOption 'a' }
  if name = "OPTIND" then { m with optionOffset := 0 }
  else if name = "PATH" then { m with known := [] }
  else m

def assign (m : Machine) (name value : String) : Machine :=
  if (m.named? name).any (·.readOnly) then m.fault (name ++ ": is read only")
  else m.store name value

def unset (m : Machine) (name : String) : Machine :=
  if (m.named? name).any (·.readOnly) then m.fault (name ++ ": is read only")
  else { m with bindings := m.bindings.filter (·.name ≠ name) }

def separators (m : Machine) : List Char :=
  match (m.named? "IFS").bind (·.value) with
  | some s => s.toList
  | none => [' ', '\t', '\n']

/-- The letters of the options that are set, in the order that they are shown in. -/
def optionLetters (m : Machine) : String :=
  String.ofList ("efnxvVECabu".toList.filter m.hasOption)

/-- The value that a name stands for; the parameters together are joined by blanks. -/
def value? (m : Machine) (name : String) : Option String :=
  match name with
  | "?" => some (toString m.status)
  | "$" => some (toString m.shell)
  | "!" => m.lastJob.map toString
  | "#" => some (toString m.parameters.length)
  | "-" => some m.optionLetters
  | "0" => some m.name
  | "@" | "*" => if m.parameters = [] then none else some (" ".intercalate m.parameters)
  | "LINENO" => some (toString m.line)
  | name =>
    if name.toList.all Char.isDigit then
      m.parameters[name.toList.foldl (fun n c => n * 10 + (c.toNat - 48)) 0 - 1]?
    else (m.named? name).bind (·.value)

def valueOf (m : Machine) (name : String) : String :=
  (m.value? name).getD ""

def environment (m : Machine) : List (String × String) :=
  (m.bindings.filter (·.exported)).filterMap fun v => v.value.map fun value => (v.name, value)

end Variables

section Descriptors

def setDescriptor (m : Machine) (descriptor : Nat) (o : Option Outlet) : Machine :=
  let others := m.desk.descriptors.filter (·.1 ≠ descriptor)
  { m with desk := { m.desk with
      descriptors := match o with
        | some o => (descriptor, o) :: others
        | none => others } }

def withDescriptors (m : Machine) (descriptors : List (Nat × Outlet)) : Machine :=
  { m with desk := { m.desk with descriptors := descriptors } }

/-- Lets a descriptor lead to a new pipe with some text in it. -/
def openPipe (m : Machine) (descriptor : Nat) (s : Stream) : Machine :=
  let (o, w) := m.desk.world.addPipe s
  { m with desk := { m.desk with world := w } }.setDescriptor descriptor (some o)

/-- The words for an error when a file is opened or made. -/
def openReason (e : FileError) (missing : String) : String :=
  match e with
  | .notFound | .notADirectory => missing
  | e => reason e

def openFile (m : Machine) (channel : Channel) (path : String) : Except FileError (Nat × Files) := do
  let fs := m.files
  let place ← fs.locate m.directory (Text.fromBytewise path)
  match channel with
  | .read => fs.openToRead place
  | .append => fs.openToAppend place
  | .readWrite => match fs.openToRead place with
    | .error .notFound => fs.openToWrite place
    | opened => opened
  | .write =>
    if m.hasOption 'C' ∧ fs.isFile place then .error .alreadyThere else fs.openToWrite place
  | .clobber | .duplicate => fs.openToWrite place

/-- The descriptor that a path of a special file names. -/
def descriptorOf? (path : String) : Option Nat :=
  match path with
  | "/dev/stdin" | "/dev/fd/0" => some 0
  | "/dev/stdout" | "/dev/fd/1" => some 1
  | "/dev/stderr" | "/dev/fd/2" => some 2
  | "/dev/fd/3" => some 3
  | "/dev/fd/4" => some 4
  | "/dev/fd/5" => some 5
  | _ => none

/-- Carries out a redirection, and tells whether it worked. -/
def redirect (m : Machine) (descriptor : Nat) (channel : Channel) (target : String) :
    Machine × Bool :=
  let copy (source : Nat) (failed : String) : Machine × Bool :=
    match m.desk.descriptors.lookup source with
    | some o => (m.setDescriptor descriptor (some o), true)
    | none => (m.refuse failed 2, false)
  let attempt := if channel = .read then "cannot open " else "cannot create "
  let missing := if channel = .read then "No such file" else "Directory nonexistent"
  if channel = .duplicate then
    if target = "-" then (m.setDescriptor descriptor none, true)
    else
      match target.toList with
      | [c] =>
        if c.isDigit then copy (c.toNat - 48) (target ++ ": Bad file descriptor")
        else (m.fault "Syntax error: Bad fd number", false)
      | _ => (m.fault "Syntax error: Bad fd number", false)
  else
    match descriptorOf? target with
    | some source => copy source (attempt ++ target ++ ": " ++ missing)
    | none =>
      match m.openFile channel target with
      | .ok (handle, fs) => ((m.withFiles fs).setDescriptor descriptor (some (.handle handle)), true)
      | .error e => (m.refuse (attempt ++ target ++ ": " ++ openReason e missing) 2, false)

end Descriptors

section Processes

/-- A copy of the shell that runs a part of its script. -/
def fork (m : Machine) : Machine :=
  let (process, w) := m.desk.world.addProcess
  { m with
    desk := { m.desk with world := w }
    process := process
    parents := m.process :: m.parents
    traps := m.traps.filter (·.2 = "")
    trapStatus := none
    jobs := [] }

/-- Signals for the shell that have no trap and would end it. -/
def deadly? (m : Machine) : Option Nat :=
  let mine := (m.desk.world.signals.filter (·.1 = m.process)).map Prod.snd
  if mine.contains 9 then some 9
  else mine.find? fun s => !Signal.isHarmless s && (m.traps.lookup s).isNone

def fall (m : Machine) : Machine :=
  if m.desk.world.expired then { m with leaving := some (.killed 15) }
  else
    match m.deadly? with
    | some s => { m with leaving := some (.killed s) }
    | none => m

/-- Lets the shell know that a child ended, if it cares. -/
def noticeChild (m : Machine) : Machine :=
  let w := m.desk.world
  if (m.traps.lookup Signal.child).any (· ≠ "") ∧ !w.signals.contains (m.process, Signal.child) then
    { m with desk := { m.desk with world := { w with signals := w.signals ++ [(m.process, Signal.child)] } } }
  else m

/-- Goes on after a copy ended; the world is as the copy left it. -/
def join (m inner : Machine) : Machine :=
  { m with desk := { m.desk with world := inner.desk.world } }.noticeChild.fall

/-- Says how a program ended that the shell waited for, and takes its status. -/
def report (m : Machine) (e : Ending) : Machine :=
  let m := m.withStatus e.status
  match e with
  | .signal s => if Signal.words s = "" then m else m.mutter (Signal.words s ++ "\n")
  | .code _ => m

/-- Sends a signal to a process; the number zero is for all of them. -/
def send (m : Machine) (process signal : Nat) : Machine :=
  let receivers := if process = 0 then m.process :: m.parents else [process]
  let w := m.desk.world
  { m with desk := { m.desk with world :=
    { w with signals := w.signals ++ receivers.map fun p => (p, signal) } } }

end Processes

end Machine

end PatchSearch.Shell
