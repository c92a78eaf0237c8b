import PatchSearch.Generation.Service
import PatchSearch.Harness.Command

namespace PatchSearch

/-- A world with a tree of files in it, beside whatever else commands and services depend on. -/
class HasFiles (ω : Type) where
  files : ω → Files
  setFiles : ω → Files → ω
  files_setFiles : ∀ w fs, files (setFiles w fs) = fs

attribute [simp] HasFiles.files_setFiles

open HasFiles

instance : HasFiles Files where
  files fs := fs
  setFiles _ fs := fs
  files_setFiles _ _ := rfl

instance {σ : Type} : HasFiles (Files × σ) where
  files w := w.1
  setFiles w fs := (fs, w.2)
  files_setFiles _ _ := rfl

def onFiles {ω α : Type} [HasFiles ω] (x : StateM Files α) : StateM ω α := fun w =>
  let (a, fs) := x.run (files w)
  (a, setFiles w fs)

structure ProcessEnd where
  /-- The exit status; none after a signal. -/
  status : Option Int32
  output : Text.Bytes
  errors : Text.Bytes
  /-- Whether it was killed at the limit that it was given. -/
  expired : Bool
deriving Repr, DecidableEq

/-- What can go wrong with a process: starting it, or waiting for its end. -/
inductive ProcessError where
  | start (e : FileError)
  | wait (e : FileError)
  | poll (e : FileError)
  | reap (e : FileError)
deriving Repr, DecidableEq

def ProcessError.failure (command : String) : ProcessError → Failure
  | .start e => (Failure.ofFile e).within ("failed to spawn \x60" ++ command ++ "\x60")
  | .wait e => (Failure.ofFile e).within "failed to wait for child"
  | .poll e => (Failure.ofFile e).within "failed to poll child"
  | .reap e => (Failure.ofFile e).within "failed to reap child"

/-- What runs command lines and answers requests. Services are elsewhere: they change no file. -/
structure Host (ω : Type) [HasFiles ω] where
  /-- Runs a command line in a working directory, for at most that many seconds. -/
  run : (directory : List String) → (workdir command : String) → (limit : Option UInt64) →
    StateM ω (Except ProcessError ProcessEnd)
  /-- What the commands used so far. -/
  consumed : ω → Consumption
  ask : Client → Backend ω
  files_ask : ∀ client prompt w, files ((ask client prompt).run w).2 = files w

namespace CommandConfig

/-- Writes a candidate to its file and makes the directories on the way. -/
def placeSource (c : CommandConfig) (directory : List String) (source : String) (fs : Files) :
    Except Failure Unit × Files :=
  let path := c.sourcePath
  let made : Except Failure Files := match Path.parent? path with
    | none => .ok fs
    | some parent => (fs.provide directory parent).mapError fun e =>
      (Failure.ofFile e).within ("failed to create " ++ parent)
  match made with
  | .error f => (.error f, fs)
  | .ok fs =>
    match fs.writeTextAt directory path source with
    | .ok fs => (.ok (), fs)
    | .error e => (.error ((Failure.ofFile e).within ("failed to write " ++ path)), fs)

/-- Runs a command line in the working directory. Without a limit it ends by itself. -/
def runCommand {ω : Type} [HasFiles ω] (c : CommandConfig) (host : Host ω) (directory : List String)
    (command : String) : StateM ω (Except Failure CommandResult) := do
  match ← host.run directory c.workdir command c.timeout with
  | .error e => return .error (e.failure command)
  | .ok p =>
    return .ok {
      status := p.status
      output := Text.decodeLossy p.output
      errors := Text.decodeLossy p.errors
      timedOut := c.timeout.isSome && p.expired }

end CommandConfig

/-- The workshop of a command harness on a host. Paths start from `directory`. -/
def Workshop.ofHost {ω : Type} [HasFiles ω] (host : Host ω) (c : CommandConfig) (directory : List String)
    (meter : EnergyMeter) : Workshop ω where
  place source := onFiles fun fs => c.placeSource directory source fs
  run command := c.runCommand host directory command
  consumed := fun w => (host.consumed w, w)
  sample := fun w => (meter.sample (files w) directory, w)
  joulesBetween := meter.joulesBetween

end PatchSearch
