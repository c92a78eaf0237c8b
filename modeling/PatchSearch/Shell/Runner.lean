import PatchSearch.Shell.Builtin.Processes
import PatchSearch.Shell.Reader

namespace PatchSearch.Shell

structure Manner where
  /-- Whether nothing else of the shell follows, so that a program may take its place. -/
  final : Bool
  tested : Bool
deriving Repr, DecidableEq

def Manner.plain : Manner := ⟨false, false⟩

abbrev Runner := Script → Manner → Machine → Machine

namespace Machine

/-- Runs scripts one after the other; only the last one may be final. -/
def runScripts (run : Runner) (manner : Manner) : List Script → Machine → Machine
  | [], m => m
  | [s], m => if m.isLeaving ∨ m.hasOption 'n' then m else run s manner m
  | s :: rest, m =>
    if m.isLeaving ∨ m.hasOption 'n' then m
    else runScripts run manner rest (run s { manner with final := false } m)

/-- Whether a script does nothing. -/
def isIdle : Script → Bool
  | .skip => true
  | _ => false

/-- Runs a text as a script. One that does nothing succeeds. -/
def runText (run : Runner) (manner : Manner) (text : String) (m : Machine) : Machine :=
  let (scripts, error) := parse text.toList
  let final := manner.final && error.isNone && text.toList.getLast? != some '\n'
  let m := if scripts.all isIdle then m.withStatus 0
    else runScripts run { manner with final := final } scripts m
  match error with
  | some e =>
    if m.isLeaving then m else { m with line := e.line }.fault ("Syntax error: " ++ e.fault.message)
  | none => m

/-- Runs what is to be done about a signal; the status stays what it was unless the shell is left. -/
def runTrap (run : Runner) (m : Machine) (action : String) : Machine :=
  let inner := runText run Manner.plain action { m with trapStatus := some m.status }
  let status := if inner.leaving = some .returning ∨ inner.leaving = some .exiting then inner.status
    else m.status
  { inner with status := status, trapStatus := m.trapStatus, line := m.line }

/-- Lets the signals arrive that were sent to the shell. -/
def checkpoint (run : Runner) (m : Machine) : Machine :=
  let w := m.desk.world
  if w.signals = [] then m.fall
  else if m.isLeaving ∧ !m.desk.world.signals.any (· = (m.process, 9)) then m
  else
    let (mine, others) := w.signals.partition (·.1 = m.process)
    let m := { m with desk := { m.desk with world := { w with signals := others } } }
    let arrive (m : Machine) (s : Nat) : Machine :=
      if m.isLeaving then m
      else if s = 9 then { m with leaving := some (.killed s) }
      else
        match m.traps.lookup s with
        | some action => if action = "" then m else runTrap run m action
        | none => if Signal.isHarmless s then m else { m with leaving := some (.killed s) }
    ((mine.map Prod.snd).mergeSort.foldl arrive m).fall

/-- Ends a shell: what is to be done at its end, and how it ended. -/
def finish (run : Runner) (m : Machine) : Ending × Machine :=
  let close (m : Machine) : Ending × Machine :=
    let m := m.runJobs
    match m.leaving with
    | some (.killed s) => (.signal s, m)
    | _ => (.code (m.status % 256), m)
  match m.leaving, m.traps.lookup 0 with
  | some (.killed _), _ | _, none => close m
  | _, some action =>
    let m := { m with leaving := none, traps := m.traps.filter (·.1 ≠ 0) }
    let inner := runText run Manner.plain action { m with trapStatus := some m.status }
    close (if inner.leaving = some .exiting ∨ inner.leaving = some .failing then inner
      else { inner with status := m.status })

/-- Runs a part of the script on its own, and how that ended. -/
def runApart (run : Runner) (work : Machine → Machine) (m : Machine) : Ending × Machine :=
  let (e, inner) := finish run (work m.fork)
  (e, m.join inner)

end Machine

end PatchSearch.Shell
