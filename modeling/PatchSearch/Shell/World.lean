import PatchSearch.Files.Handle
import PatchSearch.Text.Bytewise

namespace PatchSearch.Shell

/-- Characters, after which a run of characters may repeat without end. -/
structure Stream where
  text : List Char
  endless : List Char
deriving Repr, DecidableEq

namespace Stream

def empty : Stream := ⟨[], []⟩

def of (text : List Char) : Stream := ⟨text, []⟩

/-- At most the first `n` characters. -/
def take (s : Stream) (n : Nat) : List Char :=
  let missing := n - s.text.length
  if missing = 0 ∨ s.endless = [] then s.text.take n
  else (s.text ++ (List.replicate (missing / s.endless.length + 1) s.endless).flatten).take n

/-- How much of a text without end is looked at where all of it cannot be. -/
def horizon : Nat := 131072

/-- The text, or a beginning of it that is long enough for most purposes. -/
def finite (s : Stream) : List Char :=
  if s.endless = [] then s.text else s.take (s.text.length + horizon)

/-- Without the first `n` characters. -/
def drop (s : Stream) (n : Nat) : Stream :=
  let missing := n - s.text.length
  if missing = 0 ∨ s.endless = [] then ⟨s.text.drop n, s.endless⟩
  else ⟨s.endless.drop (missing % s.endless.length), s.endless⟩

end Stream

/-- Text on its way from those who write it to those who read it. -/
structure Pipe where
  front : List Char
  /-- The pieces behind the front, the newest first. -/
  back : List (List Char)
  endless : List Char
deriving Repr, DecidableEq

namespace Pipe

def empty : Pipe := ⟨[], [], []⟩

def holding (s : Stream) : Pipe := ⟨s.text, [], s.endless⟩

def stream (p : Pipe) : Stream := ⟨p.front ++ p.back.reverse.flatten, p.endless⟩

/-- Adds to the end, unless there is none. -/
def push (p : Pipe) (s : Stream) : Pipe :=
  if p.endless = [] then { p with back := s.text :: p.back, endless := s.endless } else p

end Pipe

inductive Outlet where
  | handle (index : Nat)
  | pipe (index : Nat)
deriving Repr, DecidableEq

inductive Ending where
  | code (n : Nat)
  | signal (n : Nat)
deriving Repr, DecidableEq

/-- The status that a shell reports for an ending. -/
def Ending.status : Ending → Nat
  | .code n => n
  | .signal n => 128 + n

structure World where
  files : Files
  pipes : Array Pipe
  /-- Signals that did not arrive yet, with the processes that they were sent to. -/
  signals : List (Nat × Nat)
  lastProcess : Nat
  /-- Milliseconds since the start. -/
  clock : Nat
  deadline : Option Nat
  expired : Bool
deriving Repr, DecidableEq

namespace World

def ofFiles (fs : Files) : World := ⟨fs, #[], [], 100, 0, none, false⟩

def addPipe (w : World) (s : Stream) : Outlet × World :=
  (.pipe w.pipes.size, { w with pipes := w.pipes.push (.holding s) })

def addProcess (w : World) : Nat × World :=
  (w.lastProcess + 1, { w with lastProcess := w.lastProcess + 1 })

def stream (w : World) : Outlet → Stream
  | .pipe i => ((w.pipes[i]?).getD .empty).stream
  | .handle i =>
    match w.files.handles[i]?.bind fun h => w.files.nodes[h.node]? with
    | some (.device .zero) | some (.device .full) => ⟨[], ['\x00']⟩
    | _ => .of (Text.ofBytes (w.files.rest i))

def isDirectory (w : World) : Outlet → Bool
  | .pipe _ => false
  | .handle i => (w.files.handles[i]?.bind fun h => w.files.nodes[h.node]?) == some .directory

/-- Reads on behind the first `n` characters of what is there. -/
def consume (w : World) (o : Outlet) (n : Nat) : World :=
  match o with
  | .pipe i => { w with pipes := w.pipes.modify i fun p => .holding (p.stream.drop n) }
  | .handle i => { w with files := w.files.advance i n }

/-- Writes; only the text before an end that never comes reaches a file. -/
def write (w : World) (o : Outlet) (s : Stream) : Except FileError World :=
  match o with
  | .pipe i => .ok { w with pipes := w.pipes.modify i fun p => p.push s }
  | .handle i => do
    return { w with files := ← w.files.writeThrough i (Text.toBytes (s.text ++ s.endless)) }

/-- Lets time pass, up to the deadline. -/
def wait (w : World) (milliseconds : Nat) : World :=
  let later := w.clock + milliseconds
  match w.deadline with
  | none => { w with clock := later }
  | some limit =>
    if later < limit then { w with clock := later } else { w with clock := limit, expired := true }

end World

/-- What a program has before it: the world, and the descriptors that it reads and writes. -/
structure Desk where
  world : World
  descriptors : List (Nat × Outlet)
  trouble : Option FileError
deriving Repr, DecidableEq

abbrev Work := StateM Desk

namespace Work

def putTo (descriptor : Nat) (s : Stream) : Work Unit :=
  modify fun d =>
    match d.descriptors.lookup descriptor with
    | none => { d with trouble := some .badDescriptor }
    | some o =>
      match d.world.write o s with
      | .ok w => { d with world := w }
      | .error e => { d with trouble := some e }

def put (s : Stream) : Work Unit :=
  putTo 1 s

def say (cs : List Char) : Work Unit :=
  put (.of cs)

def sayLine (s : String) : Work Unit :=
  say (s.toList ++ ['\n'])

/-- Writes a message without an end of its line. -/
def mutter (cs : List Char) : Work Unit :=
  modify fun d => { (putTo 2 (.of cs) d).2 with trouble := d.trouble }

def warn (s : String) : Work Unit :=
  mutter (s.toList ++ ['\n'])

def inlet? : Work (Option Outlet) := do
  return (← get).descriptors.lookup 0

def readInput : Work (Except FileError Stream) := do
  match ← inlet? with
  | none => return .error .badDescriptor
  | some o =>
    let d ← get
    if d.world.isDirectory o then return .error .isADirectory
    let s := d.world.stream o
    set { d with world := d.world.consume o s.text.length }
    return .ok s

/-- Takes the whole input, which is empty if it cannot be read. -/
def takeInput : Work Stream := do
  match ← readInput with
  | .ok s => return s
  | .error _ => return .empty

/-- Gives a part of the input back that was read too early, which only files allow. -/
def giveBack (s : Stream) : Work Unit := do
  match ← inlet? with
  | some (.handle i) =>
    modify fun d => { d with world := { d.world with files := d.world.files.retreat i s.text.length } }
  | _ => return ()

def files : Work Files := do
  return (← get).world.files

def setFiles (fs : Files) : Work Unit :=
  modify fun d => { d with world := { d.world with files := fs } }

end Work

end PatchSearch.Shell
