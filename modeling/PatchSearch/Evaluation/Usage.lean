import PatchSearch.Failure
import PatchSearch.Json.Decode
import PatchSearch.Json.Writer

namespace PatchSearch

/-- The largest finite double, which stands for the fitness of a candidate that failed. -/
def worstFitness : Float := Float.ofBits 0x7fefffffffffffff

structure Usage where
  wallTime : UInt64
  cpuTime : UInt64
  /-- Growth of the peak of resident memory, in kibibytes. -/
  memory : Int64
  /-- Energy in joules. -/
  energy : Float
deriving Repr, BEq

namespace Usage

def zero : Usage := ⟨0, 0, 0, 0⟩

def add (a b : Usage) : Usage :=
  ⟨a.wallTime + b.wallTime, a.cpuTime + b.cpuTime, a.memory + b.memory, a.energy + b.energy⟩

def toJson (u : Usage) : Json :=
  .object [("wall_time_ns", .natural u.wallTime.toNat), ("cpu_time_ns", .natural u.cpuTime.toNat),
    ("memory_delta_kb", .integer u.memory.toInt), ("energy_joules", .real u.energy)]

def ofJson? (j : Json) : Option Usage := do
  let r ← j.record? ["wall_time_ns", "cpu_time_ns", "memory_delta_kb", "energy_joules"]
  return {
    wallTime := ← r.required "wall_time_ns" Json.word?
    cpuTime := ← r.required "cpu_time_ns" Json.word?
    memory := ← r.required "memory_delta_kb" Json.signedWord?
    energy := ← r.required "energy_joules" Json.float? }

end Usage

inductive Metric where
  | executionTime
  | cpuTime
  | energy
deriving Repr, DecidableEq

namespace Metric

def all : List Metric := [.executionTime, .cpuTime, .energy]

def name : Metric → String
  | .executionTime => "execution_time"
  | .cpuTime => "cpu_time"
  | .energy => "energy"

def unit : Metric → String
  | .executionTime | .cpuTime => "ns"
  | .energy => "J"

/-- The metric with exactly this name. -/
def ofName? (s : String) : Option Metric :=
  all.find? fun m => m.name = s

/-- A name in lower case, with underscores for hyphens. -/
def normalise (s : String) : String :=
  String.ofList (s.toList.map fun c => if c = '-' then '_' else c.toLower)

/-- The metric with a normalised name, long or short. -/
def read? (s : String) : Option Metric :=
  match normalise s with
  | "execution_time" | "time" | "runtime" => some .executionTime
  | "cpu_time" | "cpu" => some .cpuTime
  | "energy" => some .energy
  | _ => none

def parse (s : String) : Except UnknownName Metric :=
  (read? s).elim (.error ⟨"metric", normalise s⟩) .ok

/-- The part of the resources that counts, as a double. -/
def measure (m : Metric) (u : Usage) : Float :=
  match m with
  | .executionTime => u.wallTime.toFloat
  | .cpuTime => u.cpuTime.toFloat
  | .energy => u.energy

end Metric

end PatchSearch
