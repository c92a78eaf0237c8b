import PatchSearch.Files.Basic
import PatchSearch.Text.Blank
import PatchSearch.Text.Integer

namespace PatchSearch

/-- A counter file and the number at which it starts anew. -/
structure Counter where
  path : String
  range : UInt64
deriving Repr, DecidableEq

/-- The readings of both counters, in microjoules. -/
structure EnergySample where
  package : UInt64
  accelerator : UInt64
deriving Repr, DecidableEq

def saturatingSub (a b : UInt64) : UInt64 :=
  if b ≤ a then a - b else 0

def saturatingAdd (a b : UInt64) : UInt64 :=
  if a ≤ a + b then a + b else UInt64.ofNat (UInt64.size - 1)

/-- Microjoules as joules. -/
def joules (microjoules : UInt64) : Float :=
  microjoules.toFloat / 1000000

namespace Counter

def readWord (fs : Files) (directory : List String) (path : String) : Except Failure UInt64 := do
  let text ← (fs.readTextAt directory path).mapError fun e =>
    (Failure.ofFile e).within ("failed to read " ++ path)
  let n ← (Text.readNat (UInt64.size - 1) (Text.trim text.toList)).mapError fun e =>
    Failure.ofText ("bad counter value in " ++ path ++ ": " ++ e.message)
  return n.toUInt64

/-- The counter of a zone; without a readable range it never starts anew. -/
def openZone (fs : Files) (directory : List String) (zone : String) : Except Failure Counter := do
  let path := Path.join zone "energy_uj"
  let _ ← readWord fs directory path
  let range := match readWord fs directory (Path.join zone "max_energy_range_uj") with
    | .ok n => n
    | .error _ => UInt64.ofNat (UInt64.size - 1)
  return ⟨path, range⟩

/-- What was counted between two readings, the second of which may be past the range. -/
def delta (c : Counter) (start finish : UInt64) : UInt64 :=
  if start ≤ finish then finish - start
  else saturatingAdd (saturatingSub c.range start) finish

end Counter

inductive EnergyMeter where
  | absent
  | counters (package : Counter) (accelerator : Option Counter)
deriving Repr, DecidableEq

namespace EnergyMeter

def packageZone : String := "intel-rapl:0"

/-- The names of zones that belong to an accelerator. -/
def acceleratorNames : List String := ["uncore", "gpu"]

/-- The zone of an accelerator inside the zone of the package. -/
def acceleratorZone? (fs : Files) (directory : List String) (zone : String) : Option String :=
  let all := match fs.locate directory zone with
    | .ok place => fs.names place
    | .error _ => []
  let names := all.filter fun name => (packageZone ++ ":").toList.isPrefixOf name.toList
  (names.map (Path.join zone)).find? fun sub =>
    match fs.readTextAt directory (Path.join sub "name") with
    | .ok name => acceleratorNames.contains (Text.trimmed name)
    | .error _ => false

def find (fs : Files) (directory : List String) (root : String) : Except Failure EnergyMeter := do
  let zone := Path.join root packageZone
  let package ← (Counter.openZone fs directory zone).mapError fun e =>
    e.within ("no RAPL package counter under " ++ zone)
  let accelerator := (acceleratorZone? fs directory zone).bind fun sub =>
    (Counter.openZone fs directory sub).toOption
  return .counters package accelerator

def sample (m : EnergyMeter) (fs : Files) (directory : List String) : Except Failure EnergySample :=
  match m with
  | .absent => .ok ⟨0, 0⟩
  | .counters package accelerator => do
    let p ← Counter.readWord fs directory package.path
    match accelerator with
    | none => return ⟨p, 0⟩
    | some a => return ⟨p, ← Counter.readWord fs directory a.path⟩

/-- The microjoules between two samples. -/
def microjoulesBetween (m : EnergyMeter) (start finish : EnergySample) : UInt64 :=
  match m with
  | .absent =>
    saturatingSub finish.package start.package + saturatingSub finish.accelerator start.accelerator
  | .counters package accelerator =>
    package.delta start.package finish.package +
      (accelerator.map fun a => a.delta start.accelerator finish.accelerator).getD 0

/-- The joules between two samples. -/
def joulesBetween (m : EnergyMeter) (start finish : EnergySample) : Float :=
  joules (m.microjoulesBetween start finish)

end EnergyMeter

end PatchSearch
