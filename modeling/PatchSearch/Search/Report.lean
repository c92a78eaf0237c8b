import PatchSearch.Edit.Data
import PatchSearch.Evaluation.Evaluator

namespace PatchSearch

structure StepRecord where
  /-- The number of the evaluation; the baseline has 0. -/
  step : Nat
  /-- How many candidates were adopted so far. -/
  accepted : Nat
  outcome : Outcome
  message : String
  metric : Float
  /-- How much less than the baseline a successful candidate measured. -/
  improvement : Float
  description : String
deriving Repr

def StepRecord.toJson (r : StepRecord) : Json :=
  .object [("step", .natural r.step), ("accepted", .natural r.accepted),
    ("outcome", .string r.outcome.name), ("message", .string r.message),
    ("metric", .real r.metric), ("improvement", .real r.improvement),
    ("description", .string r.description)]

/-- Takes a record and tells whether that worked. A search goes on when it did not. -/
abbrev Sink (ω : Type) := StepRecord → StateM ω Bool

def Sink.offer {ω : Type} (sink : Sink ω) (r : StepRecord) : StateM ω Unit :=
  discard (sink r)

/-- The record of the program before any edit. -/
def StepRecord.baseline (outcome : Outcome) (metric : Float) : StepRecord :=
  ⟨0, 0, outcome, "baseline", metric, 0, Patch.empty.describe⟩

def Outcome.message : Outcome → String
  | .invalidPatch => "patch invalid"
  | .compileError => "failed to compile"
  | .testFailure => "failed to pass all tests"
  | .success => "passed"

/-- How much less than the baseline a candidate measured; only a success improves anything. -/
def Outcome.improvement (o : Outcome) (baseline metric : Float) : Float :=
  if o = .success then baseline - metric else 0

structure Summary where
  strategy : String
  baseline : Float
  bestFitness : Float
  /-- Baseline minus best fitness, or 0 if nothing was better than the baseline. -/
  improvement : Float
  bestPatch : Patch
  bestSource : Option String
  steps : Nat
  accepted : Nat
deriving Repr

namespace Summary

/-- The summary of a search whose best patch is `best`. -/
def of (strategy : String) (base : SourceTree) (best : Patch) (baseline bestFitness : Float)
    (steps accepted : Nat) : Summary where
  strategy := strategy
  baseline := baseline
  bestFitness := bestFitness
  improvement := if bestFitness < baseline then baseline - bestFitness else 0
  bestPatch := best
  bestSource :=
    match best.apply base with
    | .ok t => some t.render
    | .error _ => none
  steps := steps
  accepted := accepted

def toJson (s : Summary) : Json :=
  Json.compactObject [("strategy", some (.string s.strategy)), ("baseline", some (.real s.baseline)),
    ("best_fitness", some (.real s.bestFitness)), ("improvement", some (.real s.improvement)),
    ("best_patch", some s.bestPatch.toJson), ("best_source", s.bestSource.map .string),
    ("steps", some (.natural s.steps)), ("accepted", some (.natural s.accepted))]

def save (s : Summary) : String :=
  s.toJson.writePretty

end Summary

end PatchSearch
