import PatchSearch.Generation.Feedback
import PatchSearch.Generation.Generator
import PatchSearch.Search.Config
import PatchSearch.Search.Report

namespace PatchSearch

/-- A candidate that did not compile or did not pass its tests. -/
structure FailedCandidate where
  source : String
  diagnostic : String
deriving Repr, DecidableEq

structure LocalSearch (ω : Type) where
  evaluator : Evaluator ω
  generator : Generator ω
  /-- The template for the first step and after a candidate that did not fail. -/
  regular : Template
  afterFailure : Template
  config : SearchConfig

namespace LocalSearch

structure State where
  rng : Random
  feedback : Feedback
  /-- The best patch so far. -/
  incumbent : Patch
  fitness : Float
  baseline : Float
  failure : Option FailedCandidate
  accepted : Nat
deriving Repr

variable {ω : Type}

def fresh (s : LocalSearch ω) : State :=
  ⟨.ofSeed s.config.seed, .empty, .empty, worstFitness, worstFitness, none, 0⟩

/-- Measures the program before any edit and starts anew from there. -/
def measureBaseline (s : LocalSearch ω) (sink : Sink ω) (st : State) : StateM ω State := do
  let v ← s.evaluator.baseline
  let metric := s.evaluator.measure v
  sink.offer (.baseline v.outcome metric)
  return { st with
    rng := .ofSeed s.config.seed
    feedback := { Feedback.empty with baseline := some metric }
    incumbent := .empty
    fitness := s.evaluator.fitness v
    baseline := metric
    failure := none
    accepted := 0 }

/-- The template for the next prompt, and the values that are known for it. -/
def prompting (s : LocalSearch ω) (st : State) : Template × Tag.Values :=
  let values := Tag.Values.none.set .context st.feedback.render
  match st.failure with
  | none => (s.regular, values)
  | some f => (s.afterFailure, (values.set .previous f.source).set .error f.diagnostic)

/-- A candidate next to the best patch, with a description. -/
def neighbour (s : LocalSearch ω) (st : State) : StateM ω (Patch × String × Random) := do
  let (template, values) := s.prompting st
  let best := st.incumbent
  let (simplify, rng) :=
    if best.isEmpty then (false, st.rng) else st.rng.coin s.config.simplifyProbability
  if simplify then
    let (i, rng) := rng.below best.size
    let removed := (best.edits[i]?.map Edit.describe).getD ""
    return (best.eraseAt i, s!"remove edit {i}: " ++ removed, rng)
  else
    match ← s.generator.generate (Mutator.current best s.evaluator.base) rng template values with
    | (some edit, rng) => return (best.add (.generated edit), edit.describe, rng)
    | (none, rng) => return (best, "no statement to rewrite", rng)

/-- What the verdict on a candidate changes, and the message about it. -/
def adopt (s : LocalSearch ω) (candidate : Patch) (v : Verdict) (st : State) : String × State :=
  let metric := s.evaluator.measure v
  let measured := Decimal.display metric ++ " " ++ s.evaluator.metric.unit
  match v.outcome with
  | .invalidPatch => (Outcome.invalidPatch.message, { st with failure := none })
  | .compileError | .testFailure =>
    (v.outcome.message,
      { st with failure := some ⟨v.source.getD "", v.diagnostic.getD ""⟩ })
  | .success =>
    if metric < st.fitness then
      ("new best: " ++ measured,
        { st with
          failure := none, incumbent := candidate, fitness := metric, accepted := st.accepted + 1 })
    else (measured, { st with failure := none })

def step (s : LocalSearch ω) (sink : Sink ω) (number : Nat) (st : State) :
    StateM ω (StepRecord × State) := do
  let (candidate, description, rng) ← s.neighbour st
  let v ← s.evaluator.evaluate candidate
  let metric := s.evaluator.measure v
  let (message, st) := s.adopt candidate v { st with rng := rng }
  let st :=
    if v.outcome = .invalidPatch then st
    else { st with feedback := st.feedback.push description metric }
  let record : StepRecord :=
    { step := number, accepted := st.accepted, outcome := v.outcome, message := message,
      metric := metric, improvement := v.outcome.improvement st.baseline metric,
      description := description }
  sink.offer record
  return (record, st)

/-- Steps with the numbers from `number` on. -/
def steps (s : LocalSearch ω) (sink : Sink ω) : (left number : Nat) → State → StateM ω State
  | 0, _, st => pure st
  | left + 1, number, st => do
    let (_, st) ← s.step sink number st
    steps s sink left (number + 1) st

def summary (s : LocalSearch ω) (st : State) : Summary :=
  .of "local" s.evaluator.base st.incumbent st.baseline st.fitness s.config.steps st.accepted

def run (s : LocalSearch ω) (sink : Sink ω) (st : State) : StateM ω (Summary × State) := do
  let st ← s.measureBaseline sink st
  let st ← s.steps sink s.config.steps 1 st
  return (s.summary st, st)

end LocalSearch

end PatchSearch
