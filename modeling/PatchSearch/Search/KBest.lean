import PatchSearch.Edit.Mutation
import PatchSearch.Search.Config
import PatchSearch.Search.Report

namespace PatchSearch

structure KBestSearch (ω : Type) where
  evaluator : Evaluator ω
  config : SearchConfig

namespace KBestSearch

structure State where
  rng : Random
  /-- The best patch so far. -/
  incumbent : Patch
  fitness : Float
  baseline : Float
  /-- Better patches with their means, the oldest first. -/
  buffer : List (Patch × Float)
  accepted : Nat
deriving Repr

variable {ω : Type}

def fresh (s : KBestSearch ω) : State :=
  ⟨.ofSeed s.config.seed, .empty, worstFitness, worstFitness, [], 0⟩

def mutator (s : KBestSearch ω) : Mutator :=
  .ofKinds s.config.editKinds

/-- Measures the program before any edit and starts anew from there. -/
def measureBaseline (s : KBestSearch ω) (sink : Sink ω) (st : State) : StateM ω State := do
  let sampled ← s.evaluator.evaluateRepeatedly .empty s.config.repeats
  sink.offer (.baseline sampled.verdict.outcome sampled.mean)
  return { st with
    rng := .ofSeed s.config.seed
    incumbent := .empty
    fitness := sampled.mean
    baseline := sampled.mean
    buffer := []
    accepted := 0 }

/-- The first of the best among a patch and others. -/
def best (first : Patch × Float) (others : List (Patch × Float)) : Patch × Float :=
  others.foldl (fun best entry => if entry.2 < best.2 then entry else best) first

/-- Adopts the best patch of the buffer and empties it. -/
def commit (st : State) : State :=
  let chosen := best (st.incumbent, st.fitness) st.buffer
  { st with
    incumbent := chosen.1
    fitness := chosen.2
    buffer := []
    accepted := if chosen.2 < st.fitness then st.accepted + 1 else st.accepted }

/-- Buffers a candidate if it is better, and commits once the buffer is full. The message tells
what happened. -/
def adopt (s : KBestSearch ω) (candidate : Patch) (sampled : Sampled) (st : State) :
    String × State :=
  let outcome := sampled.verdict.outcome
  let (message, st) :=
    if outcome = .success ∧ sampled.mean < st.fitness then
      let buffer := st.buffer ++ [(candidate, sampled.mean)]
      (s!"buffered {buffer.length}/{s.config.k}", { st with buffer := buffer })
    else (outcome.message, st)
  (message, if s.config.k ≤ st.buffer.length then commit st else st)

/-- What tells a candidate from the patch that it was made of. -/
def describe (incumbent candidate : Patch) : String :=
  if incumbent.size < candidate.size then
    (candidate.edits.getLast?.map Edit.describe).getD ""
  else "no statement to edit"

def step (s : KBestSearch ω) (sink : Sink ω) (number : Nat) (st : State) :
    StateM ω (StepRecord × State) := do
  let (candidate, rng) := s.mutator.mutate st.incumbent s.evaluator.base st.rng
  let description := describe st.incumbent candidate
  let sampled ← s.evaluator.evaluateRepeatedly candidate s.config.repeats
  let outcome := sampled.verdict.outcome
  let metric := if outcome = .success then sampled.mean else s.evaluator.measure sampled.verdict
  let (message, st) := s.adopt candidate sampled { st with rng := rng }
  let record : StepRecord :=
    { step := number, accepted := st.accepted, outcome := outcome, message := message,
      metric := metric, improvement := outcome.improvement st.baseline metric,
      description := description }
  sink.offer record
  return (record, st)

/-- Steps with the numbers from `number` on. -/
def steps (s : KBestSearch ω) (sink : Sink ω) : (left number : Nat) → State → StateM ω State
  | 0, _, st => pure st
  | left + 1, number, st => do
    let (_, st) ← s.step sink number st
    steps s sink left (number + 1) st

def summary (s : KBestSearch ω) (st : State) : Summary :=
  .of "kbest" s.evaluator.base st.incumbent st.baseline st.fitness s.config.steps st.accepted

def run (s : KBestSearch ω) (sink : Sink ω) (st : State) : StateM ω (Summary × State) := do
  let st ← s.measureBaseline sink st
  let st ← s.steps sink s.config.steps 1 st
  return (s.summary st, st)

end KBestSearch

end PatchSearch
