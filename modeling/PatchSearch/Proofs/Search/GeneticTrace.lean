import PatchSearch.Proofs.Search.Genetic
import PatchSearch.Proofs.Search.Trial

namespace PatchSearch.GeneticSearch

variable {ω : Type}

/-- The state after a verdict on a patch. -/
def conclude (s : GeneticSearch ω) (p : Patch) (v : Verdict) (st : State) : State :=
  let fitness := s.evaluator.fitness v
  let st := { st with evaluations := st.evaluations + 1 }
  if fitness < st.bestFitness then
    { st with best := p, bestFitness := fitness, accepted := st.accepted + 1 }
  else st

/-- What the sink is told about a verdict on a patch. -/
def report (s : GeneticSearch ω) (generation : Nat) (p : Patch) (v : Verdict) (st : State) :
    StepRecord :=
  let what := if s.evaluator.fitness v < st.bestFitness then "new best" else v.outcome.message
  let metric := s.evaluator.measure v
  let st := s.conclude p v st
  { step := st.evaluations, accepted := st.accepted, outcome := v.outcome,
    message := s!"generation {generation}: " ++ what, metric := metric,
    improvement := v.outcome.improvement st.baseline metric, description := p.describe }

/-- The evaluation of a patch in a state and a world. -/
def trial (s : GeneticSearch ω) (generation : Nat) (p : Patch) (st : State) (w : ω) : Trial ω :=
  s.evaluator.trial p w (s.report generation p ((s.evaluator.evaluate p).run w).1 st)

/-- A run in the middle of a generation: the number of the generation, the patches that are scored and
those that are still to be evaluated, the evaluations since the baseline, the state and the world. -/
inductive Traces (s : GeneticSearch ω) (sink : Sink ω) (st₀ : State) (w₀ : ω) :
    Nat → List Scored → List Patch → List (Trial ω) → State → ω → Prop
  | start {st population st' w} : (s.measureBaseline sink st₀).run w₀ = (st, w) →
      s.firstPopulation st = (population, st') → Traces s sink st₀ w₀ 1 [] population [] st' w
  | evaluate {generation scored p pending trials st w entry st' w'} :
      Traces s sink st₀ w₀ generation scored (p :: pending) trials st w →
      (s.evaluateOne sink generation p st).run w = ((entry, st'), w') →
      Traces s sink st₀ w₀ generation (scored ++ [entry]) pending
        (trials ++ [s.trial generation p st w]) st' w'
  | breed {generation scored trials st w population st'} :
      Traces s sink st₀ w₀ generation scored [] trials st w →
      s.nextPopulation scored st = (population, st') →
      Traces s sink st₀ w₀ (generation + 1) [] population trials st' w

variable {s : GeneticSearch ω} {sink : Sink ω} {st st' st₀ : State} {w w' w₀ : ω}
  {generation : Nat} {scored : List Scored} {pending : List Patch} {trials : List (Trial ω)}

theorem Traces.next {p : Patch} (h : s.Traces sink st₀ w₀ generation scored (p :: pending) trials st w) :
    s.Traces sink st₀ w₀ generation
      (scored ++ [((s.evaluateOne sink generation p st).run w).1.1]) pending
      (trials ++ [s.trial generation p st w]) ((s.evaluateOne sink generation p st).run w).1.2
      ((s.evaluateOne sink generation p st).run w).2 :=
  .evaluate h rfl

theorem evaluateOne_eq (s : GeneticSearch ω) (sink : Sink ω) (generation : Nat) (p : Patch)
    (st : State) : s.evaluateOne sink generation p st = (do
      let v ← s.evaluator.evaluate p
      sink.offer (s.report generation p v st)
      return ((p, (s.evaluator.fitness v).toBits), s.conclude p v st)) :=
  rfl

theorem evaluateOne_state (p : Patch) :
    ((s.evaluateOne sink generation p st).run w).1.2 =
      s.conclude p (s.trial generation p st w).verdict st := by
  rw [evaluateOne_eq]
  rfl

theorem evaluateAll_traces {more : List Scored}
    (ht : s.Traces sink st₀ w₀ generation scored pending trials st w)
    (h : (s.evaluateAll sink generation pending st).run w = ((more, st'), w')) :
    ∃ trials', s.Traces sink st₀ w₀ generation (scored ++ more) [] trials' st' w' := by
  induction pending generalizing scored trials st w more with
  | nil =>
    cases h
    rw [List.append_nil]
    exact ⟨trials, ht⟩
  | cons p ps ih =>
    unfold evaluateAll at h
    obtain ⟨⟨entry, st₁⟩, w₁, ho, h⟩ := exists_run_of_bind h
    obtain ⟨⟨rest, st₂⟩, w₂, ha, h⟩ := exists_run_of_bind h
    cases h
    obtain ⟨trials', ht'⟩ := ih (ht.evaluate ho) ha
    rw [List.append_assoc] at ht'
    exact ⟨trials', ht'⟩

theorem generations_traces {left number : Nat}
    (ht : s.Traces sink st₀ w₀ number [] pending trials st w)
    (h : (s.generations sink left number pending st).run w = (st', w')) :
    ∃ last population trials', s.Traces sink st₀ w₀ last [] population trials' st' w' := by
  induction left generalizing number pending trials st w with
  | zero =>
    cases h
    exact ⟨number, pending, trials, ht⟩
  | succ left ih =>
    unfold generations at h
    obtain ⟨⟨scored, st₁⟩, w₁, hs, h⟩ := exists_run_of_bind h
    obtain ⟨trials', ht'⟩ := evaluateAll_traces ht hs
    exact ih (ht'.breed rfl) h

/-- A run that ends with a summary has evaluated all its populations. -/
theorem run_traces {summary : Summary} (h : (s.run sink st₀).run w₀ = ((.ok summary, st), w)) :
    (∃ generation population trials, s.Traces sink st₀ w₀ generation [] population trials st w) ∧
      summary = s.summary st := by
  unfold run at h
  split at h
  next => cases h
  next =>
    obtain ⟨st₁, w₁, hb, h⟩ := exists_run_of_bind h
    obtain ⟨st₂, w₂, hs, h⟩ := exists_run_of_bind h
    cases h
    exact ⟨generations_traces (.start hb rfl) hs, rfl⟩

/-- The best patch of a state. -/
def State.standing (st : State) : Standing :=
  ⟨st.best, st.bestFitness, st.accepted⟩

theorem firstPopulation_standing (h : s.firstPopulation st = (pending, st')) :
    st'.standing = st.standing := by
  cases h
  rfl

theorem nextPopulation_standing (h : s.nextPopulation scored st = (pending, st')) :
    st'.standing = st.standing := by
  cases h
  rfl

theorem measureBaseline_standing (h : (s.measureBaseline sink st).run w = (st', w')) :
    st'.standing = ⟨.empty, s.evaluator.baselineFitness w, 0⟩ := by
  unfold measureBaseline at h
  obtain ⟨v, w₁, hv, h⟩ := exists_run_of_bind h
  obtain ⟨_, w₂, _, h⟩ := exists_run_of_bind h
  have hverdict : (s.evaluator.baseline.run w).1 = v := congrArg Prod.fst hv
  rw [← (Prod.mk.inj h).1, Evaluator.baselineFitness, hverdict]
  rfl

/-- As long as the fitness of the failures is not less, only successes are better. -/
theorem fitness_lt_iff {v : Verdict} {x : Float} (hx : ¬worstFitness < x) :
    s.evaluator.fitness v < x ↔ v.isSuccess = true ∧ s.evaluator.measure v < x := by
  cases hs : v.isSuccess with
  | false => simp [Evaluator.fitness_of_failure hs, hx]
  | true => simp [Evaluator.fitness_of_success hs]

theorem conclude_moves {t : Trial ω} (hworst : ¬worstFitness < st.bestFitness)
    (hr : t.record.accepted = (s.conclude t.patch t.verdict st).accepted) :
    t.Moves s.evaluator.metric st.standing (s.conclude t.patch t.verdict st).standing := by
  by_cases hc : t.verdict.isSuccess = true ∧ s.evaluator.measure t.verdict < st.bestFitness
  · have hst : (s.conclude t.patch t.verdict st).standing =
        ⟨t.patch, s.evaluator.measure t.verdict, st.accepted + 1⟩ := by
      unfold conclude
      dsimp only
      rw [if_pos ((fitness_lt_iff hworst).mpr hc), State.standing,
        Evaluator.fitness_of_success hc.1]
    rw [hst]
    exact .adopt hc.1 hc.2 (hr.trans (congrArg Standing.accepted hst))
  · have hst : (s.conclude t.patch t.verdict st).standing = st.standing := by
      unfold conclude
      dsimp only
      rw [if_neg fun hlt => hc ((fitness_lt_iff hworst).mp hlt)]
      rfl
    rw [hst]
    exact .keep hc (hr.trans (congrArg Standing.accepted hst))

/-- A failure takes the place of a best patch that is worse than the failures. -/
theorem evaluateOne_failure {p : Patch} (hworst : worstFitness < st.bestFitness)
    (hv : ((s.evaluator.evaluate p).run w).1.isSuccess = false) :
    ((s.evaluateOne sink generation p st).run w).1.2.standing =
      ⟨p, worstFitness, st.accepted + 1⟩ := by
  have hverdict : (s.trial generation p st w).verdict = ((s.evaluator.evaluate p).run w).1 := rfl
  rw [evaluateOne_state, hverdict, conclude, Evaluator.fitness_of_failure hv]
  dsimp only
  rw [if_pos hworst]
  rfl

theorem evaluateOne_moves {p : Patch} {entry : Scored} (hworst : ¬worstFitness < st.bestFitness)
    (h : (s.evaluateOne sink generation p st).run w = ((entry, st'), w')) :
    (s.trial generation p st w).Moves s.evaluator.metric st.standing st'.standing := by
  obtain rfl : ((s.evaluateOne sink generation p st).run w).1.2 = st' := congrArg (fun r => r.1.2) h
  exact s.conclude_moves hworst rfl

/-- If the baseline is not worse than the failures, the best patch never is. -/
theorem Traces.not_worst_lt (hw : ¬worstFitness < s.evaluator.baselineFitness w₀)
    (h : s.Traces sink st₀ w₀ generation scored pending trials st w) :
    ¬worstFitness < st.standing.fitness := by
  induction h with
  | start h hp =>
    rw [firstPopulation_standing hp, measureBaseline_standing h]
    exact hw
  | evaluate _ h ih => exact (evaluateOne_moves ih h).not_lt ih
  | breed _ hp ih =>
    rw [nextPopulation_standing hp]
    exact ih

theorem Traces.bestSoFar (hn : s.evaluator.Numeric)
    (hw : ¬worstFitness < s.evaluator.baselineFitness w₀)
    (h : s.Traces sink st₀ w₀ generation scored pending trials st w) :
    BestSoFar s.evaluator.metric (s.evaluator.baselineFitness w₀) trials st.standing := by
  induction h with
  | start h hp =>
    rw [firstPopulation_standing hp, measureBaseline_standing h]
    exact .start (Evaluator.baselineFitness_isNaN hn)
  | evaluate ht h ih =>
    exact ih.move (fun hs => Evaluator.numeric_evaluate hn hs)
      (evaluateOne_moves (ht.not_worst_lt hw) h)
  | breed _ hp ih =>
    rw [nextPopulation_standing hp]
    exact ih

end PatchSearch.GeneticSearch
