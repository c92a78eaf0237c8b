import PatchSearch.Proofs.Search.Local
import PatchSearch.Proofs.Search.Trial

namespace PatchSearch.LocalSearch

variable {ω : Type}

/-- The evaluation of a step that starts in a state and a world and ends with a record. -/
def trial (s : LocalSearch ω) (st : State) (w : ω) (r : StepRecord) : Trial ω :=
  s.evaluator.trial (s.candidate st w) ((s.neighbour st).run w).2 r

/-- The evaluations of a run after the baseline, with the state and the world after the last one. The
steps may have any numbers. -/
inductive Traces (s : LocalSearch ω) (sink : Sink ω) (st₀ : State) (w₀ : ω) :
    List (Trial ω) → State → ω → Prop
  | start {st w} : (s.measureBaseline sink st₀).run w₀ = (st, w) → Traces s sink st₀ w₀ [] st w
  | next {trials st w number r st' w'} : Traces s sink st₀ w₀ trials st w →
      (s.step sink number st).run w = ((r, st'), w') →
      Traces s sink st₀ w₀ (trials ++ [s.trial st w r]) st' w'

variable {s : LocalSearch ω} {sink : Sink ω} {st st' st₀ : State} {w w' w₀ : ω}
  {trials : List (Trial ω)}

theorem Traces.step (h : s.Traces sink st₀ w₀ trials st w) (number : Nat) :
    s.Traces sink st₀ w₀ (trials ++ [s.trial st w ((s.step sink number st).run w).1.1])
      ((s.step sink number st).run w).1.2 ((s.step sink number st).run w).2 :=
  .next h rfl

theorem Reaches.traces {n : Nat} (h : s.Reaches sink st₀ w₀ n st w) :
    ∃ trials, s.Traces sink st₀ w₀ trials st w ∧ trials.length = n := by
  induction h with
  | start h => exact ⟨[], .start h, rfl⟩
  | next _ _ h ih =>
    obtain ⟨trials, ht, hn⟩ := ih
    refine ⟨_, .next ht h, ?_⟩
    rw [List.length_append, hn]
    rfl

/-- The best patch of a state. -/
def State.standing (st : State) : Standing :=
  ⟨st.incumbent, st.fitness, st.accepted⟩

theorem measureBaseline_standing (h : (s.measureBaseline sink st).run w = (st', w')) :
    st'.standing = ⟨.empty, s.evaluator.baselineFitness w, 0⟩ := by
  unfold measureBaseline at h
  obtain ⟨v, w₁, hv, h⟩ := exists_run_of_bind h
  obtain ⟨_, w₂, _, h⟩ := exists_run_of_bind h
  have hverdict : (s.evaluator.baseline.run w).1 = v := congrArg Prod.fst hv
  rw [← (Prod.mk.inj h).1, Evaluator.baselineFitness, hverdict]
  rfl

theorem conclude_moves {t : Trial ω} {description : String}
    (hr : t.record.accepted = (s.conclude t.patch description t.verdict st).accepted) :
    t.Moves s.evaluator.metric st.standing
      (s.conclude t.patch description t.verdict st).standing := by
  by_cases hc : t.verdict.isSuccess = true ∧ s.evaluator.measure t.verdict < st.fitness
  · have hst : (s.conclude t.patch description t.verdict st).standing =
        ⟨t.patch, s.evaluator.measure t.verdict, st.accepted + 1⟩ := by
      unfold conclude adopt
      rw [of_decide_eq_true hc.1]
      dsimp only
      rw [if_pos hc.2]
      rfl
    rw [hst]
    exact .adopt hc.1 hc.2 (hr.trans (congrArg Standing.accepted hst))
  · have hst : (s.conclude t.patch description t.verdict st).standing = st.standing := by
      unfold conclude adopt
      cases ho : t.verdict.outcome with
      | invalidPatch => rfl
      | compileError => rfl
      | testFailure => rfl
      | success =>
        dsimp only
        rw [if_neg fun hlt => hc ⟨decide_eq_true ho, hlt⟩]
        rfl
    rw [hst]
    exact .keep hc (hr.trans (congrArg Standing.accepted hst))

/-- The record of a step has the outcome of its evaluation, which moves the best patch. -/
theorem step_moves {number : Nat} {r : StepRecord}
    (h : (s.step sink number st).run w = ((r, st'), w')) :
    r.outcome = (s.trial st w r).verdict.outcome ∧
      (s.trial st w r).Moves s.evaluator.metric st.standing st'.standing := by
  obtain ⟨description, g, w₁, v, w₂, hp, hv, rfl, haccepted, houtcome⟩ := step_run h
  have hworld : ((s.neighbour st).run w).2 = w₁ := congrArg Prod.snd hp
  obtain rfl : (s.trial st w r).verdict = v := by
    rw [trial, Evaluator.trial, hworld, hv]
  have hmoves := conclude_moves (t := s.trial st w r) haccepted
  exact ⟨houtcome, hmoves⟩

theorem Traces.bestSoFar (hn : s.evaluator.Numeric) (h : s.Traces sink st₀ w₀ trials st w) :
    BestSoFar s.evaluator.metric (s.evaluator.baselineFitness w₀) trials st.standing := by
  induction h with
  | start h =>
    rw [measureBaseline_standing h]
    exact .start (Evaluator.baselineFitness_isNaN hn)
  | next _ h ih => exact ih.move (fun hs => Evaluator.numeric_evaluate hn hs) (step_moves h).2

end PatchSearch.LocalSearch
