import PatchSearch.Proofs.Search.Honesty

namespace PatchSearch

variable {ω : Type} {sink : Sink ω} {w₀ w : ω} {m : Summary}

theorem LocalSearch.bestSource_of_unadopted {s : LocalSearch ω} {st₀ st : State}
    (h : (s.run sink st₀).run w₀ = ((m, st), w)) (ha : m.accepted = 0) :
    m.bestSource = some s.evaluator.base.render := by
  obtain ⟨hr, rfl⟩ := run_reaches h
  obtain ⟨trials, ht, _⟩ := hr.traces
  obtain ⟨u, hu, hh⟩ := ht.honest
  cases hh with
  | baseline _ hp _ _ =>
    have hp : st.incumbent = .empty := hp
    apply Summary.bestSource_of_ok
    rw [hp]
    exact Patch.apply_empty _
  | adopted t hpos => exact absurd ha (Nat.ne_of_gt hpos)

theorem KBestSearch.bestSource_of_unadopted {s : KBestSearch ω} {st₀ st : State}
    (h : (s.run sink st₀).run w₀ = ((m, st), w)) (ha : m.accepted = 0) :
    m.bestSource = some s.evaluator.base.render := by
  obtain ⟨hr, rfl⟩ := run_reaches h
  obtain ⟨rounds, ht, _⟩ := hr.traces
  obtain ⟨u, hu, hh⟩ := ht.honest.best
  cases hh with
  | baseline sampled _ hp _ _ _ _ =>
    have hp : st.incumbent = .empty := hp
    apply Summary.bestSource_of_ok
    rw [hp]
    exact Patch.apply_empty _
  | adopted r hpos => exact absurd ha (Nat.ne_of_gt hpos)

namespace GeneticSearch

variable {s : GeneticSearch ω} {st₀ st : State} {generation : Nat} {scored : List Scored}
  {pending : List Patch} {trials : List (Trial ω)}

/-- An evaluation counts one more adoption, or leaves the best patch as it is. -/
theorem conclude_standing (s : GeneticSearch ω) (p : Patch) (v : Verdict) (st : State) :
    (s.conclude p v st).standing.accepted = st.accepted + 1 ∨
      (s.conclude p v st).standing = st.standing := by
  unfold conclude
  dsimp only
  split
  next => exact .inl rfl
  next => exact .inr rfl

/-- Failures may be adopted where the baseline is worse than they are, so this holds of any baseline. -/
theorem Traces.empty_of_unadopted
    (h : s.Traces sink st₀ w₀ generation scored pending trials st w) :
    st.standing.accepted = 0 → st.standing.patch = .empty := by
  induction h with
  | start h hp =>
    rw [firstPopulation_standing hp, measureBaseline_standing h]
    exact fun _ => rfl
  | @evaluate generation scored p pending trials st w entry st' w' ht h ih =>
    obtain rfl : ((s.evaluateOne sink generation p st).run w).1.2 = st' :=
      congrArg (fun r => r.1.2) h
    rw [evaluateOne_state]
    rcases s.conclude_standing p (s.trial generation p st w).verdict st with hone | hsame
    · rw [hone]
      exact fun h => absurd h (Nat.succ_ne_zero _)
    · rw [hsame]
      exact ih
  | breed _ hp ih =>
    rw [nextPopulation_standing hp]
    exact ih

theorem bestSource_of_unadopted (h : (s.run sink st₀).run w₀ = ((.ok m, st), w))
    (ha : m.accepted = 0) : m.bestSource = some s.evaluator.base.render := by
  obtain ⟨⟨generation, population, trials, ht⟩, rfl⟩ := run_traces h
  have hp : st.best = .empty := ht.empty_of_unadopted ha
  apply Summary.bestSource_of_ok
  rw [hp]
  exact Patch.apply_empty _

end GeneticSearch

end PatchSearch
