import PatchSearch.Proofs.Edit.Mutation
import PatchSearch.Search.KBest

namespace PatchSearch.KBestSearch

variable {ω : Type}

/-- The candidate of a step that starts in a state. -/
def candidate (s : KBestSearch ω) (st : State) : Patch :=
  (s.mutator.mutate st.incumbent s.evaluator.base st.rng).1

/-- The states and worlds between the steps of a run that starts in `st₀` and `w₀`. -/
inductive Reaches (s : KBestSearch ω) (sink : Sink ω) (st₀ : State) (w₀ : ω) :
    Nat → State → ω → Prop
  | start {st w} : (s.measureBaseline sink st₀).run w₀ = (st, w) → Reaches s sink st₀ w₀ 0 st w
  | next {n st w r st' w'} : Reaches s sink st₀ w₀ n st w → n < s.config.steps →
      (s.step sink (n + 1) st).run w = ((r, st'), w') → Reaches s sink st₀ w₀ (n + 1) st' w'

/-- The patches that a run evaluates, each several times: the empty one at first, then the candidate
of each step. -/
inductive Evaluates (s : KBestSearch ω) (sink : Sink ω) (st₀ : State) (w₀ : ω) : Patch → Prop
  | baseline : Evaluates s sink st₀ w₀ .empty
  | candidate {n st w} : s.Reaches sink st₀ w₀ n st w → n < s.config.steps →
      Evaluates s sink st₀ w₀ (s.candidate st)

variable {s : KBestSearch ω} {sink : Sink ω} {st st' st₀ : State} {w w' w₀ : ω}

theorem measureBaseline_state (h : (s.measureBaseline sink st).run w = (st', w')) :
    st'.incumbent = .empty ∧ st'.buffer = [] ∧ st'.accepted = 0 ∧
      st'.fitness = ((s.evaluator.evaluateRepeatedly .empty s.config.repeats).run w).1.mean := by
  unfold measureBaseline at h
  obtain ⟨sampled, w₁, hv, h⟩ := exists_run_of_bind h
  obtain ⟨_, w₂, _, h⟩ := exists_run_of_bind h
  rw [← (Prod.mk.inj h).1, hv]
  exact ⟨rfl, rfl, rfl, rfl⟩

/-- A step evaluates the candidate of its state and draws the conclusion. -/
theorem step_run {number : Nat} {r : StepRecord}
    (h : (s.step sink number st).run w = ((r, st'), w')) :
    ∃ sampled w₁ g, (s.evaluator.evaluateRepeatedly (s.candidate st) s.config.repeats).run w =
      (sampled, w₁) ∧ st' = (s.adopt (s.candidate st) sampled { st with rng := g }).2 := by
  unfold step at h
  split at h
  next p g hp =>
    have hc : s.candidate st = p := congrArg Prod.fst hp
    obtain ⟨sampled, w₁, hv, h⟩ := exists_run_of_bind h
    obtain ⟨_, w₂, _, h⟩ := exists_run_of_bind h
    rw [hc]
    exact ⟨sampled, w₁, g, hv, (Prod.mk.inj (Prod.mk.inj h).1).2.symm⟩

/-- The patches that a state holds: the best one and the buffered ones. -/
def State.patches (st : State) : List Patch :=
  st.incumbent :: st.buffer.map Prod.fst

theorem commit_patches (st : State) : (commit st).patches ⊆ st.patches := by
  have hbest : best (st.incumbent, st.fitness) st.buffer ∈ (st.incumbent, st.fitness) :: st.buffer :=
    foldl_choice_mem (fun entry best : Patch × Float => entry.2 < best.2) _ _
  intro p hp
  obtain rfl : p = (best (st.incumbent, st.fitness) st.buffer).1 := List.mem_singleton.mp hp
  exact List.mem_map_of_mem (f := Prod.fst) hbest

/-- After a step a state holds patches that it held before, and perhaps the candidate. -/
theorem adopt_patches (p : Patch) (sampled : Sampled) (st : State) :
    (s.adopt p sampled st).2.patches ⊆ p :: st.patches := by
  have hpush : ({ st with buffer := st.buffer ++ [(p, sampled.mean)] } : State).patches ⊆
      p :: st.patches := by
    intro q hq
    simp only [State.patches, List.map_append, List.mem_cons, List.mem_append] at hq ⊢
    rcases hq with hq | hq | hq
    · exact Or.inr (Or.inl hq)
    · exact Or.inr (Or.inr hq)
    · exact Or.inl (List.mem_singleton.mp hq)
  unfold adopt
  extract_lets outcome
  split
  next st₁ hst =>
    have hst₁ : st₁.patches ⊆ p :: st.patches := by
      split at hst
      next =>
        rw [← (Prod.mk.inj hst).2]
        exact hpush
      next =>
        rw [← (Prod.mk.inj hst).2]
        exact List.subset_cons_self p _
    dsimp only
    split
    next => exact fun q hq => hst₁ (commit_patches st₁ hq)
    next => exact hst₁

theorem steps_reaches {left n : Nat} (hr : s.Reaches sink st₀ w₀ n st w)
    (hn : n + left = s.config.steps) (h : (s.steps sink left (n + 1) st).run w = (st', w')) :
    s.Reaches sink st₀ w₀ s.config.steps st' w' := by
  induction left generalizing n st w with
  | zero =>
    obtain ⟨rfl, rfl⟩ := Prod.mk.inj h
    rwa [← hn]
  | succ left ih =>
    unfold steps at h
    obtain ⟨⟨r, st₁⟩, w₁, hs, h⟩ := exists_run_of_bind h
    exact ih (.next hr (by omega) hs) (by omega) h

/-- A run ends in a state that it reaches by all its steps. -/
theorem run_reaches {summary : Summary} (h : (s.run sink st₀).run w₀ = ((summary, st), w)) :
    s.Reaches sink st₀ w₀ s.config.steps st w ∧ summary = s.summary st := by
  unfold run at h
  obtain ⟨st₁, w₁, hb, h⟩ := exists_run_of_bind h
  obtain ⟨st₂, w₂, hs, h⟩ := exists_run_of_bind h
  cases h
  exact ⟨steps_reaches (.start hb) (Nat.zero_add _) hs, rfl⟩

variable {A : Nat → Prop}

/-- Between the steps of a run all patches that are held have their addresses in `A`. -/
theorem Reaches.within {n : Nat} (hA : s.evaluator.base.Encloses A)
    (h : s.Reaches sink st₀ w₀ n st w) : ∀ p ∈ st.patches, p.Within A := by
  induction h with
  | start h =>
    obtain ⟨hi, hb, _, _⟩ := measureBaseline_state h
    intro p hp
    obtain rfl : p = .empty := by simpa [State.patches, hi, hb] using hp
    exact Patch.within_empty
  | next _ _ h ih =>
    obtain ⟨sampled, w₁, g, _, rfl⟩ := step_run h
    intro p hp
    rcases List.mem_cons.mp (adopt_patches _ _ _ hp) with rfl | hp
    · exact s.mutator.within_mutate hA (ih _ List.mem_cons_self) _
    · exact ih p hp

/-- Every patch that a k-best search evaluates has its addresses in `A`. -/
theorem Evaluates.within {p : Patch} (hA : s.evaluator.base.Encloses A)
    (h : s.Evaluates sink st₀ w₀ p) : p.Within A := by
  cases h with
  | baseline => exact Patch.within_empty
  | candidate hr _ => exact s.mutator.within_mutate hA (hr.within hA _ List.mem_cons_self) _

end PatchSearch.KBestSearch
