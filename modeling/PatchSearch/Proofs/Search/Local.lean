import PatchSearch.Proofs.Edit.Mutation
import PatchSearch.Proofs.Generation.Generator
import PatchSearch.Search.Local

namespace PatchSearch.LocalSearch

variable {ω : Type}

/-- The state after a verdict on a candidate. -/
def conclude (s : LocalSearch ω) (p : Patch) (description : String) (v : Verdict) (st : State) :
    State :=
  let st := (s.adopt p v st).2
  if v.outcome = .invalidPatch then st
  else { st with feedback := st.feedback.push description (s.evaluator.measure v) }

/-- The candidate of a step that starts in a state and a world. -/
def candidate (s : LocalSearch ω) (st : State) (w : ω) : Patch :=
  ((s.neighbour st).run w).1.1

/-- The states and worlds between the steps of a run that starts in `st₀` and `w₀`. -/
inductive Reaches (s : LocalSearch ω) (sink : Sink ω) (st₀ : State) (w₀ : ω) :
    Nat → State → ω → Prop
  | start {st w} : (s.measureBaseline sink st₀).run w₀ = (st, w) → Reaches s sink st₀ w₀ 0 st w
  | next {n st w r st' w'} : Reaches s sink st₀ w₀ n st w → n < s.config.steps →
      (s.step sink (n + 1) st).run w = ((r, st'), w') → Reaches s sink st₀ w₀ (n + 1) st' w'

/-- The patches that a run evaluates: the empty one at first, then the candidate of each step. -/
inductive Evaluates (s : LocalSearch ω) (sink : Sink ω) (st₀ : State) (w₀ : ω) : Patch → Prop
  | baseline : Evaluates s sink st₀ w₀ .empty
  | candidate {n st w} : s.Reaches sink st₀ w₀ n st w → n < s.config.steps →
      Evaluates s sink st₀ w₀ (s.candidate st w)

variable {s : LocalSearch ω} {sink : Sink ω} {st st' st₀ : State} {w w' w₀ : ω}

theorem measureBaseline_incumbent (h : (s.measureBaseline sink st).run w = (st', w')) :
    st'.incumbent = .empty := by
  unfold measureBaseline at h
  obtain ⟨v, w₁, _, h⟩ := exists_run_of_bind h
  obtain ⟨_, w₂, _, h⟩ := exists_run_of_bind h
  rw [← (Prod.mk.inj h).1]

/-- A step looks for a candidate, evaluates it and draws the conclusion. -/
theorem step_run {number : Nat} {r : StepRecord}
    (h : (s.step sink number st).run w = ((r, st'), w')) :
    ∃ description g w₁ v w₂, (s.neighbour st).run w = ((s.candidate st w, description, g), w₁) ∧
      (s.evaluator.evaluate (s.candidate st w)).run w₁ = (v, w₂) ∧
      st' = s.conclude (s.candidate st w) description v { st with rng := g } ∧
      r.accepted = st'.accepted ∧ r.outcome = v.outcome := by
  unfold step at h
  obtain ⟨⟨p, description, g⟩, w₁, hp, h⟩ := exists_run_of_bind h
  obtain rfl : s.candidate st w = p := congrArg (fun r => r.1.1) hp
  obtain ⟨v, w₂, hv, h⟩ := exists_run_of_bind h
  obtain ⟨_, w₃, _, h⟩ := exists_run_of_bind h
  obtain ⟨hr, hst⟩ := Prod.mk.inj (Prod.mk.inj h).1
  have hstate : s.conclude (s.candidate st w) description v { st with rng := g } = st' := hst
  refine ⟨description, g, w₁, v, w₂, hp, hv, hstate.symm, ?_, ?_⟩
  · rw [← hstate, ← hr]
    rfl
  · rw [← hr]

theorem adopt_incumbent (p : Patch) (v : Verdict) (st : State) :
    (s.adopt p v st).2.incumbent = st.incumbent ∨ (s.adopt p v st).2.incumbent = p := by
  unfold adopt
  split
  next => exact Or.inl rfl
  next => exact Or.inl rfl
  next => exact Or.inl rfl
  next =>
    dsimp only
    split
    next => exact Or.inr rfl
    next => exact Or.inl rfl

/-- The best patch after a step is the one before it or the candidate. -/
theorem conclude_incumbent (p : Patch) (description : String) (v : Verdict) (st : State) :
    (s.conclude p description v st).incumbent = st.incumbent ∨
      (s.conclude p description v st).incumbent = p := by
  have hadopt := s.adopt_incumbent p v st
  unfold conclude
  split
  next => exact hadopt
  next => exact hadopt

theorem steps_reaches {left n : Nat} (hr : s.Reaches sink st₀ w₀ n st w)
    (hn : n + left = s.config.steps) (h : (s.steps sink left (n + 1) st).run w = (st', w')) :
    s.Reaches sink st₀ w₀ s.config.steps st' w' := by
  induction left generalizing n st w with
  | zero =>
    obtain ⟨rfl, rfl⟩ := Prod.mk.inj h
    rwa [← hn]
  | succ left ih =>
    unfold steps at h
    obtain ⟨⟨r, st₁⟩, w₁, hs, h⟩ := exists_run_of_bind h
    exact ih (.next hr (by omega) hs) (by omega) h

/-- A run ends in a state that it reaches by all its steps. -/
theorem run_reaches {summary : Summary} (h : (s.run sink st₀).run w₀ = ((summary, st), w)) :
    s.Reaches sink st₀ w₀ s.config.steps st w ∧ summary = s.summary st := by
  unfold run at h
  obtain ⟨st₁, w₁, hb, h⟩ := exists_run_of_bind h
  obtain ⟨st₂, w₂, hs, h⟩ := exists_run_of_bind h
  cases h
  exact ⟨steps_reaches (.start hb) (Nat.zero_add _) hs, rfl⟩

/-- The candidate of a step is the best patch without one of its edits, the best patch itself, or the
best patch with an edit more that was generated for the program that it makes. -/
theorem candidate_cases (s : LocalSearch ω) (st : State) (w : ω) :
    (∃ i, s.candidate st w = st.incumbent.eraseAt i) ∨ s.candidate st w = st.incumbent ∨
      ∃ e rng rng' template known w', s.candidate st w = st.incumbent.add (.generated e) ∧
        (s.generator.generate (Mutator.current st.incumbent s.evaluator.base) rng template known).run
          w = ((some e, rng'), w') := by
  obtain ⟨⟨⟨p, description, g⟩, w'⟩, h⟩ : ∃ r, (s.neighbour st).run w = r := ⟨_, rfl⟩
  obtain rfl : s.candidate st w = p := congrArg (fun r => r.1.1) h
  unfold neighbour at h
  split at h
  next template known _ =>
    extract_lets best at h
    split at h
    next simplify rng _ =>
      split at h
      next =>
        split at h
        next i g₁ _ => exact Or.inl ⟨i, (Prod.mk.inj (Prod.mk.inj h).1).1.symm⟩
      next =>
        obtain ⟨⟨edit?, rng'⟩, w₁, hg, h⟩ := exists_run_of_bind h
        cases edit? with
        | none => exact Or.inr (Or.inl (Prod.mk.inj (Prod.mk.inj h).1).1.symm)
        | some e =>
          exact Or.inr (Or.inr ⟨e, rng, rng', template, known, w₁,
            (Prod.mk.inj (Prod.mk.inj h).1).1.symm, hg⟩)

variable {A : Nat → Prop}

theorem within_candidate (hA : s.evaluator.base.Encloses A) (hst : st.incumbent.Within A) :
    (s.candidate st w).Within A := by
  rcases s.candidate_cases st w with ⟨i, hp⟩ | hp | ⟨e, rng, rng', template, known, w', hp, hg⟩
  · rw [hp]
    exact hst.eraseAt i
  · rw [hp]
    exact hst
  · rw [hp]
    refine hst.add fun id hid => ?_
    obtain rfl : id = e.destination := List.mem_singleton.mp hid
    exact hA st.incumbent hst _ (Generator.generate_spec hg).1

/-- Between the steps of a run the best patch has its addresses in `A`. -/
theorem Reaches.within {n : Nat} (hA : s.evaluator.base.Encloses A)
    (h : s.Reaches sink st₀ w₀ n st w) : st.incumbent.Within A := by
  induction h with
  | start h =>
    rw [measureBaseline_incumbent h]
    exact Patch.within_empty
  | next _ _ h ih =>
    obtain ⟨description, g, w₁, v, w₂, _, _, rfl, _, _⟩ := step_run h
    rcases s.conclude_incumbent _ description v _ with hi | hi
    · rw [hi]
      exact ih
    · rw [hi]
      exact within_candidate hA ih

/-- Every patch that a local search evaluates has its addresses in `A`. -/
theorem Evaluates.within {p : Patch} (hA : s.evaluator.base.Encloses A)
    (h : s.Evaluates sink st₀ w₀ p) : p.Within A := by
  cases h with
  | baseline => exact Patch.within_empty
  | candidate hr _ => exact within_candidate hA (hr.within hA)

end PatchSearch.LocalSearch
