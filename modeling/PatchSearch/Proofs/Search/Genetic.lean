import PatchSearch.Proofs.Edit.Mutation
import PatchSearch.Search.Genetic

namespace PatchSearch.GeneticSearch

variable {ω : Type}

/-- The populations, states and worlds between the generations of a run that starts in `st₀` and
`w₀`, once its settings are found to be within their limits. -/
inductive Reaches (s : GeneticSearch ω) (sink : Sink ω) (st₀ : State) (w₀ : ω) :
    Nat → List Patch → State → ω → Prop
  | start {population st st' w} : (s.measureBaseline sink st₀).run w₀ = (st, w) →
      s.firstPopulation st = (population, st') → Reaches s sink st₀ w₀ 0 population st' w
  | next {n population st w scored st₁ w' population' st'} :
      Reaches s sink st₀ w₀ n population st w → n < s.config.generations →
      (s.evaluateAll sink (n + 1) population st).run w = ((scored, st₁), w') →
      s.nextPopulation scored st₁ = (population', st') →
      Reaches s sink st₀ w₀ (n + 1) population' st' w'

/-- The patches that a run evaluates: the empty one at first, then the population of each
generation. -/
inductive Evaluates (s : GeneticSearch ω) (sink : Sink ω) (st₀ : State) (w₀ : ω) : Patch → Prop
  | baseline : Evaluates s sink st₀ w₀ .empty
  | member {n population st w p} : s.Reaches sink st₀ w₀ n population st w →
      n < s.config.generations → p ∈ population → Evaluates s sink st₀ w₀ p

variable {s : GeneticSearch ω} {sink : Sink ω} {st st' st₀ : State} {w w' w₀ : ω}

variable {A : Nat → Prop}

section Selection

theorem mem_of_fittest? {pool : List Scored} {winner : Scored} (h : fittest? pool = some winner) :
    winner ∈ pool := by
  cases pool with
  | nil => simp [fittest?] at h
  | cons first others =>
    rw [← Option.some.inj h]
    exact foldl_choice_mem (fun entry best : Scored => orderKey entry.2 < orderKey best.2) _ _

/-- The winners of tournaments are patches of the pool, or empty. -/
theorem tournaments_within (size : Nat) {n : Nat} {pool : List Scored} {g : Random}
    (h : ∀ entry ∈ pool, entry.1.Within A) : ∀ p ∈ (tournaments size n pool g).1, p.Within A := by
  induction n generalizing pool g with
  | zero => exact fun p hp => absurd hp List.not_mem_nil
  | succ n ih =>
    have hpool : ∀ entry ∈ (g.shuffle pool).1, entry.1.Within A :=
      fun entry he => h entry ((g.shuffle_perm pool).subset he)
    have hwinner : (((fittest? ((g.shuffle pool).1.take size)).map Prod.fst).getD
        Patch.empty).Within A := by
      cases hf : fittest? ((g.shuffle pool).1.take size) with
      | none => exact Patch.within_empty
      | some entry => exact hpool entry (List.mem_of_mem_take (mem_of_fittest? hf))
    intro p hp
    rcases List.mem_cons.mp hp with rfl | hp
    · exact hwinner
    · exact ih hpool p hp

theorem select_within {scored : List Scored} (h : ∀ entry ∈ scored, entry.1.Within A) :
    ∀ p ∈ (s.select scored st).1, p.Within A := by
  have hpool : ∀ entry ∈ s.pool st scored, entry.1.Within A := by
    intro entry he
    rcases List.mem_append.mp he with he | he
    · exact h entry he
    · rw [List.eq_of_mem_replicate he]
      exact Patch.within_empty
  exact tournaments_within _ hpool

end Selection

section Breeding

theorem toss_sublist (heads : Bool) (e : Edit) {rest es : List Edit} (h : rest.Sublist es) :
    (if heads then e :: rest else rest).Sublist (e :: es) := by
  split
  next => exact h.cons_cons e
  next => exact h.cons e

theorem inherit_sublist (es : List Edit) (g : Random) : (inherit es g).1.Sublist es := by
  induction es generalizing g with
  | nil => exact List.Sublist.refl _
  | cons e es ih => exact toss_sublist _ e (ih _)

theorem inheritTwice_sublist (es : List Edit) (g : Random) :
    (inheritTwice es g).1.1.Sublist es ∧ (inheritTwice es g).1.2.Sublist es := by
  induction es generalizing g with
  | nil => exact ⟨List.Sublist.refl _, List.Sublist.refl _⟩
  | cons e es ih => exact ⟨toss_sublist _ e (ih _).1, toss_sublist _ e (ih _).2⟩

/-- The child has a part of the edits of the first parent and then a part of those of the second, both in
the order of the parent. -/
def Inherits (child first second : Patch) : Prop :=
  ∃ head tail, child.edits = head ++ tail ∧ head.Sublist first.edits ∧ tail.Sublist second.edits

theorem Inherits.within {child first second : Patch} (h : Inherits child first second)
    (hf : first.Within A) (hs : second.Within A) : child.Within A := by
  obtain ⟨head, tail, hchild, hhead, htail⟩ := h
  intro e he
  rw [hchild] at he
  rcases List.mem_append.mp he with he | he
  · exact hf e (hhead.subset he)
  · exact hs e (htail.subset he)

/-- A family has the parents as they are and two children, one with the edits of the first parent in
front and one with those of the second. -/
theorem breed_inherits (first second : Patch) (g : Random) : ∃ left right,
    (breed first second g).1 = [first, second, left, right] ∧ Inherits left first second ∧
      Inherits right second first := by
  obtain ⟨hleft, hright⟩ := inheritTwice_sublist second.edits (inherit first.edits g).2
  exact ⟨_, _, rfl, ⟨_, _, rfl, inherit_sublist _ _, hleft⟩, ⟨_, _, rfl, hright, inherit_sublist _ _⟩⟩

/-- A family has the addresses of its parents. -/
theorem breed_within {first second : Patch} (hf : first.Within A) (hs : second.Within A)
    (g : Random) : ∀ p ∈ (breed first second g).1, p.Within A := by
  obtain ⟨left, right, hfamily, hleft, hright⟩ := breed_inherits first second g
  simp only [hfamily, List.forall_mem_cons]
  exact ⟨hf, hs, hleft.within hf hs, hright.within hs hf, fun p hp => absurd hp List.not_mem_nil⟩

theorem breedAll_within {couples : List (Patch × Patch)}
    (h : ∀ c ∈ couples, c.1.Within A ∧ c.2.Within A) (g : Random) :
    ∀ p ∈ (breedAll couples g).1, p.Within A := by
  induction couples generalizing g with
  | nil => exact fun p hp => absurd hp List.not_mem_nil
  | cons c cs ih =>
    intro p hp
    rcases List.mem_append.mp hp with hp | hp
    · have hc := h c List.mem_cons_self
      exact breed_within hc.1 hc.2 g p hp
    · exact ih (fun c' hc' => h c' (List.mem_cons_of_mem c hc')) _ p hp

theorem crossover_within {parents : List Patch} (h : ∀ p ∈ parents, p.Within A) :
    ∀ p ∈ (crossover parents st).1, p.Within A := by
  have hshuffled : ∀ p ∈ (st.rng.shuffle parents).1, p.Within A :=
    fun p hp => h p ((st.rng.shuffle_perm parents).subset hp)
  refine breedAll_within (fun c hc => ?_) _
  have hmem := List.of_mem_zip hc
  exact ⟨hshuffled _ (List.mem_of_mem_take hmem.1),
    hshuffled _ (List.mem_of_mem_drop (List.mem_of_mem_take hmem.2))⟩

end Breeding

theorem mutateAll_within {m : Mutator} {base : SourceTree} (hA : base.Encloses A) {ps : List Patch}
    (h : ∀ p ∈ ps, p.Within A) (g : Random) : ∀ p ∈ (mutateAll m base ps g).1, p.Within A := by
  induction ps generalizing g with
  | nil => exact fun p hp => absurd hp List.not_mem_nil
  | cons p ps ih =>
    intro q hq
    rcases List.mem_cons.mp hq with rfl | hq
    · exact m.within_mutate hA (h p List.mem_cons_self) g
    · exact ih (fun p' hp' => h p' (List.mem_cons_of_mem p hp')) _ q hq

theorem firstPopulation_within (hA : s.evaluator.base.Encloses A) :
    ∀ p ∈ (s.firstPopulation st).1, p.Within A :=
  s.mutator.within_mutants hA Patch.within_empty _ _

/-- The next population has its addresses in `A` if the scored one has. -/
theorem nextPopulation_within (hA : s.evaluator.base.Encloses A) {scored : List Scored}
    (h : ∀ entry ∈ scored, entry.1.Within A) :
    ∀ p ∈ (s.nextPopulation scored st).1, p.Within A := by
  intro p hp
  rcases List.mem_append.mp hp with hp | hp
  · exact mutateAll_within hA (crossover_within (select_within h)) _ p hp
  · exact s.mutator.within_mutants hA Patch.within_empty _ _ p hp

/-- The scored patches of a generation are its population. -/
theorem evaluateAll_patches {population : List Patch} {generation : Nat} {scored : List Scored}
    (h : (s.evaluateAll sink generation population st).run w = ((scored, st'), w')) :
    scored.map Prod.fst = population := by
  induction population generalizing st w scored with
  | nil =>
    cases h
    rfl
  | cons p ps ih =>
    unfold evaluateAll at h
    obtain ⟨⟨entry, st₁⟩, w₁, ho, h⟩ := exists_run_of_bind h
    obtain ⟨⟨rest, st₂⟩, w₂, ha, h⟩ := exists_run_of_bind h
    cases h
    unfold evaluateOne at ho
    obtain ⟨v, w₃, _, ho⟩ := exists_run_of_bind ho
    obtain ⟨_, w₄, _, ho⟩ := exists_run_of_bind ho
    rw [List.map_cons, ih ha, ← (Prod.mk.inj (Prod.mk.inj ho).1).1]

/-- Between the generations of a run all patches of the population have their addresses in `A`. -/
theorem Reaches.within {n : Nat} {population : List Patch} (hA : s.evaluator.base.Encloses A)
    (h : s.Reaches sink st₀ w₀ n population st w) : ∀ p ∈ population, p.Within A := by
  induction h with
  | @start population st st' _ _ h =>
    rw [← show (s.firstPopulation st).1 = population from congrArg Prod.fst h]
    exact firstPopulation_within hA
  | @next _ _ _ _ scored st₁ _ population' _ _ _ hs h ih =>
    rw [← show (s.nextPopulation scored st₁).1 = population' from congrArg Prod.fst h]
    rw [← evaluateAll_patches hs] at ih
    exact nextPopulation_within hA (List.forall_mem_map.mp ih)

/-- Every patch that a genetic search evaluates has its addresses in `A`. -/
theorem Evaluates.within {p : Patch} (hA : s.evaluator.base.Encloses A)
    (h : s.Evaluates sink st₀ w₀ p) : p.Within A := by
  cases h with
  | baseline => exact Patch.within_empty
  | member hr _ hp => exact hr.within hA p hp

end PatchSearch.GeneticSearch
