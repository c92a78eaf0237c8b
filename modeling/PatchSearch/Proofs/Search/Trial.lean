import PatchSearch.Proofs.Double
import PatchSearch.Proofs.Evaluation.Calls
import PatchSearch.Search.Report

namespace PatchSearch

/-- What holds of every element after those before it holds so with one element more, if it does of
that one. -/
theorem forall_split_concat {α : Type} {P : List α → α → Prop} {xs : List α} {x : α}
    (h : ∀ before y after, xs = before ++ y :: after → P before y) (hx : P xs x) :
    ∀ before y after, xs ++ [x] = before ++ y :: after → P before y := by
  intro before y after he
  rcases List.append_eq_append_iff.mp he with ⟨rest, hb, hr⟩ | ⟨rest, hb, hr⟩
  · rcases List.cons_eq_append_iff.mp hr with ⟨rfl, hr⟩ | ⟨rest, rfl, hr⟩
    · obtain ⟨rfl, rfl⟩ := List.cons.inj hr
      rw [List.append_nil] at hb
      rwa [hb]
    · simp at hr
  · cases rest with
    | nil =>
      obtain ⟨rfl, rfl⟩ := List.cons.inj hr
      rw [List.append_nil] at hb
      rwa [← hb]
    | cons z rest =>
      obtain ⟨rfl, _⟩ := List.cons.inj hr
      exact h before y rest hb

/-- One evaluation of a run. -/
structure Trial (ω : Type) where
  patch : Patch
  /-- The world in which the patch was evaluated. -/
  world : ω
  verdict : Verdict
  /-- What the sink was told about it. -/
  record : StepRecord

namespace Evaluator

variable {ω : Type}

/-- The evaluation of a patch in a world. -/
def trial (e : Evaluator ω) (p : Patch) (w : ω) (record : StepRecord) : Trial ω :=
  ⟨p, w, ((e.evaluate p).run w).1, record⟩

/-- The fitness of the program before any edit, measured in a world. -/
def baselineFitness (e : Evaluator ω) (w : ω) : Float :=
  e.fitness (e.baseline.run w).1

variable {e : Evaluator ω} {w : ω}

theorem fitness_of_success {v : Verdict} (h : v.isSuccess = true) : e.fitness v = e.measure v :=
  if_pos h

theorem fitness_of_failure {v : Verdict} (h : v.isSuccess = false) : e.fitness v = worstFitness :=
  if_neg (ne_true_of_eq_false h)

theorem worstFitness_isNaN : worstFitness.isNaN = false := by
  decide +kernel

theorem baselineFitness_isNaN (he : e.Numeric) : (e.baselineFitness w).isNaN = false := by
  unfold baselineFitness baseline
  cases hs : ((e.evaluate .empty).run w).1.isSuccess with
  | false =>
    rw [fitness_of_failure hs]
    exact worstFitness_isNaN
  | true =>
    rw [fitness_of_success hs]
    exact numeric_evaluate he hs

end Evaluator

namespace Trial

variable {ω : Type}

/-- The values after some evaluations: that of the baseline, then what the successes measured. -/
def values (m : Metric) (baseline : Float) (trials : List (Trial ω)) : List Float :=
  baseline :: (trials.filter fun t => t.verdict.isSuccess).map fun t => t.verdict.measure m

/-- A success that measures less than the baseline and all successes before it. -/
def SetsMinimum (m : Metric) (baseline : Float) (before : List (Trial ω)) (t : Trial ω) : Prop :=
  t.verdict.isSuccess = true ∧ ∀ x ∈ values m baseline before, t.verdict.measure m < x

instance (m : Metric) (baseline : Float) (before : List (Trial ω)) (t : Trial ω) :
    Decidable (SetsMinimum m baseline before t) :=
  inferInstanceAs (Decidable (_ ∧ _))

/-- How many evaluations set a new minimum, after those that came before. -/
def minima (m : Metric) (baseline : Float) : (before trials : List (Trial ω)) → Nat
  | _, [] => 0
  | before, t :: ts =>
    (if SetsMinimum m baseline before t then 1 else 0) + minima m baseline (before ++ [t]) ts

variable {m : Metric} {baseline : Float} {trials : List (Trial ω)} {t : Trial ω}

theorem minima_concat (before trials : List (Trial ω)) (t : Trial ω) :
    minima m baseline before (trials ++ [t]) =
      minima m baseline before trials +
        if SetsMinimum m baseline (before ++ trials) t then 1 else 0 := by
  induction trials generalizing before with
  | nil => simp [minima]
  | cons u us ih =>
    rw [List.cons_append, minima, minima, ih, List.append_assoc, Nat.add_assoc]
    rfl

theorem values_concat_success (ht : t.verdict.isSuccess = true) :
    values m baseline (trials ++ [t]) = values m baseline trials ++ [t.verdict.measure m] := by
  simp [values, ht]

theorem values_concat_failure (ht : t.verdict.isSuccess = false) :
    values m baseline (trials ++ [t]) = values m baseline trials := by
  simp [values, ht]

end Trial

/-- The best patch of a search, its fitness and how many adoptions led to it. -/
structure Standing where
  patch : Patch
  fitness : Float
  accepted : Nat

/-- What an evaluation makes of the best patch. A success that measures less takes its place and is
counted, anything else leaves it alone, and the record tells the new count. -/
inductive Trial.Moves {ω : Type} (m : Metric) (t : Trial ω) (b : Standing) : Standing → Prop
  | adopt : t.verdict.isSuccess = true → t.verdict.measure m < b.fitness →
      t.record.accepted = b.accepted + 1 → Moves m t b ⟨t.patch, t.verdict.measure m, b.accepted + 1⟩
  | keep : ¬(t.verdict.isSuccess = true ∧ t.verdict.measure m < b.fitness) →
      t.record.accepted = b.accepted → Moves m t b b

/-- The fitness of the best patch never grows. -/
theorem Trial.Moves.not_lt {ω : Type} {m : Metric} {t : Trial ω} {b b' : Standing} {x : Float}
    (h : t.Moves m b b') (hx : ¬x < b.fitness) : ¬x < b'.fitness := by
  cases h with
  | adopt _ hlt _ => exact fun hc => hx (Double.lt_trans hc hlt)
  | keep _ _ => exact hx

open Trial

/-- What the best patch is after a baseline and some evaluations. -/
structure BestSoFar {ω : Type} (m : Metric) (baseline : Float) (trials : List (Trial ω))
    (b : Standing) : Prop where
  /-- Its fitness is the least value. -/
  mem : b.fitness ∈ values m baseline trials
  le : ∀ x ∈ values m baseline trials, b.fitness ≤ x
  /-- It is empty if nothing was less than everything before, and else the patch that had the least
  value first. -/
  first : (b.patch = .empty ∧ ∀ before t after, trials = before ++ t :: after →
      ¬SetsMinimum m baseline before t) ∨
    ∃ before t after, trials = before ++ t :: after ∧ SetsMinimum m baseline before t ∧
      t.verdict.measure m = b.fitness ∧ t.patch = b.patch
  /-- Each new minimum was an adoption. -/
  count : b.accepted = minima m baseline [] trials
  /-- Each record has the number of adoptions after its evaluation. -/
  records : ∀ before t after, trials = before ++ t :: after →
    t.record.accepted = minima m baseline [] (before ++ [t])

namespace BestSoFar

variable {ω : Type} {m : Metric} {baseline : Float} {trials : List (Trial ω)} {b b' : Standing}
  {t : Trial ω}

theorem start (h : baseline.isNaN = false) :
    BestSoFar m baseline ([] : List (Trial ω)) ⟨.empty, baseline, 0⟩ := by
  refine ⟨List.mem_singleton_self _, ?_, Or.inl ⟨rfl, ?_⟩, rfl, ?_⟩
  · intro x hx
    rw [List.mem_singleton.mp hx]
    exact Double.le_refl h
  · intro before t after he
    simp at he
  · intro before t after he
    simp at he

theorem setsMinimum_iff (h : BestSoFar m baseline trials b) :
    SetsMinimum m baseline trials t ↔
      t.verdict.isSuccess = true ∧ t.verdict.measure m < b.fitness :=
  ⟨fun ht => ⟨ht.1, ht.2 b.fitness h.mem⟩,
    fun ht => ⟨ht.1, fun x hx => Double.lt_of_lt_of_le ht.2 (h.le x hx)⟩⟩

theorem adopt (h : BestSoFar m baseline trials b) (ht : t.verdict.isSuccess = true)
    (hlt : t.verdict.measure m < b.fitness) (hr : t.record.accepted = b.accepted + 1) :
    BestSoFar m baseline (trials ++ [t]) ⟨t.patch, t.verdict.measure m, b.accepted + 1⟩ := by
  have hmin : SetsMinimum m baseline trials t := h.setsMinimum_iff.mpr ⟨ht, hlt⟩
  have hcount : b.accepted + 1 = minima m baseline [] (trials ++ [t]) := by
    rw [minima_concat, List.nil_append, if_pos hmin, h.count]
  refine ⟨?_, ?_, Or.inr ⟨trials, t, [], rfl, hmin, rfl, rfl⟩, hcount,
    forall_split_concat h.records (hr.trans hcount)⟩
  · rw [values_concat_success ht]
    exact List.mem_append_right _ (List.mem_singleton_self _)
  · rw [values_concat_success ht]
    intro x hx
    rcases List.mem_append.mp hx with hx | hx
    · exact Double.le_of_lt (hmin.2 x hx)
    · rw [List.mem_singleton.mp hx]
      exact Double.le_refl (Double.lt_iff.mp hlt).1

theorem keep (h : BestSoFar m baseline trials b)
    (hn : t.verdict.isSuccess = true → (t.verdict.measure m).isNaN = false)
    (ht : ¬(t.verdict.isSuccess = true ∧ t.verdict.measure m < b.fitness))
    (hr : t.record.accepted = b.accepted) : BestSoFar m baseline (trials ++ [t]) b := by
  have hmin : ¬SetsMinimum m baseline trials t := fun hc => ht (h.setsMinimum_iff.mp hc)
  have hcount : b.accepted = minima m baseline [] (trials ++ [t]) := by
    rw [minima_concat, List.nil_append, if_neg hmin, h.count, Nat.add_zero]
  have hvalues : ∀ x, x ∈ values m baseline (trials ++ [t]) ↔
      x ∈ values m baseline trials ∨ t.verdict.isSuccess = true ∧ x = t.verdict.measure m := by
    intro x
    cases hs : t.verdict.isSuccess with
    | false => simp [values_concat_failure hs]
    | true => simp [values_concat_success hs]
  refine ⟨(hvalues _).mpr (Or.inl h.mem), ?_, ?_, hcount,
    forall_split_concat h.records (hr.trans hcount)⟩
  · intro x hx
    rcases (hvalues x).mp hx with hx | ⟨hs, rfl⟩
    · exact h.le x hx
    · have hnumber : b.fitness.isNaN = false := (Double.le_iff.mp (h.le b.fitness h.mem)).1
      exact Double.le_of_not_lt hnumber (hn hs) fun hlt => ht ⟨hs, hlt⟩
  · rcases h.first with ⟨hb, hnone⟩ | ⟨before, u, after, rfl, hu, hf, hp⟩
    · exact Or.inl ⟨hb, forall_split_concat hnone hmin⟩
    · exact Or.inr ⟨before, u, after ++ [t], by simp, hu, hf, hp⟩

theorem move (h : BestSoFar m baseline trials b)
    (hn : t.verdict.isSuccess = true → (t.verdict.measure m).isNaN = false)
    (ht : t.Moves m b b') : BestSoFar m baseline (trials ++ [t]) b' := by
  cases ht with
  | adopt hs hlt hr => exact h.adopt hs hlt hr
  | keep hc hr => exact h.keep hn hc hr

end BestSoFar

end PatchSearch
