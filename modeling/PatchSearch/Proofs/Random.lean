import PatchSearch.Random

namespace PatchSearch

/-- The first of the best is the first element or one of the others. -/
theorem foldl_choice_mem {α : Type} (better : α → α → Prop) [DecidableRel better] (first : α)
    (others : List α) :
    others.foldl (fun best entry => if better entry best then entry else best) first ∈
      first :: others := by
  induction others generalizing first with
  | nil => exact List.mem_cons_self
  | cons entry others ih =>
    rw [List.foldl_cons]
    split
    next => exact List.mem_cons_of_mem _ (ih entry)
    next =>
      rcases List.mem_cons.mp (ih first) with h | h
      · rw [h]
        exact List.mem_cons_self
      · exact List.mem_cons_of_mem _ (List.mem_cons_of_mem _ h)

namespace Random

variable {α : Type}

theorem wideProduct_high_lt (r : UInt64) {n : Nat} (h : 0 < n) :
    (wideProduct r n.toUInt64).1.toNat < n := by
  have hw : n.toUInt64.toNat = n % UInt64.size := UInt64.toNat_ofNat'
  have hhigh : ∀ x : Nat, x.toUInt64.toNat ≤ x := fun x => by
    rw [show x.toUInt64.toNat = x % UInt64.size from UInt64.toNat_ofNat']
    exact Nat.mod_le _ _
  refine Nat.lt_of_le_of_lt (hhigh _) (Nat.div_lt_of_lt_mul ?_)
  have hn : n % UInt64.size ≤ n := Nat.mod_le _ _
  rw [hw]
  calc
    r.toNat * (n % UInt64.size) ≤ r.toNat * n := Nat.mul_le_mul_left _ hn
    _ < UInt64.size * n := Nat.mul_lt_mul_of_pos_right r.toNat_lt h

theorem belowFrom_lt (floor : UInt64) {n : Nat} (h : 0 < n) (left : Nat) (g : Random) :
    (belowFrom n.toUInt64 floor left g).1 < n := by
  induction left generalizing g with
  | zero => exact h
  | succ left ih =>
    unfold belowFrom
    dsimp only
    split
    next => exact ih _
    next => exact wideProduct_high_lt _ h

theorem below_lt (g : Random) {n : Nat} (h : 0 < n) : (g.below n).1 < n := by
  unfold below
  dsimp only
  split
  next =>
    split
    next => exact belowFrom_lt _ h _ _
    next => exact wideProduct_high_lt _ h
  next => exact wideProduct_high_lt _ h

/-- There is always something to choose, unless the list is empty. -/
theorem choose_eq_none_iff {g : Random} {xs : List α} : (g.choose xs).1 = none ↔ xs = [] := by
  unfold choose
  cases xs with
  | nil => simp
  | cons x xs => simpa using g.below_lt (Nat.succ_pos xs.length)

theorem mem_of_choose {g g' : Random} {xs : List α} {x : α} (h : g.choose xs = (some x, g')) :
    x ∈ xs := by
  unfold choose at h
  split at h
  next => simp at h
  next =>
    generalize g.below xs.length = r at h
    obtain ⟨i, g₁⟩ := r
    exact List.mem_of_getElem? (Prod.mk.inj h).1

/-- Something is chosen from every list that is not empty. -/
theorem exists_choose {xs : List α} (h : xs ≠ []) (g : Random) :
    ∃ x g', g.choose xs = (some x, g') ∧ x ∈ xs := by
  obtain ⟨⟨x?, g'⟩, hr⟩ : ∃ r, g.choose xs = r := ⟨_, rfl⟩
  cases x? with
  | none => exact absurd (choose_eq_none_iff.mp (congrArg Prod.fst hr)) h
  | some x => exact ⟨x, g', hr, mem_of_choose hr⟩

theorem swapPlaces_perm (xs : Array α) (i j : Nat) : (swapPlaces xs i j).toList.Perm xs.toList := by
  unfold swapPlaces
  split
  next h => exact (Array.swap_perm h.1 h.2).toList
  next => exact List.Perm.refl _

theorem foldl_shuffleStep_perm (is : List Nat) (s : Array α × Random) :
    (is.foldl shuffleStep s).1.toList.Perm s.1.toList := by
  induction is generalizing s with
  | nil => exact List.Perm.refl _
  | cons i is ih => exact (ih (shuffleStep s i)).trans (swapPlaces_perm s.1 i _)

/-- Shuffling keeps the elements of a list. -/
theorem shuffle_perm (g : Random) (xs : List α) : (g.shuffle xs).1.Perm xs :=
  foldl_shuffleStep_perm _ (xs.toArray, g)

variable {β : Type} (f : α → β)

theorem swapPlaces_map (xs : Array α) (i j : Nat) :
    swapPlaces (xs.map f) i j = (swapPlaces xs i j).map f := by
  unfold swapPlaces
  simp only [Array.size_map]
  split
  next =>
    ext k hk hk'
    · simp
    · simp only [Array.getElem_map, Array.getElem_swap, apply_ite f]
  next => rfl

theorem foldl_shuffleStep_map (is : List Nat) (s : Array α × Random) :
    is.foldl shuffleStep (s.1.map f, s.2) =
      ((is.foldl shuffleStep s).1.map f, (is.foldl shuffleStep s).2) := by
  induction is generalizing s with
  | nil => rfl
  | cons i is ih =>
    have hstep : shuffleStep (s.1.map f, s.2) i = ((shuffleStep s i).1.map f, (shuffleStep s i).2) := by
      rw [shuffleStep, swapPlaces_map]
      rfl
    rw [List.foldl_cons, hstep]
    exact ih (shuffleStep s i)

/-- How a list is shuffled does not depend on its elements. -/
theorem shuffle_map (g : Random) (xs : List α) :
    g.shuffle (xs.map f) = ((g.shuffle xs).1.map f, (g.shuffle xs).2) := by
  have hfold := foldl_shuffleStep_map f (List.range' 1 (xs.length - 1)) (xs.toArray, g)
  simp only [shuffle, List.length_map, ← List.map_toArray, hfold, Array.toList_map]

end Random

end PatchSearch
