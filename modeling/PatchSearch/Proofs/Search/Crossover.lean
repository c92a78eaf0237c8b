import Mathlib.Data.List.FinRange
import PatchSearch.Proofs.Search.Budget

namespace PatchSearch.GeneticSearch

/-- The offspring of pairs of positions: for each pair the two parents there, unchanged, a child of the
first with the second, and one of the second with the first. -/
inductive Families (parents : List Patch) :
    List (Fin parents.length × Fin parents.length) → List Patch → Prop
  | nil : Families parents [] []
  | cons {i j pairs offspring left right} : Inherits left parents[i] parents[j] →
      Inherits right parents[j] parents[i] → Families parents pairs offspring →
      Families parents ((i, j) :: pairs) (parents[i] :: parents[j] :: left :: right :: offspring)

theorem families_breedAll (parents : List Patch) (pairs : List (Fin parents.length × Fin parents.length))
    (g : Random) :
    Families parents pairs (breedAll (pairs.map (Prod.map parents.get parents.get)) g).1 := by
  induction pairs generalizing g with
  | nil => exact .nil
  | cons pair pairs ih =>
    obtain ⟨i, j⟩ := pair
    obtain ⟨left, right, hfamily, hleft, hright⟩ := breed_inherits parents[i] parents[j] g
    have hall : (breedAll (((i, j) :: pairs).map (Prod.map parents.get parents.get)) g).1 =
        (breed parents[i] parents[j] g).1 ++ (breedAll (pairs.map (Prod.map parents.get parents.get))
          (breed parents[i] parents[j] g).2).1 := rfl
    rw [hall, hfamily]
    exact .cons hleft hright (ih _)

/-- The pairs of the first half of a list with the second half. -/
def halves {α : Type} (xs : List α) : List (α × α) :=
  (xs.take (xs.length / 2)).zip ((xs.drop (xs.length / 2)).take (xs.length / 2))

theorem halves_map {α β : Type} (f : α → β) (xs : List α) :
    halves (xs.map f) = (halves xs).map (Prod.map f f) := by
  simp only [halves, List.length_map, ← List.map_take, ← List.map_drop, List.zip_map]

theorem flatMap_zip_perm {α : Type} {as bs : List α} (h : as.length = bs.length) :
    ((as.zip bs).flatMap fun pair => [pair.1, pair.2]).Perm (as ++ bs) := by
  induction as generalizing bs with
  | nil =>
    obtain rfl := List.length_eq_zero_iff.mp h.symm
    exact List.Perm.refl _
  | cons a as ih =>
    cases bs with
    | nil => cases h
    | cons b bs =>
      have hrest := ih (Nat.succ.inj h)
      exact (((hrest.cons b).trans List.perm_middle.symm).cons a)

/-- The pairs have all elements but the last one of an odd number. -/
theorem halves_perm {α : Type} (xs : List α) : (((halves xs).flatMap fun pair => [pair.1, pair.2]) ++
    (xs.drop (xs.length / 2)).drop (xs.length / 2)).Perm xs := by
  have hlengths : (xs.take (xs.length / 2)).length =
      ((xs.drop (xs.length / 2)).take (xs.length / 2)).length := by
    simp only [List.length_take, List.length_drop]
    omega
  refine ((flatMap_zip_perm hlengths).append_right _).trans (List.Perm.of_eq ?_)
  rw [List.append_assoc, List.take_append_drop, List.take_append_drop]

/-- Crossover of `n` parents makes `n / 2` families of four. Their parents stand at different positions
of the list, and at all positions but one if `n` is odd. -/
theorem crossover_families (parents : List Patch) (st : State) :
    (crossover parents st).1.length = 4 * (parents.length / 2) ∧
      ∃ pairs unused, Families parents pairs (crossover parents st).1 ∧
        ((pairs.flatMap fun pair => [pair.1, pair.2]) ++ unused).Perm
          (List.finRange parents.length) ∧ unused.length = parents.length % 2 := by
  refine ⟨length_crossover parents st, ?_⟩
  let order := (st.rng.shuffle (List.finRange parents.length)).1
  have horder : order.Perm (List.finRange parents.length) := st.rng.shuffle_perm _
  have hlength : order.length = parents.length := by rw [horder.length_eq, List.length_finRange]
  have hshuffle : (st.rng.shuffle parents).1 = order.map parents.get := by
    have h := st.rng.shuffle_map parents.get (List.finRange parents.length)
    rw [List.map_get_finRange] at h
    exact congrArg Prod.fst h
  have hcouples : couples (st.rng.shuffle parents).1 =
      (halves order).map (Prod.map parents.get parents.get) := by
    rw [hshuffle]
    exact halves_map parents.get order
  refine ⟨halves order, (order.drop (order.length / 2)).drop (order.length / 2), ?_,
    (halves_perm order).trans horder, ?_⟩
  · have hfamilies := families_breedAll parents (halves order) (st.rng.shuffle parents).2
    rwa [← hcouples] at hfamilies
  · rw [List.length_drop, List.length_drop, hlength]
    omega

end PatchSearch.GeneticSearch
