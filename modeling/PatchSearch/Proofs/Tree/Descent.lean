import PatchSearch.Proofs.Tree.Splice

namespace PatchSearch.Node

/-- Nodes with others in the place of the first one that has the address, if one has it. -/
def spliceFirst? (target : Nat) (new : Node → List Node) : List Node → Option (List Node)
  | [] => none
  | n :: ns =>
    if n.id = target then some (new n ++ ns) else (spliceFirst? target new ns).map (n :: ·)

mutual

/-- The node with others in the place of the first child with the address, or else with one found below
the first child that has it below. -/
def descend? (target : Nat) (new : Node → List Node) : Node → Option Node
  | .simple _ _ _ => none
  | .block id role header children =>
    ((spliceFirst? target new children).or (descendFirst? target new children)).map fun changed =>
      .block id role header changed

def descendFirst? (target : Nat) (new : Node → List Node) : List Node → Option (List Node)
  | [] => none
  | n :: ns =>
    ((n.descend? target new).map (· :: ns)).or ((descendFirst? target new ns).map (n :: ·))

end

variable {target : Nat} {new : Node → List Node}

theorem nodup_cons {n : Node} {ns : List Node} (h : (idsAll (n :: ns)).Nodup) :
    n.ids.Nodup ∧ (idsAll ns).Nodup ∧ ∀ id ∈ n.ids, id ∉ idsAll ns := by
  rw [idsAll_cons] at h
  obtain ⟨hn, hns, hdisjoint⟩ := List.nodup_append.mp h
  exact ⟨hn, hns, fun id hid hm => hdisjoint id hid id hm rfl⟩

theorem id_mem_ids (n : Node) : n.id ∈ n.ids := by
  rw [ids_eq]
  exact List.mem_cons_self

theorem children_subset_ids (n : Node) : idsAll n.children ⊆ n.ids := by
  rw [ids_eq]
  exact List.subset_cons_self _ _

theorem id_mem_idsAll {n : Node} {ns : List Node} (h : n ∈ ns) : n.id ∈ idsAll ns := by
  obtain ⟨before, after, rfl⟩ := List.append_of_mem h
  rw [idsAll_append, idsAll_cons]
  exact List.mem_append_right _ (List.mem_append_left _ n.id_mem_ids)

/-- Below nodes none of which has the address a splice changes the first one that has it below. -/
theorem spliceAll_cons_of_below {n : Node} {ns : List Node} (h : (idsAll (n :: ns)).Nodup)
    (hm : target ∈ idsAll n.children) :
    spliceAll target new (n :: ns) = n.splice target new :: ns := by
  obtain ⟨hn, _, hdisjoint⟩ := nodup_cons h
  have hne : n.id ≠ target := by
    rintro rfl
    rw [ids_eq] at hn
    exact (List.nodup_cons.mp hn).1 hm
  have hns : target ∉ idsAll ns := hdisjoint target (n.children_subset_ids hm)
  rw [spliceAll, if_neg hne, spliceAll_of_not_mem ns hns]

theorem spliceAll_cons_of_not_mem {n : Node} {ns : List Node} (h : target ∉ n.ids) :
    spliceAll target new (n :: ns) = n :: spliceAll target new ns := by
  have hne : n.id ≠ target := by
    rintro rfl
    exact h n.id_mem_ids
  have hc : target ∉ idsAll n.children := fun hm => h (n.children_subset_ids hm)
  rw [spliceAll, if_neg hne, splice_of_not_mem n hc]

theorem spliceFirst?_eq {ns : List Node} (h : (idsAll ns).Nodup) :
    spliceFirst? target new ns =
      if target ∈ ns.map Node.id then some (spliceAll target new ns) else none := by
  induction ns with
  | nil => rfl
  | cons n ns ih =>
    obtain ⟨hn, hns, hdisjoint⟩ := nodup_cons h
    rw [spliceFirst?]
    by_cases he : n.id = target
    · have hout : target ∉ idsAll ns := by
        rw [← he]
        exact hdisjoint n.id n.id_mem_ids
      rw [if_pos he, if_pos (by simp [he]), spliceAll, if_pos he, spliceAll_of_not_mem ns hout]
    -- No later child has an address that occurs in this one, so the splice of the rest leaves it alone.
    · rw [if_neg he, ih hns]
      have hmem : target ∈ (n :: ns).map Node.id ↔ target ∈ ns.map Node.id := by
        simp [Ne.symm he]
      by_cases hm : target ∈ ns.map Node.id
      · have hout : target ∉ n.ids := by
          obtain ⟨m, hchild, rfl⟩ := List.mem_map.mp hm
          exact fun hid => hdisjoint m.id hid (id_mem_idsAll hchild)
        rw [if_pos hm, if_pos (hmem.mpr hm), spliceAll_cons_of_not_mem hout]
        rfl
      · rw [if_neg hm, if_neg fun hc => hm (hmem.mp hc)]
        rfl

mutual

/-- Where no address occurs twice the search finds the address if it is there, and changes what a splice
changes. -/
theorem descend?_eq : (n : Node) → n.ids.Nodup → n.descend? target new =
    if target ∈ idsAll n.children then some (n.splice target new) else none
  | .simple id role text, _ => by
    rw [descend?, if_neg (by simp [children])]
  | .block id role header ns, h => by
    have hns : (idsAll ns).Nodup := by
      rw [ids_eq] at h
      exact (List.nodup_cons.mp h).2
    rw [descend?, spliceFirst?_eq hns, children, splice]
    by_cases hm : target ∈ ns.map Node.id
    · have hall : target ∈ idsAll ns := by
        obtain ⟨m, hchild, rfl⟩ := List.mem_map.mp hm
        exact id_mem_idsAll hchild
      rw [if_pos hm, if_pos hall]
      rfl
    · rw [if_neg hm, Option.none_or, descendFirst?_eq ns hns hm]
      split
      next => rfl
      next => rfl

theorem descendFirst?_eq : (ns : List Node) → (idsAll ns).Nodup → target ∉ ns.map Node.id →
    descendFirst? target new ns =
      if target ∈ idsAll ns then some (spliceAll target new ns) else none
  | [], _, _ => rfl
  | n :: ns, h, hnot => by
    obtain ⟨hn, hns, hdisjoint⟩ := nodup_cons h
    have hne : target ≠ n.id := fun he => hnot (by simp [he])
    have hrest : target ∉ ns.map Node.id := fun hm => hnot (List.mem_cons_of_mem _ hm)
    rw [descendFirst?, descend?_eq n hn, descendFirst?_eq ns hns hrest]
    have hmem : target ∈ idsAll (n :: ns) ↔ target ∈ idsAll n.children ∨ target ∈ idsAll ns := by
      rw [idsAll_cons, ids_eq]
      simp [hne]
    by_cases hc : target ∈ idsAll n.children
    · rw [if_pos hc, if_pos (hmem.mpr (Or.inl hc)), spliceAll_cons_of_below h hc]
      rfl
    · have hout : target ∉ n.ids := by
        rw [ids_eq]
        simp [hne, hc]
      rw [if_neg hc, Option.map_none, Option.none_or]
      by_cases hm : target ∈ idsAll ns
      · rw [if_pos hm, if_pos (hmem.mpr (Or.inr hm)), spliceAll_cons_of_not_mem hout]
        rfl
      · have hnone : target ∉ idsAll (n :: ns) := by
          rw [hmem]
          simp [hc, hm]
        rw [if_neg hm, if_neg hnone]
        rfl

end

end PatchSearch.Node
