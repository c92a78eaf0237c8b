import PatchSearch.Proofs.Tree.Place

namespace PatchSearch

namespace Place

/-- The place with one more node before it. -/
def cons (n : Node) : Place → Place
  | .here left right => .here (n :: left) right
  | .inside left id role header inner right => .inside (n :: left) id role header inner right

theorem fill_cons (n : Node) (p : Place) (ns : List Node) : (p.cons n).fill ns = n :: p.fill ns := by
  cases p <;> rfl

end Place

namespace Node

mutual

theorem exists_place_of_find? {id : Nat} {m : Node} :
    (n : Node) → n.find? id = some m → m = n ∨ ∃ p : Place, n.children = p.fill [m]
  | .simple id' role text, h => by
    rw [find?] at h
    split at h
    next => exact Or.inl (Option.some.inj h).symm
    next => simp at h
  | .block id' role header children, h => by
    rw [find?] at h
    split at h
    next => exact Or.inl (Option.some.inj h).symm
    next => exact Or.inr (exists_place_of_findAll? children h)

/-- What is found at an address stands in the gap of a place. -/
theorem exists_place_of_findAll? {id : Nat} {m : Node} :
    (ns : List Node) → findAll? id ns = some m → ∃ p : Place, ns = p.fill [m]
  | [], h => by simp [findAll?] at h
  | n :: ns, h => by
    rw [findAll?] at h
    rcases Option.or_eq_some_iff.mp h with h | ⟨_, h⟩
    · rcases exists_place_of_find? n h with rfl | ⟨p, hp⟩
      · exact ⟨.here [] ns, rfl⟩
      · cases n with
        | simple => cases p <;> simp [children, Place.fill] at hp
        | block id' role header children =>
          have hc : children = p.fill [m] := hp
          exact ⟨.inside [] id' role header p ns, by rw [hc]; rfl⟩
    · obtain ⟨p, rfl⟩ := exists_place_of_findAll? ns h
      exact ⟨p.cons n, (p.fill_cons n [m]).symm⟩

end

mutual

theorem find?_id {id : Nat} {m : Node} : (n : Node) → n.find? id = some m → m.id = id
  | .simple id' role text, h => by
    rw [find?] at h
    split at h
    next he => cases Option.some.inj h; exact he
    next => simp at h
  | .block id' role header children, h => by
    rw [find?] at h
    split at h
    next he => cases Option.some.inj h; exact he
    next => exact findAll?_id children h

theorem findAll?_id {id : Nat} {m : Node} : (ns : List Node) → findAll? id ns = some m → m.id = id
  | [], h => by simp [findAll?] at h
  | n :: ns, h => by
    rw [findAll?] at h
    rcases Option.or_eq_some_iff.mp h with h | ⟨_, h⟩
    · exact find?_id n h
    · exact findAll?_id ns h

end

mutual

theorem find?_isSome {id : Nat} : (n : Node) → id ∈ n.ids → (n.find? id).isSome
  | .simple id' role text, h => by
    have he : id' = id := by simpa [ids, entries, eq_comm] using h
    simp [find?, he]
  | .block id' role header children, h => by
    rw [find?]
    split
    next => rfl
    next he =>
      rw [ids_eq] at h
      rcases List.mem_cons.mp h with h | h
      · exact absurd h.symm he
      · exact findAll?_isSome children h

/-- Something is found at every address that occurs. -/
theorem findAll?_isSome {id : Nat} : (ns : List Node) → id ∈ idsAll ns → (findAll? id ns).isSome
  | [], h => by simp at h
  | n :: ns, h => by
    rw [idsAll_cons] at h
    rw [findAll?, Option.isSome_or, Bool.or_eq_true]
    exact (List.mem_append.mp h).imp (find?_isSome n) (findAll?_isSome ns)

end

theorem findAll?_isSome_iff {id : Nat} {ns : List Node} :
    (findAll? id ns).isSome ↔ id ∈ idsAll ns := by
  refine ⟨fun h => ?_, findAll?_isSome ns⟩
  obtain ⟨n, hn⟩ := Option.isSome_iff_exists.mp h
  obtain ⟨p, rfl⟩ := exists_place_of_findAll? ns hn
  rw [(p.idsAll_fill_perm [n]).mem_iff, idsAll_singleton, ids_eq, findAll?_id _ hn]
  simp

theorem find?_isSome_iff {id : Nat} {n : Node} : (n.find? id).isSome ↔ id ∈ n.ids := by
  have h : (findAll? id [n]).isSome ↔ id ∈ idsAll [n] := findAll?_isSome_iff
  simpa [findAll?, idsAll_singleton] using h

mutual

theorem splice_of_not_mem {id : Nat} {new : Node → List Node} :
    (n : Node) → id ∉ idsAll n.children → n.splice id new = n
  | .simple _ _ _, _ => rfl
  | .block id' role header children, h => by rw [splice, spliceAll_of_not_mem children h]

/-- Splicing at an address that does not occur changes nothing. -/
theorem spliceAll_of_not_mem {id : Nat} {new : Node → List Node} :
    (ns : List Node) → id ∉ idsAll ns → spliceAll id new ns = ns
  | [], _ => rfl
  | n :: ns, h => by
    rw [idsAll_cons, ids_eq, List.cons_append] at h
    have hne : n.id ≠ id := fun he => h (by simp [he])
    have hc : id ∉ idsAll n.children := fun hm => h (by simp [hm])
    have hs : id ∉ idsAll ns := fun hm => h (by simp [hm])
    rw [spliceAll, if_neg hne, splice_of_not_mem n hc, spliceAll_of_not_mem ns hs]

end

theorem spliceAll_append (id : Nat) (new : Node → List Node) (ns ms : List Node) :
    spliceAll id new (ns ++ ms) = spliceAll id new ns ++ spliceAll id new ms := by
  induction ns with
  | nil => rfl
  | cons n ns ih =>
    rw [List.cons_append, spliceAll, spliceAll, ih]
    split <;> simp

end Node

/-- Splicing at an address that does not occur around the gap changes only what is in the gap. -/
theorem Place.spliceAll_fill {p : Place} {id : Nat} {new : Node → List Node} (ns : List Node)
    (h : id ∉ p.ids) : Node.spliceAll id new (p.fill ns) = p.fill (Node.spliceAll id new ns) := by
  suffices hd : ∀ d, id ∉ (p.before d).map Node.Entry.id → id ∉ (p.after d).map Node.Entry.id →
      Node.spliceAll id new (p.fill ns) = p.fill (Node.spliceAll id new ns) by
    exact hd 0 (fun hm => h (List.mem_append_left _ hm)) (fun hm => h (List.mem_append_right _ hm))
  clear h
  induction p with
  | here left right =>
    intro d hl hr
    rw [before, Node.map_id_entriesAll d 0] at hl
    rw [after, Node.map_id_entriesAll d 0] at hr
    simp only [fill, Node.spliceAll_append, Node.spliceAll_of_not_mem _ hl,
      Node.spliceAll_of_not_mem _ hr]
  | inside left id' role header inner right ih =>
    intro d hl hr
    simp only [before, List.map_append, List.map_cons, List.mem_append, List.mem_cons, not_or] at hl
    simp only [after, List.map_append, List.mem_append, not_or] at hr
    rw [Node.map_id_entriesAll d 0] at hl hr
    have hne : (Node.block id' role header (inner.fill ns)).id ≠ id := Ne.symm hl.2.1
    rw [fill, Node.spliceAll_append, Node.spliceAll_of_not_mem _ hl.1, Node.spliceAll, if_neg hne,
      Node.splice, ih (d + 1) hl.2.2 hr.1, Node.spliceAll_of_not_mem _ hr.2]
    rfl

theorem Node.spliceAll_singleton (n : Node) (new : Node → List Node) :
    Node.spliceAll n.id new [n] = new n := by
  simp [Node.spliceAll]

end PatchSearch
