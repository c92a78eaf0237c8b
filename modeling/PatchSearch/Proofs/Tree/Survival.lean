import PatchSearch.Proofs.Tree.Parts

namespace PatchSearch

namespace Node

variable {a b : Nat} {new : Node → List Node}

theorem findAll?_append (ns ms : List Node) :
    findAll? a (ns ++ ms) = (findAll? a ns).or (findAll? a ms) := by
  induction ns with
  | nil => rfl
  | cons n ns ih => rw [List.cons_append, findAll?, findAll?, ih, Option.or_assoc]

mutual

theorem find?_splice : (n : Node) → n.id ≠ a →
    (∀ m ∈ n.parts, m.id = a → findAll? b (new m) = (m.find? b).map (splice a new)) →
    (n.splice a new).find? b = (n.find? b).map (splice a new)
  | .simple id role text, _, _ => by
    rw [splice, find?]
    split
    next => rfl
    next => rfl
  | .block id role header children, _, h => by
    rw [splice, find?, find?]
    split
    next => rfl
    next => exact findAll?_spliceAll children fun m hm => h m (List.mem_cons_of_mem _ hm)

theorem findAll?_spliceAll : (ns : List Node) →
    (∀ m ∈ partsAll ns, m.id = a → findAll? b (new m) = (m.find? b).map (splice a new)) →
    findAll? b (spliceAll a new ns) = (findAll? b ns).map (splice a new)
  | [], _ => rfl
  | n :: ns, h => by
    have hns := findAll?_spliceAll ns fun m hm => h m (List.mem_append_right _ hm)
    rw [spliceAll, findAll?, Option.map_or]
    split
    next he =>
      rw [findAll?_append, hns, h n (List.mem_append_left _ n.mem_parts_self) he]
    next hne =>
      rw [findAll?, hns, find?_splice n hne fun m hm => h m (List.mem_append_left _ hm)]

end

theorem mem_partsAll_of_findAll? {ns : List Node} {m : Node} (h : findAll? b ns = some m) :
    m ∈ partsAll ns := by
  obtain ⟨p, rfl⟩ := exists_place_of_findAll? ns h
  exact p.mem_partsAll_fill List.mem_cons_self

theorem mem_parts_of_find? {n m : Node} (h : n.find? b = some m) : m ∈ n.parts := by
  have hall : findAll? b [n] = some m := by
    rw [findAll?, h, Option.some_or]
  simpa [partsAll] using mem_partsAll_of_findAll? hall

theorem find?_of_not_mem {n : Node} (h : b ∉ n.ids) : n.find? b = none := by
  rwa [← find?_isSome_iff, Option.not_isSome_iff_eq_none] at h

end Node

namespace SourceTree

variable {t u : SourceTree} {a b : Nat} {n m : Node} {new : Node → List Node}

theorem statement_eq_ok_iff : t.statement a = .ok n ↔
    0 ≠ a ∧ Node.findAll? a t.items = some n ∧ n.role = .statement := by
  rw [statement, node?_eq]
  by_cases hz : 0 = a
  · have hroot : t.root.isStatement = false := rfl
    simp [hz, hroot]
  · rw [if_neg hz]
    cases Node.findAll? a t.items with
    | none => simp
    | some m =>
      by_cases hs : m.role = .statement <;>
        simpa [hz, Node.isStatement, hs] using fun he : m = n => he ▸ hs

theorem node?_of_statement (h : t.statement a = .ok n) : t.node? a = some n := by
  obtain ⟨hz, hn, _⟩ := statement_eq_ok_iff.mp h
  rw [node?_eq, if_neg hz, hn]

theorem contains_of_statement (h : t.statement a = .ok n) : t.contains a = true := by
  rw [contains, node?_of_statement h, Option.isSome_some]

theorem isAncestor_iff_mem (hn : t.node? a = some n) :
    t.isAncestor a b = true ↔ a ≠ b ∧ b ∈ n.ids := by
  rw [isAncestor, hn, Option.bind_some, Bool.and_eq_true, Node.find?_isSome_iff,
    decide_eq_true_eq]

theorem not_mem_ids_of_not_isAncestor (hne : a ≠ b) (hn : t.statement a = .ok n)
    (h : t.isAncestor a b = false) : b ∉ n.ids := by
  intro hmem
  rw [(isAncestor_iff_mem (node?_of_statement hn)).mpr ⟨hne, hmem⟩] at h
  cases h

theorem Valid.not_mem_children (hv : t.Valid) (hn : n ∈ Node.partsAll t.items) :
    n.id ∉ Node.idsAll n.children := by
  obtain ⟨-, p, hp⟩ := hv.exists_fill hn
  have hnodup := hv.nodup
  rw [hp, (p.idsAll_fill_singleton n).nodup_iff, List.nodup_cons] at hnodup
  exact fun h => hnodup.1 (List.mem_append_left _ h)

/-- A statement is found unchanged after a splice at an address that is not below it, if it is found in
what takes the place of the node there whenever it was found in that node. -/
theorem Valid.statement_of_splice (hv : t.Valid) (hn : t.statement a = .ok n)
    (hm : t.statement b = .ok m) (ha : a ∉ Node.idsAll m.children)
    (hnew : Node.findAll? b (new n) = n.find? b) (hu : u.items = Node.spliceAll a new t.items) :
    u.statement b = .ok m := by
  obtain ⟨_, hna, _⟩ := statement_eq_ok_iff.mp hn
  obtain ⟨hz, hmb, hrole⟩ := statement_eq_ok_iff.mp hm
  have hnmem := Node.mem_partsAll_of_findAll? hna
  have hmmem := Node.mem_partsAll_of_findAll? hmb
  obtain ⟨p, hp⟩ := Node.exists_place_of_findAll? _ hna
  have hsame : m.splice a new = m := Node.splice_of_not_mem m ha
  refine statement_eq_ok_iff.mpr ⟨hz, ?_, hrole⟩
  rw [hu, Node.findAll?_spliceAll, hmb, Option.map_some, hsame]
  intro n' hn' hid
  obtain rfl : n' = n := hv.parts_inj hn' hnmem (hid.trans (Node.findAll?_id _ hna).symm)
  rw [hnew]
  cases hfind : n'.find? b with
  | none => rfl
  | some m' =>
    have hm' : m' ∈ Node.partsAll t.items := by
      rw [hp]
      exact p.parts_subset_fill (List.mem_singleton_self n') (Node.mem_parts_of_find? hfind)
    have hid : m'.id = m.id := (Node.find?_id _ hfind).trans (Node.findAll?_id _ hmb).symm
    obtain rfl : m' = m := hv.parts_inj hm' hmmem hid
    rw [Option.map_some, hsame]

end SourceTree

end PatchSearch
