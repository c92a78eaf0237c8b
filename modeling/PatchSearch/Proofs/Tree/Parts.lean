import PatchSearch.Proofs.Tree.Validity

namespace PatchSearch

namespace Node

mutual

/-- The node and all nodes below it, in pre-order. -/
def parts : Node → List Node
  | .simple id role text => [.simple id role text]
  | .block id role header children => .block id role header children :: partsAll children

def partsAll : List Node → List Node
  | [] => []
  | n :: ns => n.parts ++ partsAll ns

end

mutual

theorem map_id_parts : (n : Node) → n.parts.map Node.id = n.ids
  | .simple _ _ _ => rfl
  | .block id role header children => by
    rw [parts, List.map_cons, map_id_partsAll children, ids_eq]
    rfl

theorem map_id_partsAll : (ns : List Node) → (partsAll ns).map Node.id = idsAll ns
  | [] => rfl
  | n :: ns => by
    rw [partsAll, List.map_append, map_id_parts n, map_id_partsAll ns, idsAll_cons]

end

mutual

theorem Fits.parts {expected : Role} : {n : Node} → n.Fits expected → ∀ m ∈ n.parts, m.Fits m.role
  | .simple id role text, h, m, hm => by
    obtain rfl : m = .simple id role text := by simpa [Node.parts] using hm
    rfl
  | .block id role header children, h, m, hm => by
    rw [Node.parts] at hm
    rcases List.mem_cons.mp hm with rfl | hm
    · exact ⟨rfl, h.2⟩
    · exact fitsAll_partsAll h.2 m hm

theorem fitsAll_partsAll {expected : Role} :
    {ns : List Node} → FitsAll expected ns → ∀ m ∈ partsAll ns, m.Fits m.role
  | [], _, m, hm => by simp [partsAll] at hm
  | n :: ns, h, m, hm => by
    rw [partsAll] at hm
    rcases List.mem_append.mp hm with hm | hm
    · exact h.1.parts m hm
    · exact fitsAll_partsAll h.2 m hm

end

mutual

theorem Fits.statements : {n : Node} → n.Fits .statement → ∀ m ∈ n.parts, m.role = .statement
  | .simple id role text, h, m, hm => by
    obtain rfl : m = .simple id role text := by simpa [Node.parts] using hm
    exact h
  | .block id role header children, h, m, hm => by
    rw [Node.parts] at hm
    rcases List.mem_cons.mp hm with rfl | hm
    · exact h.1
    · have hc := h.2
      rw [h.1] at hc
      exact fitsAll_statements hc m hm

/-- Below statements there are only statements. -/
theorem fitsAll_statements :
    {ns : List Node} → FitsAll .statement ns → ∀ m ∈ partsAll ns, m.role = .statement
  | [], _, m, hm => by simp [partsAll] at hm
  | n :: ns, h, m, hm => by
    rw [partsAll] at hm
    rcases List.mem_append.mp hm with hm | hm
    · exact h.1.statements m hm
    · exact fitsAll_statements h.2 m hm

end

theorem mem_parts_self (n : Node) : n ∈ n.parts := by
  cases n <;> simp [parts]

theorem partsAll_append (ns ms : List Node) : partsAll (ns ++ ms) = partsAll ns ++ partsAll ms := by
  induction ns with
  | nil => rfl
  | cons n ns ih => rw [List.cons_append, partsAll, partsAll, ih, List.append_assoc]

theorem mem_partsAll {n : Node} {ns : List Node} (h : n ∈ ns) : n ∈ partsAll ns := by
  obtain ⟨before, after, rfl⟩ := List.append_of_mem h
  rw [partsAll_append, partsAll]
  exact List.mem_append_right _ (List.mem_append_left _ n.mem_parts_self)

end Node

theorem Place.parts_subset_fill (p : Place) {n : Node} {ns : List Node} (h : n ∈ ns) :
    n.parts ⊆ Node.partsAll (p.fill ns) := by
  intro m hm
  induction p with
  | here left right =>
    obtain ⟨before, after, rfl⟩ := List.append_of_mem h
    simp [fill, Node.partsAll_append, Node.partsAll, hm]
  | inside left id role header inner right ih =>
    simp [fill, Node.partsAll_append, Node.partsAll, Node.parts, ih]

theorem Place.mem_partsAll_fill (p : Place) {n : Node} {ns : List Node} (h : n ∈ ns) :
    n ∈ Node.partsAll (p.fill ns) :=
  p.parts_subset_fill h n.mem_parts_self

namespace SourceTree

variable {t : SourceTree}

theorem ids_root (t : SourceTree) : t.root.ids = 0 :: Node.idsAll t.items :=
  Node.ids_eq t.root

theorem contains_iff {id : Nat} : t.contains id = true ↔ id = 0 ∨ id ∈ Node.idsAll t.items := by
  rw [contains, node?, Node.find?_isSome_iff, ids_root, List.mem_cons]

theorem Valid.absent_of_nextId_le {id : Nat} (hv : t.Valid) (h : t.nextId ≤ id) : t.contains id = false := by
  rw [← Bool.not_eq_true, contains_iff]
  rintro (rfl | hm)
  · have := hv.nextId_pos
    omega
  · have := (hv.range id hm).2
    omega

theorem Valid.parts_nodup (h : t.Valid) : (t.root.parts.map Node.id).Nodup := by
  rw [Node.map_id_parts, ids_root, List.nodup_cons]
  exact ⟨fun hm => Nat.lt_irrefl 0 (h.range 0 hm).1, h.nodup⟩

theorem Valid.nodup_root (hv : t.Valid) : t.root.ids.Nodup := by
  rw [← Node.map_id_parts]
  exact hv.parts_nodup

theorem Valid.parts_range (h : t.Valid) : ∀ n ∈ t.root.parts, n.id < t.nextId := by
  intro n hn
  have hm : n.id ∈ t.root.ids := by
    rw [← Node.map_id_parts]
    exact List.mem_map_of_mem hn
  rw [ids_root] at hm
  rcases List.mem_cons.mp hm with hz | hm
  · rw [hz]
    exact h.nextId_pos
  · exact (h.range _ hm).2

/-- The node at an address of the tree stands in the gap of a place. -/
theorem Valid.exists_place (hv : t.Valid) {id : Nat} (h : id ∈ Node.idsAll t.items) :
    ∃ n, t.node? id = some n ∧ n.id = id ∧ ∃ p : Place, t.items = p.fill [n] := by
  obtain ⟨n, hn⟩ := Option.isSome_iff_exists.mp (Node.findAll?_isSome t.items h)
  have hz : 0 ≠ id := by
    have := (hv.range id h).1
    omega
  refine ⟨n, ?_, Node.findAll?_id _ hn, Node.exists_place_of_findAll? _ hn⟩
  rw [node?_eq, if_neg hz, hn]

theorem Valid.parts_inj (hv : t.Valid) {n m : Node} (hn : n ∈ Node.partsAll t.items)
    (hm : m ∈ Node.partsAll t.items) (h : n.id = m.id) : n = m := by
  have hnodup := hv.nodup
  rw [← Node.map_id_partsAll] at hnodup
  exact List.inj_on_of_nodup_map hnodup hn hm h

/-- A part of a tree is found at its address and stands in the gap of a place. -/
theorem Valid.exists_fill (hv : t.Valid) {n : Node} (hn : n ∈ Node.partsAll t.items) :
    t.node? n.id = some n ∧ ∃ p : Place, t.items = p.fill [n] := by
  have hid : n.id ∈ Node.idsAll t.items := by
    rw [← Node.map_id_partsAll]
    exact List.mem_map_of_mem hn
  obtain ⟨m, hm, he, p, hp⟩ := hv.exists_place hid
  have hmem : m ∈ Node.partsAll t.items := by
    rw [hp]
    exact p.mem_partsAll_fill List.mem_cons_self
  obtain rfl := hv.parts_inj hmem hn he
  exact ⟨hm, p, hp⟩

/-- What stands in the gap of a place is found at its address. -/
theorem Valid.node?_fill (h : t.Valid) {p : Place} {n : Node} (hp : t.items = p.fill [n]) :
    t.node? n.id = some n := by
  have hm : n ∈ Node.partsAll t.items := by
    rw [hp]
    exact p.mem_partsAll_fill List.mem_cons_self
  exact (h.exists_fill hm).1

/-- The body of a member block other than the root fits its header. -/
theorem Valid.fits_children (h : t.Valid) {id : Nat} {header : String} {children : List Node}
    (hn : .block id .member header children ∈ t.root.parts) :
    Node.FitsAll (if id = 0 ∨ Header.isTypeHeader header then .member else .statement) children := by
  rw [root, Node.parts] at hn
  rcases List.mem_cons.mp hn with hr | hn
  · obtain ⟨rfl, _, _, rfl⟩ := Node.block.inj hr
    simpa using h.fits
  · have hid : id ∈ Node.idsAll t.items := by
      rw [← Node.map_id_partsAll]
      exact List.mem_map_of_mem hn
    have hne : id ≠ 0 := by
      have := (h.range id hid).1
      omega
    simpa [hne, Role.inside] using (Node.fitsAll_partsAll h.fits _ hn).2

end SourceTree

end PatchSearch
