import PatchSearch.Proofs.Tree.Entries

namespace PatchSearch

namespace Node

mutual

theorem Fits.entries_role (d : Nat) :
    {n : Node} → n.Fits .statement → ∀ e ∈ n.entries d, e.role = .statement
  | .simple id role text, h, e, he => by
    obtain rfl : e = ⟨id, d, role, false, text⟩ := by simpa [entries] using he
    exact h
  | .block id role header children, h, e, he => by
    obtain ⟨rfl, hc⟩ := h
    rw [entries] at he
    rcases List.mem_cons.mp he with rfl | he
    · rfl
    · exact fitsAll_entries_role (d + 1) hc e he

theorem fitsAll_entries_role (d : Nat) :
    {ns : List Node} → FitsAll .statement ns → ∀ e ∈ entriesAll d ns, e.role = .statement
  | [], _, e, he => by simp [entriesAll] at he
  | n :: ns, h, e, he => by
    rw [entriesAll] at he
    rcases List.mem_append.mp he with he | he
    · exact h.1.entries_role d e he
    · exact fitsAll_entries_role d h.2 e he

end

/-- There are no members among statements. -/
theorem filter_member_entriesAll {d : Nat} {ns : List Node} (h : FitsAll .statement ns) :
    (entriesAll d ns).filter (fun e => e.role = .member) = [] := by
  rw [List.filter_eq_nil_iff]
  intro e he
  simp [fitsAll_entries_role d h e he]

mutual

theorem map_role_entries (d : Nat) : (n : Node) →
    (n.entries d).map (fun e => (e.id, e.role)) = n.parts.map fun m => (m.id, m.role)
  | .simple _ _ _ => rfl
  | .block id role header children => by
    rw [entries, parts, List.map_cons, List.map_cons, map_role_entriesAll (d + 1) children]
    rfl

/-- The walk meets the addresses and roles of the parts, at any depth. -/
theorem map_role_entriesAll (d : Nat) : (ns : List Node) →
    (entriesAll d ns).map (fun e => (e.id, e.role)) = (partsAll ns).map fun m => (m.id, m.role)
  | [] => rfl
  | n :: ns => by
    rw [entriesAll, partsAll, List.map_append, List.map_append, map_role_entries d n,
      map_role_entriesAll d ns]

end

theorem exists_entry_iff {d id : Nat} {role : Role} {n : Node} :
    (∃ e ∈ n.entries d, e.id = id ∧ e.role = role) ↔ ∃ m ∈ n.parts, m.id = id ∧ m.role = role := by
  have hmap := n.map_role_entries d
  constructor
  · rintro ⟨e, he, rfl, rfl⟩
    have hm : (e.id, e.role) ∈ n.parts.map fun m => (m.id, m.role) := by
      rw [← hmap]
      exact List.mem_map_of_mem he
    obtain ⟨m, hm, heq⟩ := List.mem_map.mp hm
    exact ⟨m, hm, Prod.mk.inj heq⟩
  · rintro ⟨m, hm, rfl, rfl⟩
    have he : (m.id, m.role) ∈ (n.entries d).map fun e => (e.id, e.role) := by
      rw [hmap]
      exact List.mem_map_of_mem hm
    obtain ⟨e, he, heq⟩ := List.mem_map.mp he
    exact ⟨e, he, Prod.mk.inj heq⟩

end Node

namespace SourceTree

/-- The entries of the members of a tree, the root among them, in pre-order. -/
def members (t : SourceTree) : List Node.Entry :=
  (t.root.entries 0).filter fun e => e.role = .member

variable {A : Nat → Prop} {F : Statement → Prop} {t t' : SourceTree}

theorem Change.members (h : Change A F t t') (hv : t.Valid) : t'.members = t.members := by
  have hv' := h.valid hv
  obtain ⟨p, n, fresh, kept, hi, _, hrole, _, hkept, hi', hnext, _⟩ := h
  have hfits := hv.fits
  have hfits' := hv'.fits
  rw [hi, Place.fitsAll_fill] at hfits
  rw [hi', Place.fitsAll_fill] at hfits'
  have hstatement : p.role .member = .statement := hfits.2.1.role_eq.symm.trans hrole
  rw [hstatement] at hfits hfits'
  simp only [SourceTree.members, entries_root, hi, hi', Place.entriesAll_fill, List.filter_cons,
    List.filter_append, Node.filter_member_entriesAll hfits.2, Node.filter_member_entriesAll hfits'.2]

theorem Changes.members (h : Changes A F t t') (hv : t.Valid) : t'.members = t.members := by
  induction h with
  | refl => rfl
  | tail hc hstep ih => rw [hstep.members (Changes.valid hc hv), ih]

/-- The address is that of a member. -/
def IsMember (t : SourceTree) (id : Nat) : Prop :=
  ∃ e ∈ t.members, e.id = id

theorem isMember_iff {id : Nat} :
    t.IsMember id ↔ ∃ m ∈ t.root.parts, m.id = id ∧ m.role = .member := by
  rw [← Node.exists_entry_iff (d := 0)]
  simp [IsMember, SourceTree.members, and_assoc, and_comm]

/-- What is found at an address is a part of the program. -/
theorem mem_parts_of_node? {id : Nat} {n : Node} (h : t.node? id = some n) :
    n.id = id ∧ n.parts ⊆ t.root.parts := by
  rw [node?_eq] at h
  split at h
  next hz =>
    cases h
    exact ⟨hz, List.Subset.refl _⟩
  next =>
    obtain ⟨p, hp⟩ := Node.exists_place_of_findAll? _ h
    refine ⟨Node.findAll?_id _ h, fun m hm => ?_⟩
    rw [root, Node.parts, hp]
    exact List.mem_cons_of_mem _ (p.parts_subset_fill (List.mem_singleton_self n) hm)

theorem scope_subset (t : SourceTree) : t.scope.parts ⊆ t.root.parts := by
  unfold scope
  cases h : t.target.bind t.node? with
  | none => exact List.Subset.refl _
  | some n =>
    obtain ⟨id, _, hn⟩ := Option.bind_eq_some_iff.mp h
    exact (mem_parts_of_node? hn).2

/-- The addresses that are drawn are those of statements. -/
theorem exists_part_of_drawn {id : Nat} {inMethod : Bool} (h : id ∈ t.statementIds inMethod) :
    ∃ m ∈ t.root.parts, m.id = id ∧ m.role = .statement := by
  obtain ⟨e, he, rfl⟩ := List.mem_map.mp h
  obtain ⟨he, hrole⟩ := List.mem_filter.mp he
  obtain ⟨m, hm, hid, hm_role⟩ := Node.exists_entry_iff.mp ⟨e, he, rfl, of_decide_eq_true hrole⟩
  refine ⟨m, ?_, hid, hm_role⟩
  split at hm
  next => exact t.scope_subset hm
  next => exact hm

theorem Valid.not_isMember_of_drawn (hv : t.Valid) {id : Nat} {inMethod : Bool}
    (h : id ∈ t.statementIds inMethod) : ¬t.IsMember id := by
  obtain ⟨m, hm, hid, hrole⟩ := exists_part_of_drawn h
  intro hmember
  obtain ⟨m', hm', hid', hrole'⟩ := isMember_iff.mp hmember
  obtain rfl : m = m' := List.inj_on_of_nodup_map hv.parts_nodup hm hm' (hid.trans hid'.symm)
  rw [hrole] at hrole'
  cases hrole'

/-- What stands at an address that is not that of a member is a statement. -/
theorem statement_of_not_isMember {id : Nat} {n : Node} (hn : t.node? id = some n)
    (h : ¬t.IsMember id) : t.statement id = .ok n := by
  obtain ⟨hid, hparts⟩ := mem_parts_of_node? hn
  have hs : n.isStatement = true := by
    cases hrole : n.role with
    | statement => exact decide_eq_true hrole
    | member => exact absurd (isMember_iff.mpr ⟨n, hparts n.mem_parts_self, hid, hrole⟩) h
  rw [statement, hn]
  dsimp only
  rw [if_pos hs]

end SourceTree

end PatchSearch
