import PatchSearch.Proofs.Tree.Entries

namespace PatchSearch

namespace SourceTree

/-- The entries of all nodes that do not lie strictly inside the node with an address. -/
def outside (t : SourceTree) (m : Nat) : List Node.Entry :=
  (t.root.entries 0).filter fun e => !t.isAncestor m e.id

/-- The addresses strictly inside a node, and those that are not given out yet. -/
def Inside (t : SourceTree) (m id : Nat) : Prop :=
  t.isAncestor m id = true ∨ t.nextId ≤ id

variable {F : Statement → Prop} {base t t' : SourceTree}

theorem Valid.isAncestor_iff (hv : t.Valid) {n : Node} {p : Place} (hp : t.items = p.fill [n])
    (id : Nat) : t.isAncestor n.id id = true ↔ id ∈ Node.idsAll n.children := by
  have hnodup := hv.nodup
  rw [hp, (p.idsAll_fill_singleton n).nodup_iff] at hnodup
  have hself : n.id ∉ Node.idsAll n.children :=
    fun hm => (List.nodup_cons.mp hnodup).1 (List.mem_append_left _ hm)
  rw [isAncestor, hv.node?_fill hp, Option.bind_some, Bool.and_eq_true, Node.find?_isSome_iff,
    Node.ids_eq, List.mem_cons, decide_eq_true_eq]
  constructor
  · rintro ⟨hne, he | hm⟩
    · exact absurd he.symm hne
    · exact hm
  · intro hm
    refine ⟨?_, Or.inr hm⟩
    rintro rfl
    exact hself hm

theorem Valid.not_isAncestor (hv : t.Valid) {n : Node} {p : Place} (hp : t.items = p.fill [n])
    {id : Nat} (h : id ∈ n.id :: p.ids) : t.isAncestor n.id id = false := by
  rw [← Bool.not_eq_true, hv.isAncestor_iff hp]
  have hnodup := hv.nodup
  rw [hp, (p.idsAll_fill_singleton n).nodup_iff, List.nodup_cons] at hnodup
  rcases List.mem_cons.mp h with rfl | h
  · exact fun hm => hnodup.1 (List.mem_append_left _ hm)
  · exact fun hm => (List.nodup_append.mp hnodup.2).2.2 id hm id h rfl

/-- Outside the node in the gap of a place there are the root, what the place is made of, and the
node itself. -/
theorem Valid.outside_eq (hv : t.Valid) {n : Node} {p : Place} (hp : t.items = p.fill [n]) :
    t.outside n.id =
      ⟨0, 0, .member, true, ""⟩ :: p.before 1 ++ n.entry (1 + p.depth) :: p.after 1 := by
  have hroot : t.isAncestor n.id 0 = false := by
    rw [← Bool.not_eq_true, hv.isAncestor_iff hp]
    intro hm
    have hz : 0 ∈ Node.idsAll t.items := by
      rw [hp, (p.idsAll_fill_singleton n).mem_iff]
      exact List.mem_cons_of_mem _ (List.mem_append_left _ hm)
    exact Nat.lt_irrefl 0 (hv.range 0 hz).1
  have hself : t.isAncestor n.id n.id = false := hv.not_isAncestor hp List.mem_cons_self
  have hbefore : (p.before 1).filter (fun e => !t.isAncestor n.id e.id) = p.before 1 :=
    List.filter_eq_self.mpr fun e he => by
      simp [hv.not_isAncestor hp (List.mem_cons_of_mem _ (Place.mem_ids_of_before he))]
  have hafter : (p.after 1).filter (fun e => !t.isAncestor n.id e.id) = p.after 1 :=
    List.filter_eq_self.mpr fun e he => by
      simp [hv.not_isAncestor hp (List.mem_cons_of_mem _ (Place.mem_ids_of_after he))]
  have hinside : (Node.entriesAll (1 + p.depth + 1) n.children).filter
      (fun e => !t.isAncestor n.id e.id) = [] :=
    List.filter_eq_nil_iff.mpr fun e he => by
      simp [(hv.isAncestor_iff hp e.id).mpr (mem_idsAll_of_mem_entriesAll he)]
  rw [outside, entries_root, hp, p.entriesAll_fill, Node.entriesAll, Node.entriesAll,
    Node.entries_eq, List.append_nil, List.filter_cons_of_pos (by simp [hroot]), List.filter_append,
    List.filter_append, hbefore, hafter, List.filter_cons_of_pos (by simp [hself]), hinside]
  simp

/-- A version of the base in which only the inside of a member differs, with addresses that are inside
the member or new. -/
structure Confined (base : SourceTree) (p : Place) (m : Nat) (header : String) (t : SourceTree) :
    Prop where
  valid : t.Valid
  target : t.target = some m
  nextId : base.nextId ≤ t.nextId
  shape : ∃ children, t.items = p.fill [.block m .member header children] ∧
    ∀ id ∈ Node.idsAll children, base.Inside m id

variable {p : Place} {m : Nat} {header : String}

theorem confined_self (hv : base.Valid) (hm : base.target = some m) {children : List Node}
    (hp : base.items = p.fill [.block m .member header children]) :
    Confined base p m header base := by
  refine ⟨hv, hm, Nat.le_refl _, children, hp, fun id hid => Or.inl ?_⟩
  exact (hv.isAncestor_iff hp id).mpr hid

theorem Confined.outside_eq (h : Confined base p m header t) (hb : Confined base p m header base) :
    t.outside m = base.outside m := by
  obtain ⟨children, hp, _⟩ := h.shape
  obtain ⟨children', hp', _⟩ := hb.shape
  have ht := h.valid.outside_eq hp
  have hbase := hb.valid.outside_eq hp'
  exact ht.trans hbase.symm

/-- The address of the member and those around it are not inside it. -/
theorem Confined.not_inside (hb : Confined base p m header base) {id : Nat}
    (h : id ∈ m :: p.ids) : ¬base.Inside m id := by
  obtain ⟨children, hp, _⟩ := hb.shape
  have hanc : base.isAncestor m id = false := hb.valid.not_isAncestor hp h
  have hid : id ∈ Node.idsAll base.items := by
    rw [hp, (p.idsAll_fill_singleton _).mem_iff]
    rcases List.mem_cons.mp h with rfl | h
    · exact List.mem_cons_self
    · exact List.mem_cons_of_mem _ (List.mem_append_right _ h)
  have hlt := (hb.valid.range id hid).2
  rintro (hi | hi)
  · simp [hanc] at hi
  · omega

/-- Changes at addresses inside the member stay inside it. -/
theorem Confined.change (h : Confined base p m header t) (hb : Confined base p m header base)
    (hc : Change (base.Inside m) F t t') : Confined base p m header t' := by
  have hv' := hc.valid h.valid
  have hnew := fun id => @Change.mem_ids _ _ _ _ hc id
  have htarget := hc.target_eq
  obtain ⟨q, n, fresh, kept, hi, hn, _, _, _, hi', hnext, _⟩ := hc
  obtain ⟨children, hp, hinside⟩ := h.shape
  have hm : n.id ≠ m := fun he => hb.not_inside (he ▸ List.mem_cons_self) hn
  have hout : n.id ∉ p.ids := fun hmem => hb.not_inside (List.mem_cons_of_mem _ hmem) hn
  let new := Statement.attachAll .statement t.nextId fresh ++ kept
  have hne : (Node.block m .member header children).id ≠ n.id := hm.symm
  have hshape : t'.items =
      p.fill [.block m .member header (Node.spliceAll n.id (fun _ => new) children)] := by
    rw [hi', ← h.valid.spliceAll_fill hi fun _ => new, hp, p.spliceAll_fill _ hout,
      Node.spliceAll, if_neg hne, Node.splice, Node.spliceAll]
  refine ⟨hv', htarget.trans h.target, by have := h.nextId; omega, _, hshape, fun id hid => ?_⟩
  have hperm := p.idsAll_fill_singleton (.block m .member header
    (Node.spliceAll n.id (fun _ => new) children))
  rw [← hshape] at hperm
  have hnodup := List.nodup_cons.mp (hperm.nodup_iff.mp hv'.nodup)
  have hall : id ∈ Node.idsAll t'.items :=
    hperm.mem_iff.mpr (List.mem_cons_of_mem _ (List.mem_append_left _ hid))
  rcases hnew id hall with hfresh | hold
  · exact Or.inr (Nat.le_trans h.nextId hfresh)
  · rw [hp, (p.idsAll_fill_singleton _).mem_iff] at hold
    rcases List.mem_cons.mp hold with rfl | hold
    · exact absurd (List.mem_append_left _ hid) hnodup.1
    · rcases List.mem_append.mp hold with hold | hold
      · exact hinside id hold
      · exact absurd rfl ((List.nodup_append.mp hnodup.2).2.2 id hid id hold)

theorem Confined.changes (h : Confined base p m header t) (hb : Confined base p m header base)
    (hc : Changes (base.Inside m) F t t') : Confined base p m header t' := by
  induction hc with
  | refl => exact h
  | tail _ hc ih => exact ih.change hb hc

/-- The statements in the target have addresses inside the member. -/
theorem Confined.statementIds (h : Confined base p m header t) :
    ∀ id ∈ t.statementIds true, base.Inside m id := by
  obtain ⟨children, hp, hinside⟩ := h.shape
  have hscope : t.scope = .block m .member header children := by
    have hm : t.node? m = some (.block m .member header children) := h.valid.node?_fill hp
    simp [scope, h.target, hm]
  intro id hid
  simp only [SourceTree.statementIds, if_true, hscope, Node.statementIds, Node.entries,
    List.mem_map, List.mem_filter, decide_eq_true_eq] at hid
  obtain ⟨e, ⟨he, hrole⟩, rfl⟩ := hid
  rcases List.mem_cons.mp he with rfl | he
  · simp at hrole
  · exact hinside e.id (mem_idsAll_of_mem_entriesAll he)

end SourceTree

end PatchSearch
