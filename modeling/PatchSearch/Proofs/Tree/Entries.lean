import PatchSearch.Proofs.Tree.Parts

namespace PatchSearch

namespace SourceTree

variable {t : SourceTree}

theorem entries_root (t : SourceTree) (d : Nat) :
    t.root.entries d = ⟨0, d, .member, true, ""⟩ :: Node.entriesAll (d + 1) t.items := by
  rw [root, Node.entries]

theorem mem_idsAll_of_mem_entriesAll {e : Node.Entry} {ns : List Node} {d : Nat}
    (he : e ∈ Node.entriesAll d ns) : e.id ∈ Node.idsAll ns := by
  rw [Node.idsAll, Node.map_id_entriesAll 0 d]
  exact List.mem_map_of_mem he

theorem Valid.entries_inj (hv : t.Valid) {e e' : Node.Entry} {d : Nat}
    (he : e ∈ Node.entriesAll d t.items) (he' : e' ∈ Node.entriesAll d t.items)
    (h : e.id = e'.id) : e = e' := by
  have hn := hv.nodup
  rw [Node.idsAll, Node.map_id_entriesAll 0 d] at hn
  exact List.inj_on_of_nodup_map hn he he' h

theorem Valid.root_entries_inj (hv : t.Valid) {d : Nat} {e e' : Node.Entry}
    (he : e ∈ t.root.entries d) (he' : e' ∈ t.root.entries d) (h : e.id = e'.id) : e = e' := by
  have hnodup : ((t.root.entries d).map Node.Entry.id).Nodup := by
    rw [Node.map_id_entries d 0]
    exact hv.nodup_root
  exact List.inj_on_of_nodup_map hnodup he he' h

/-- Every entry of the walk describes the node at its address. -/
theorem Valid.exists_node (hv : t.Valid) {e : Node.Entry} {d : Nat}
    (he : e ∈ Node.entriesAll d t.items) :
    ∃ n, t.node? e.id = some n ∧ ∃ p : Place, t.items = p.fill [n] ∧ e = n.entry (d + p.depth) := by
  obtain ⟨n, hn, hid, p, hp⟩ := hv.exists_place (mem_idsAll_of_mem_entriesAll he)
  refine ⟨n, hn, p, hp, hv.entries_inj he ?_ (by rw [Node.entry_id, hid])⟩
  rw [hp, p.entriesAll_fill, Node.entriesAll, Node.entriesAll, Node.entries_eq]
  simp

/-- The statements of a valid tree are found at their addresses. -/
theorem Valid.exists_statement (hv : t.Valid) {id : Nat} (h : id ∈ t.statementIds false) :
    ∃ n, t.node? id = some n ∧ t.statement id = .ok n := by
  simp only [statementIds, Bool.false_eq_true, if_false, Node.statementIds, entries_root,
    List.mem_map, List.mem_filter, decide_eq_true_eq] at h
  obtain ⟨e, ⟨he, hrole⟩, rfl⟩ := h
  rcases List.mem_cons.mp he with rfl | he
  · simp at hrole
  · obtain ⟨n, hn, p, _, hen⟩ := hv.exists_node he
    have hs : n.isStatement = true := by
      rw [hen, Node.entry_role] at hrole
      simp [Node.isStatement, hrole]
    exact ⟨n, hn, by simp [statement, hn, hs]⟩

end SourceTree

end PatchSearch
