import PatchSearch.Proofs.Edit.Overwriting
import PatchSearch.Proofs.Tree.Descent
import PatchSearch.Proofs.Tree.Survival

namespace PatchSearch

namespace Statement

/-- The rows of a fragment as the entries of new statements, with addresses from `start` on. -/
def numbered (start : Nat) (rows : List Row) : List Node.Entry :=
  rows.mapIdx fun i row => ⟨start + i, row.depth, .statement, row.isBlock, row.text⟩

theorem numbered_append (start : Nat) (rows rows' : List Row) :
    numbered start (rows ++ rows') = numbered start rows ++ numbered (start + rows.length) rows' := by
  rw [numbered, List.mapIdx_append]
  simp only [numbered, Nat.add_assoc, Nat.add_comm rows.length]

theorem numbered_cons (start : Nat) (row : Row) (rows : List Row) :
    numbered start (row :: rows) =
      ⟨start, row.depth, .statement, row.isBlock, row.text⟩ :: numbered (start + 1) rows := by
  have happend := numbered_append start [row] rows
  simpa [numbered] using happend

theorem le_id_of_mem_numbered {start : Nat} {rows : List Row} {e : Node.Entry}
    (h : e ∈ numbered start rows) : start ≤ e.id := by
  obtain ⟨i, _, rfl⟩ := List.mem_mapIdx.mp h
  exact Nat.le_add_right start i

mutual

theorem length_outline (depth : Nat) : (s : Statement) → (s.outline depth).length = s.size
  | .simple _ => rfl
  | .block header body => by
    rw [outline, List.length_cons, length_outlineAll (depth + 1) body, size, Nat.add_comm]

theorem length_outlineAll (depth : Nat) :
    (ss : List Statement) → (outlineAll depth ss).length = sizeAll ss
  | [] => rfl
  | s :: ss => by
    rw [outlineAll, List.length_append, length_outline depth s, length_outlineAll depth ss, sizeAll]

end

mutual

theorem entries_attach (start depth : Nat) : (s : Statement) →
    (s.attach .statement start).entries depth = numbered start (s.outline depth)
  | .simple _ => rfl
  | .block header body => by
    have hrole : Role.inside .statement header = .statement := rfl
    rw [attach, Node.entries, outline, numbered_cons, hrole,
      entriesAll_attachAll (start + 1) (depth + 1) body]

/-- The walk through attached statements goes through the rows of their outline. -/
theorem entriesAll_attachAll (start depth : Nat) : (ss : List Statement) →
    Node.entriesAll depth (attachAll .statement start ss) = numbered start (outlineAll depth ss)
  | [] => rfl
  | s :: ss => by
    rw [attachAll, Node.entriesAll, outlineAll, numbered_append, entries_attach start depth s,
      entriesAll_attachAll (start + s.size) depth ss, length_outline depth s]

end

end Statement

namespace SourceTree

/-- An operation on the statement at an address. -/
inductive Operation where
  | replace (s : Statement)
  | insertBefore (s : Statement)
  | remove
deriving Repr, DecidableEq

namespace Operation

def apply (o : Operation) (t : SourceTree) (id : Nat) : Except TreeError SourceTree :=
  match o with
  | .replace s => t.replace id s
  | .insertBefore s => t.insertBefore id s
  | .remove => t.remove id

/-- The fragments that the operation brings along. -/
def fresh : Operation → List Statement
  | .replace s | .insertBefore s => [s]
  | .remove => []

/-- What takes the place of a node. -/
def nodes (o : Operation) (next : Nat) (n : Node) : List Node :=
  match o with
  | .replace s => [s.attach .statement next]
  | .insertBefore s => [s.attach .statement next, n]
  | .remove => []

/-- What takes the place of the segment of a node at a depth in the walk through a tree. -/
def segment (o : Operation) (next depth : Nat) (old : List Node.Entry) : List Node.Entry :=
  match o with
  | .replace s => Statement.numbered next (s.outline depth)
  | .insertBefore s => Statement.numbered next (s.outline depth) ++ old
  | .remove => []

/-- The operation as a search for the address, level by level, which may come to nothing. -/
def search (o : Operation) (t : SourceTree) (id : Nat) : Except TreeError SourceTree := do
  let _ ← t.statement id
  match t.root.descend? id (o.nodes t.nextId) with
  | none => .error (.notFound id)
  | some root =>
    .ok { t with items := root.children, nextId := t.nextId + Statement.sizeAll o.fresh }

theorem apply_eq (o : Operation) (t : SourceTree) (id : Nat) :
    o.apply t id = (t.statement id).map fun _ => { t with
      items := Node.spliceAll id (o.nodes t.nextId) t.items
      nextId := t.nextId + Statement.sizeAll o.fresh } := by
  cases o with
  | replace s | insertBefore s | remove =>
    simp only [apply, SourceTree.replace, SourceTree.insertBefore, SourceTree.remove]
    cases t.statement id <;> rfl

theorem entriesAll_nodes (o : Operation) (next depth : Nat) (n : Node) :
    Node.entriesAll depth (o.nodes next n) = o.segment next depth (n.entries depth) := by
  cases o with
  | replace s | insertBefore s | remove =>
    simp [nodes, segment, Node.entriesAll, Statement.entries_attach]

variable {t t' : SourceTree} {id : Nat}

theorem apply_of_error (o : Operation) {f : TreeError} (h : t.statement id = .error f) :
    o.apply t id = .error f := by
  rw [o.apply_eq, h]
  rfl

theorem exists_ok (o : Operation) {n : Node} (h : t.statement id = .ok n) :
    ∃ u, o.apply t id = .ok u := by
  rw [o.apply_eq, h]
  exact ⟨_, rfl⟩

theorem apply_ok {o : Operation} (h : o.apply t id = .ok t') : ∃ n, t.statement id = .ok n ∧
    t' = { t with
      items := Node.spliceAll id (o.nodes t.nextId) t.items
      nextId := t.nextId + Statement.sizeAll o.fresh } := by
  rw [o.apply_eq] at h
  cases hn : t.statement id with
  | error f =>
    rw [hn] at h
    cases h
  | ok n =>
    rw [hn] at h
    exact ⟨n, rfl, (Except.ok.inj h).symm⟩

theorem change {o : Operation} (hv : t.Valid) (h : o.apply t id = .ok t') :
    Change (fun _ => True) (fun _ => True) t t' := by
  cases o with
  | replace s => exact change_of_replace hv trivial trivial h
  | insertBefore s => exact change_of_insertBefore hv trivial trivial h
  | remove => exact change_of_remove hv trivial h

/-- In a valid tree the search finds every statement. -/
theorem search_eq (o : Operation) (hv : t.Valid) (id : Nat) : o.search t id = o.apply t id := by
  rw [o.apply_eq, search]
  cases hn : t.statement id with
  | error f => rfl
  | ok n =>
    obtain ⟨rfl, _, p, hp⟩ := exists_place_of_statement hn
    have hmem : n.id ∈ Node.idsAll t.root.children := by
      rw [root, Node.children, hp, (p.idsAll_fill_singleton n).mem_iff]
      exact List.mem_cons_self
    have hfound : t.root.descend? n.id (o.nodes t.nextId) =
        some (t.root.splice n.id (o.nodes t.nextId)) := by
      rw [Node.descend?_eq t.root hv.nodup_root, if_pos hmem]
    simp only [bind, Except.bind, hfound]
    rfl

end Operation

variable {t : SourceTree}

/-- An operation fails at an absent address, fails at that of a member, and else succeeds. -/
theorem Operation.apply_cases (o : Operation) (hv : t.Valid) (id : Nat) :
    (t.contains id = false ∧ ¬t.IsMember id ∧ o.apply t id = .error (.notFound id)) ∨
      (t.contains id = true ∧ t.IsMember id ∧
        o.apply t id = .error (.mismatch id "target is a member declaration")) ∨
      (t.contains id = true ∧ ¬t.IsMember id ∧ ∃ t', o.apply t id = .ok t') := by
  cases hc : t.contains id with
  | false =>
    have hs : t.statement id = .error (.notFound id) := by
      rw [statement, node?_of_absent hc]
    exact Or.inl ⟨rfl, hv.not_isMember_of_absent hc, o.apply_of_error hs⟩
  | true =>
    by_cases hm : t.IsMember id
    · have hs := statement_of_isMember hv hm
      exact Or.inr (Or.inl ⟨rfl, hm, o.apply_of_error hs⟩)
    · obtain ⟨n, hn⟩ := exists_statement_of_contains hc hm
      exact Or.inr (Or.inr ⟨rfl, hm, o.exists_ok hn⟩)

/-- The segment of a node occurs only once in the walk through a valid tree, and at one depth. -/
theorem Valid.segment_unique (hv : t.Valid) {n : Node} {d d' : Nat}
    {P P' R R' : List Node.Entry} (h : t.root.entries 0 = P ++ n.entries d ++ R)
    (h' : t.root.entries 0 = P' ++ n.entries d' ++ R') : P = P' ∧ d = d' ∧ R = R' := by
  rw [List.append_assoc, n.entries_eq, List.cons_append] at h h'
  have hentry : n.entry d = n.entry d' := by
    have he : n.entry d ∈ t.root.entries 0 := by simp [h]
    have he' : n.entry d' ∈ t.root.entries 0 := by simp [h']
    exact hv.root_entries_inj he he' (by simp)
  have hdepth : d = d' := by
    have hdepth := congrArg Node.Entry.depth hentry
    cases n <;> exact hdepth
  subst hdepth
  have hnodup : (P ++ n.entry d :: (Node.entriesAll (d + 1) n.children ++ R)).Nodup := by
    rw [← h]
    exact hv.nodup_root.of_map
  obtain ⟨_, hnodup, hbefore⟩ := List.nodup_append.mp hnodup
  have hP : n.entry d ∉ P := fun hm => hbefore _ hm _ List.mem_cons_self rfl
  have hsame := (List.append_cons_inj_of_notMem hP (List.nodup_cons.mp hnodup).1).mp (h.symm.trans h')
  obtain ⟨rfl, _, hrest⟩ := hsame
  exact ⟨rfl, rfl, List.append_cancel_left hrest⟩

theorem Valid.entriesAll_operation (hv : t.Valid) {o : Operation} {id : Nat} {t' : SourceTree}
    (h : o.apply t id = .ok t') (depth : Nat) : ∃ n P d R, t.node? id = some n ∧
      Node.entriesAll depth t.items = P ++ n.entries d ++ R ∧
      Node.entriesAll depth t'.items = P ++ o.segment t.nextId d (n.entries d) ++ R := by
  obtain ⟨n, hn, rfl⟩ := o.apply_ok h
  obtain ⟨_, _, p, hp, hsplice⟩ := hv.spliceAll_eq hn
  refine ⟨n, p.before depth, depth + p.depth, p.after depth, node?_of_statement hn, ?_, ?_⟩
  · rw [hp, p.entriesAll_fill, Node.entriesAll, Node.entriesAll, List.append_nil]
  · rw [hsplice, p.entriesAll_fill, o.entriesAll_nodes]

theorem Valid.entries_operation (hv : t.Valid) {o : Operation} {id : Nat} {t' : SourceTree}
    (h : o.apply t id = .ok t') : ∃ n P d R, t.node? id = some n ∧
      t.root.entries 0 = P ++ n.entries d ++ R ∧
      t'.root.entries 0 = P ++ o.segment t.nextId d (n.entries d) ++ R := by
  obtain ⟨n, P, d, R, hn, hold, hnew⟩ := hv.entriesAll_operation h 1
  refine ⟨n, ⟨0, 0, .member, true, ""⟩ :: P, d, R, hn, ?_, ?_⟩
  · rw [entries_root, hold]
    rfl
  · rw [entries_root, hnew]
    rfl

/-- Operations are exact. They fail at absent addresses and at members, and at no other, whether they
look for the address in pre-order or level by level. Where the walk through the tree splits into what is
before the statement, its segment, and what is after it, the walk through the new tree has other entries
in the place of the segment only. -/
theorem Reachable.operation_exact (h : t.Reachable) (o : Operation) (id : Nat) :
    (o.apply t id = .error (.notFound id) ↔ t.contains id = false) ∧
      (o.apply t id = .error (.mismatch id "target is a member declaration") ↔ t.IsMember id) ∧
      ((∃ t', o.apply t id = .ok t') ↔ t.contains id = true ∧ ¬t.IsMember id) ∧
      o.search t id = o.apply t id ∧
      ∀ t', o.apply t id = .ok t' →
        t'.nextId = t.nextId + Statement.sizeAll o.fresh ∧ t'.target = t.target ∧
        ∃ n, t.node? id = some n ∧ (∃ P d R, t.root.entries 0 = P ++ n.entries d ++ R) ∧
          ∀ P d R, t.root.entries 0 = P ++ n.entries d ++ R →
            t'.root.entries 0 = P ++ o.segment t.nextId d (n.entries d) ++ R := by
  have hv := h.valid
  have hfails : (o.apply t id = .error (.notFound id) ↔ t.contains id = false) ∧
      (o.apply t id = .error (.mismatch id "target is a member declaration") ↔ t.IsMember id) ∧
      ((∃ t', o.apply t id = .ok t') ↔ t.contains id = true ∧ ¬t.IsMember id) := by
    rcases o.apply_cases hv id with ⟨hc, hm, ho⟩ | ⟨hc, hm, ho⟩ | ⟨hc, hm, t', ho⟩ <;>
      simp [hc, hm, ho]
  refine ⟨hfails.1, hfails.2.1, hfails.2.2, o.search_eq hv id, ?_⟩
  · intro t' ht'
    obtain ⟨n, P, d, R, hn, hold, hnew⟩ := hv.entries_operation ht'
    obtain ⟨_, _, rfl⟩ := o.apply_ok ht'
    refine ⟨rfl, rfl, n, hn, ⟨P, d, R, hold⟩, fun P' d' R' hsplit => ?_⟩
    obtain ⟨rfl, rfl, rfl⟩ := hv.segment_unique hold hsplit
    exact hnew

/-- A block is put before the line in a loop; the new parts take the next three addresses. -/
theorem operation_exact_nested :
    let t := ofItems [.block "class K" [.block "void run()"
      [.block "while (c)" [.simple "a();", .simple "b();"], .simple "d();"]]]
    let o : Operation := .insertBefore (.block "if (x)" [.simple "e();", .simple "f();"])
    ∃ t', t.Reachable ∧ o.apply t 5 = .ok t' ∧
      t.root.entries 0 = [⟨0, 0, .member, true, ""⟩, ⟨1, 1, .member, true, "class K"⟩,
        ⟨2, 2, .member, true, "void run()"⟩, ⟨3, 3, .statement, true, "while (c)"⟩,
        ⟨4, 4, .statement, false, "a();"⟩] ++ [⟨5, 4, .statement, false, "b();"⟩] ++
        [⟨6, 3, .statement, false, "d();"⟩] ∧
      t'.root.entries 0 = [⟨0, 0, .member, true, ""⟩, ⟨1, 1, .member, true, "class K"⟩,
        ⟨2, 2, .member, true, "void run()"⟩, ⟨3, 3, .statement, true, "while (c)"⟩,
        ⟨4, 4, .statement, false, "a();"⟩] ++ [⟨7, 4, .statement, true, "if (x)"⟩,
        ⟨8, 5, .statement, false, "e();"⟩, ⟨9, 5, .statement, false, "f();"⟩,
        ⟨5, 4, .statement, false, "b();"⟩] ++ [⟨6, 3, .statement, false, "d();"⟩] := by
  intro t o
  have ht : t.Reachable := .ofItems _
  obtain ⟨_, _, hok, _, hnew⟩ := ht.operation_exact o 5
  obtain ⟨t', ht'⟩ := hok.mpr (by decide +kernel)
  obtain ⟨_, _, n, hn, _, hsplit⟩ := hnew t' ht'
  have hb : t.node? 5 = some (.simple 5 .statement "b();") := by decide +kernel
  cases hb.symm.trans hn
  exact ⟨t', ht, ht', by decide +kernel, hsplit _ 4 _ (by decide +kernel)⟩

end SourceTree

end PatchSearch
