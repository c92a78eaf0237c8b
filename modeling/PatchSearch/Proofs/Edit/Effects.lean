import PatchSearch.Proofs.Edit.Mismatch
import PatchSearch.Proofs.Tree.Rearrangement

namespace PatchSearch

/-- The text of a line or the header of a block. -/
def Node.Entry.content (e : Node.Entry) : Bool × String :=
  (e.isBlock, e.text)

mutual

/-- The texts of the lines and the headers of the blocks in a fragment. -/
def Statement.contents : Statement → List (Bool × String)
  | .simple text => [(false, text)]
  | .block header body => (true, header) :: Statement.contentsAll body

def Statement.contentsAll : List Statement → List (Bool × String)
  | [] => []
  | s :: ss => s.contents ++ Statement.contentsAll ss

end

namespace Node

mutual

theorem map_content_entries (depth : Nat) :
    (n : Node) → (n.entries depth).map Entry.content = n.detach.contents
  | .simple _ _ _ => rfl
  | .block id role header children => by
    rw [entries, List.map_cons, map_content_entriesAll (depth + 1) children, detach,
      Statement.contents]
    rfl

theorem map_content_entriesAll (depth : Nat) : (ns : List Node) →
    (entriesAll depth ns).map Entry.content = Statement.contentsAll (detachAll ns)
  | [] => rfl
  | n :: ns => by
    rw [entriesAll, List.map_append, map_content_entries depth n, map_content_entriesAll depth ns,
      detachAll, Statement.contentsAll]

end

end Node

namespace SourceTree

/-- The texts of the lines and the headers of the blocks in a program. -/
def contents (t : SourceTree) : List (Bool × String) :=
  Statement.contentsAll (Node.detachAll t.items)

/-- The addresses in what stands at an address. -/
def idsAt (t : SourceTree) (a : Nat) : List Nat :=
  ((t.node? a).map Node.ids).getD []

/-- The fragment at an address. -/
def fragmentAt (t : SourceTree) (a : Nat) : List Statement :=
  ((t.node? a).map Node.detach).toList

variable {t u : SourceTree} {a b : Nat} {n m : Node}

theorem idsAt_of_statement (h : t.statement a = .ok n) : t.idsAt a = n.ids := by
  rw [idsAt, node?_of_statement h, Option.map_some, Option.getD_some]

theorem fragmentAt_of_statement (h : t.statement a = .ok n) : t.fragmentAt a = [n.detach] := by
  rw [fragmentAt, node?_of_statement h]
  rfl

theorem isAncestor_eq_false_iff (h : t.statement a = .ok n) (hne : a ≠ b) :
    t.isAncestor a b = false ↔ b ∉ t.idsAt a := by
  rw [← Bool.not_eq_true, isAncestor_iff_mem (node?_of_statement h), idsAt_of_statement h]
  simp [hne]

namespace Operation

variable {o : Operation} {r : Rearrangement}

/-- The operation as part of a rearrangement. -/
def rearranged (o : Operation) (r : Rearrangement) (a : Nat) : Rearrangement :=
  match o with
  | .replace s => r.placing a [s]
  | .insertBefore s => r.inserting a [s]
  | .remove => r.placing a []

theorem rearranged_of_ne (h : b ≠ a) : (o.rearranged r a).SameAt r b := by
  cases o with
  | replace s => exact Rearrangement.placing_of_ne h
  | insertBefore s => exact Rearrangement.inserting_of_ne h
  | remove => exact Rearrangement.placing_of_ne h

/-- An operation before a rearrangement that leaves the new nodes alone is part of a rearrangement of the
tree as it was. -/
theorem rearrangeAll_apply (hv : t.Valid) (h : o.apply t a = .ok u)
    (hr : ∀ id, t.nextId ≤ id → r.before id = [] ∧ r.instead id = none) :
    Node.rearrangeAll r u.items = Node.rearrangeAll (o.rearranged r a) t.items := by
  obtain ⟨n, hn, rfl⟩ := o.apply_ok h
  refine Node.rearrangeAll_spliceAll (fun b hb => rearranged_of_ne hb) _ fun m hm hid => ?_
  have hfresh (s : Statement) : (s.attach .statement t.nextId).rearrange r = [s] := by
    have hkept : ∀ m ∈ (s.attach .statement t.nextId).parts, m.Kept r := by
      intro m hm
      have hid : m.id ∈ (s.attach .statement t.nextId).ids := by
        rw [← Node.map_id_parts]
        exact List.mem_map_of_mem hm
      rw [Statement.ids_attach] at hid
      exact Or.inl (hr m.id (List.mem_range'_1.mp hid).1)
    rw [Node.rearrange_of_kept _ hkept, Statement.detach_attach]
  subst hid
  cases o with
  | replace s => simp [nodes, rearranged, Node.rearrangeAll, hfresh, Node.rearrange_placing]
  | insertBefore s =>
    simp [nodes, rearranged, Node.rearrangeAll, hfresh,
      Node.rearrange_inserting (hv.not_mem_children hm)]
  | remove => simp [nodes, rearranged, Node.rearrangeAll, Node.rearrange_placing]

/-- An operation leaves all nodes of the tree where they were that satisfy a condition, unless they go
with the node at its address. -/
theorem filter_apply (hv : t.Valid) (h : o.apply t a = .ok u) (hn : t.statement a = .ok n)
    {p : Nat → Bool} (hp : ∀ id, p id = true → id < t.nextId) :
    u.entries.filter (fun e => p e.id) =
      t.entries.filter fun e => p e.id && (o.keeps || e.id ∉ n.ids) := by
  obtain ⟨n', P, d, R, hn', hold, hnew⟩ := hv.entriesAll_operation h 0
  obtain rfl : n' = n := Option.some.inj (hn'.symm.trans (node?_of_statement hn))
  have hnodup : (P.map Node.Entry.id ++ (n'.ids ++ R.map Node.Entry.id)).Nodup := by
    have hids := hv.nodup
    rw [Node.idsAll, hold, List.append_assoc, List.map_append, List.map_append,
      Node.map_id_entries d 0] at hids
    exact hids
  obtain ⟨_, hright, hleft⟩ := List.nodup_append.mp hnodup
  have hP : ∀ e ∈ P, e.id ∉ n'.ids := fun e he hid =>
    hleft e.id (List.mem_map_of_mem he) e.id (List.mem_append_left _ hid) rfl
  have hR : ∀ e ∈ R, e.id ∉ n'.ids := fun e he hid =>
    (List.nodup_append.mp hright).2.2 e.id hid e.id (List.mem_map_of_mem he) rfl
  have hin : ∀ e ∈ n'.entries d, e.id ∈ n'.ids := fun e he => by
    rw [Node.ids, Node.map_id_entries 0 d]
    exact List.mem_map_of_mem he
  have hfresh (s : Statement) :
      (Statement.numbered t.nextId (s.outline d)).filter (fun e => p e.id) = [] := by
    refine List.filter_eq_nil_iff.mpr fun e he hpe => ?_
    have hle := Statement.le_id_of_mem_numbered he
    have hlt := hp e.id hpe
    omega
  have hsame {l : List Node.Entry} (hl : ∀ e ∈ l, e.id ∉ n'.ids) :
      l.filter (fun e => p e.id && (o.keeps || e.id ∉ n'.ids)) = l.filter fun e => p e.id :=
    List.filter_congr fun e he => by simp [hl e he]
  have hsegment : (o.segment t.nextId d (n'.entries d)).filter (fun e => p e.id) =
      (n'.entries d).filter fun e => p e.id && (o.keeps || e.id ∉ n'.ids) := by
    cases o with
    | insertBefore s => simp [segment, keeps, List.filter_append, hfresh]
    | replace s | remove =>
      symm
      simpa [segment, keeps, hfresh] using fun e he _ => hin e he
  rw [entries, entries, hold, hnew, List.filter_append, List.filter_append, List.filter_append,
    List.filter_append, hsegment, hsame hP, hsame hR]

/-- An operation adds the contents of its fragments and takes those of the node that goes. -/
theorem count_apply (hv : t.Valid) (h : o.apply t a = .ok u) (hn : t.statement a = .ok n)
    (x : Bool × String) :
    u.contents.count x + (if o.keeps then 0 else n.detach.contents.count x) =
      t.contents.count x + (Statement.contentsAll o.fresh).count x := by
  obtain ⟨n', P, d, R, hn', hold, hnew⟩ := hv.entriesAll_operation h 0
  obtain rfl : n' = n := Option.some.inj (hn'.symm.trans (node?_of_statement hn))
  have hfresh (s : Statement) : (Statement.numbered t.nextId (s.outline d)).map Node.Entry.content =
      s.contents := by
    rw [← Statement.entries_attach, Node.map_content_entries, Statement.detach_attach]
  rw [contents, contents, ← Node.map_content_entriesAll 0, ← Node.map_content_entriesAll 0, hold, hnew]
  simp only [List.map_append, List.count_append, Node.map_content_entries]
  cases o with
  | replace s =>
    rw [segment, hfresh]
    simp only [keeps, fresh, Statement.contentsAll, List.append_nil, Bool.false_eq_true, if_false]
    omega
  | insertBefore s =>
    rw [segment, List.map_append, hfresh, Node.map_content_entries, List.count_append]
    simp only [keeps, fresh, Statement.contentsAll, List.append_nil, if_true]
    omega
  | remove =>
    rw [segment, List.map_nil, List.count_nil]
    simp only [keeps, fresh, Statement.contentsAll, List.count_nil, Bool.false_eq_true, if_false]
    omega

theorem detachAll_apply (hv : t.Valid) (h : o.apply t a = .ok u) :
    Node.detachAll u.items = Node.rearrangeAll (o.rearranged .still a) t.items := by
  rw [← rearrangeAll_apply hv h fun _ _ => ⟨rfl, rfl⟩, Node.rearrangeAll_of_kept]
  exact fun _ _ => Or.inl ⟨rfl, rfl⟩

end Operation

/-- The entries of all nodes but those in what stands at certain addresses. -/
def entriesBut (t : SourceTree) (gone : List Nat) : List Node.Entry :=
  t.entries.filter fun e => ∀ a ∈ gone, e.id ∉ t.idsAt a

theorem Valid.lt_of_contains (hv : t.Valid) (h : t.contains a = true) : a < t.nextId := by
  by_contra hle
  rw [hv.absent_of_nextId_le (Nat.le_of_not_lt hle)] at h
  cases h

theorem contains_of_mem_entries {e : Node.Entry} (h : e ∈ t.entries) : t.contains e.id = true :=
  contains_iff.mpr (Or.inr (mem_idsAll_of_mem_entriesAll h))

variable {v : SourceTree} {o o' : Operation}

theorem survivors_apply (hv : t.Valid) (h : o.apply t a = .ok u) (hn : t.statement a = .ok n) :
    t.survivors u = t.entriesBut (if o.keeps then [] else [a]) := by
  rw [survivors, Operation.filter_apply hv h hn fun id hid => hv.lt_of_contains hid]
  refine List.filter_congr fun e he => ?_
  cases hk : o.keeps <;> simp [contains_of_mem_entries he, idsAt_of_statement hn]

theorem survivors_apply_twice (hv : t.Valid) (h : o.apply t a = .ok u) (h' : o'.apply u b = .ok v)
    (hn : t.statement a = .ok n) (hm : t.statement b = .ok m) (hsame : u.statement b = .ok m) :
    t.survivors v =
      t.entriesBut ((if o.keeps then [] else [a]) ++ if o'.keeps then [] else [b]) := by
  have hc := Operation.change hv h
  have hold : ∀ id, t.contains id = true → id < u.nextId := fun id hid =>
    Nat.lt_of_lt_of_le (hv.lt_of_contains hid) hc.nextId_le
  have hlt : ∀ id, (t.contains id && (o'.keeps || id ∉ m.ids)) = true → id < t.nextId := fun id hid =>
    hv.lt_of_contains (Bool.and_eq_true_iff.mp hid).1
  rw [survivors, Operation.filter_apply (hc.valid hv) h' hsame hold]
  refine (Operation.filter_apply hv h hn hlt).trans (List.filter_congr fun e he => ?_)
  cases hk : o.keeps <;> cases hk' : o'.keeps <;>
    simp [contains_of_mem_entries he, idsAt_of_statement hn, idsAt_of_statement hm,
      Bool.and_comm]

theorem detachAll_apply_twice (hv : t.Valid) (h : o.apply t a = .ok u) (h' : o'.apply u b = .ok v)
    (hb : t.contains b = true) : Node.detachAll v.items =
      Node.rearrangeAll (o.rearranged (o'.rearranged .still b) a) t.items := by
  have hlt := hv.lt_of_contains hb
  rw [Operation.detachAll_apply ((Operation.change hv h).valid hv) h']
  refine Operation.rearrangeAll_apply hv h fun id hle => ?_
  exact Operation.rearranged_of_ne (Nat.ne_of_gt (Nat.lt_of_lt_of_le hlt hle))

end SourceTree

end PatchSearch
