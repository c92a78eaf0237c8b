import PatchSearch.Proofs.Edit.Reachable
import PatchSearch.Proofs.Tree.Confined

namespace PatchSearch

namespace SourceTree

variable {t t' : SourceTree} {m : Nat}

/-- The addresses strictly inside the node with an address, in pre-order. -/
def descendants (t : SourceTree) (m : Nat) : List Nat :=
  ((t.root.entries 0).filter fun e => t.isAncestor m e.id).map Node.Entry.id

theorem Valid.descendants_eq (hv : t.Valid) {n : Node} {p : Place} (hp : t.items = p.fill [n]) :
    t.descendants n.id = Node.idsAll n.children := by
  let start := ⟨0, 0, .member, true, ""⟩ :: p.before 1 ++ [n.entry (1 + p.depth)]
  let inner := Node.entriesAll (1 + p.depth + 1) n.children
  have hwalk : t.root.entries 0 = start ++ inner ++ p.after 1 := by
    rw [entries_root, hp, p.entriesAll_fill, Node.entriesAll, Node.entriesAll, Node.entries_eq]
    simp [start, inner]
  have hout : ∀ e ∈ start ++ p.after 1, t.isAncestor n.id e.id = false := by
    intro e he
    have hm : e ∈ t.outside n.id := by
      rw [hv.outside_eq hp]
      simpa [start] using he
    simpa using (List.mem_filter.mp hm).2
  have hstart : start.filter (fun e => t.isAncestor n.id e.id) = [] :=
    List.filter_eq_nil_iff.mpr fun e he => by simp [hout e (List.mem_append_left _ he)]
  have hafter : (p.after 1).filter (fun e => t.isAncestor n.id e.id) = [] :=
    List.filter_eq_nil_iff.mpr fun e he => by simp [hout e (List.mem_append_right _ he)]
  have hinner : inner.filter (fun e => t.isAncestor n.id e.id) = inner :=
    List.filter_eq_self.mpr fun e he =>
      (hv.isAncestor_iff hp e.id).mpr (mem_idsAll_of_mem_entriesAll he)
  rw [descendants, hwalk, List.filter_append, List.filter_append, hstart, hinner, hafter,
    List.nil_append, List.append_nil, Node.map_id_entriesAll _ 0]
  rfl

/-- A member block at a place is among the members. -/
theorem mem_members_of_fill {p : Place} {header : String} {children : List Node}
    (hp : t.items = p.fill [.block m .member header children]) :
    ⟨m, 1 + p.depth, .member, true, header⟩ ∈ t.members := by
  rw [members, entries_root, hp, p.entriesAll_fill]
  simp [Node.entriesAll, Node.entries]

/-- In trees with the same members, member blocks with the same address have the same header. -/
theorem Valid.header_eq (hv : t.Valid) (hmembers : t'.members = t.members) {p p' : Place}
    {header header' : String} {children children' : List Node}
    (hp : t.items = p.fill [.block m .member header children])
    (hp' : t'.items = p'.fill [.block m .member header' children']) : header' = header := by
  have he := mem_members_of_fill hp
  have he' := mem_members_of_fill hp'
  rw [hmembers] at he'
  have heq := hv.root_entries_inj (List.mem_filter.mp he').1 (List.mem_filter.mp he).1 rfl
  exact (Node.Entry.mk.inj heq).2.2.2.2

/-- What can be drawn in a reachable tree with a target is all that stands inside the target. -/
theorem Reachable.statementIds_target (h : t.Reachable) (hm : t.target = some m) :
    ∃ (p : Place) (header : String) (children : List Node),
      t.items = p.fill [.block m .member header children] ∧
      t.scope = .block m .member header children ∧ t.statementIds true = t.descendants m := by
  obtain ⟨p, header, children, hp, htype⟩ := h.exists_target hm
  have hscope : t.scope = .block m .member header children := by
    have hnode : t.node? m = some (.block m .member header children) := h.valid.node?_fill hp
    simp [scope, hm, hnode]
  have hbody : Node.FitsAll .statement children := by
    have hn : .block m .member header children ∈ Node.partsAll t.items := by
      rw [hp]
      exact p.mem_partsAll_fill List.mem_cons_self
    simpa [Role.inside, htype] using (Node.fitsAll_partsAll h.valid.fits _ hn).2
  have hall : (Node.entriesAll 1 children).filter (fun e => e.role = .statement) =
      Node.entriesAll 1 children :=
    List.filter_eq_self.mpr fun e he => by simp [Node.fitsAll_entries_role 1 hbody e he]
  refine ⟨p, header, children, hp, hscope, ?_⟩
  have hdescendants : t.descendants m = Node.idsAll children := h.valid.descendants_eq hp
  rw [hdescendants, statementIds, if_pos rfl, hscope, Node.statementIds, Node.entries,
    List.filter_cons_of_neg (by simp), hall, Node.map_id_entriesAll 1 0]
  rfl

/-- A patch that applies leaves every declaration as it is: the walk meets the same members with the
same addresses, depths and texts in the same order. So a target method is still there under its header,
and the statements that can be drawn are exactly what stands inside it. -/
theorem Reachable.declarations_stay (h : t.Reachable) {p : Patch} (hp : p.apply t = .ok t') :
    t'.members = t.members ∧ t'.target = t.target ∧
      ∀ m, t.target = some m → ∃ header children children',
        t.node? m = some (.block m .member header children) ∧
        t'.node? m = some (.block m .member header children') ∧
        t'.scope = .block m .member header children' ∧ t'.statementIds true = t'.descendants m := by
  have hc : Changes (fun _ => True) (fun _ => True) t t' :=
    p.changes_of_within h.valid (fun _ _ _ _ => trivial) hp
  have hmembers := hc.members h.valid
  have htarget := hc.target_eq
  refine ⟨hmembers, htarget, fun m hm => ?_⟩
  have h' : t'.Reachable := .apply h hp
  obtain ⟨q, header, children, hq, _⟩ := h.statementIds_target hm
  obtain ⟨q', header', children', hq', hscope, hids⟩ := h'.statementIds_target (htarget.trans hm)
  obtain rfl := h.valid.header_eq hmembers hq hq'
  exact ⟨header', children, children', h.valid.node?_fill hq, h'.valid.node?_fill hq', hscope, hids⟩

/-- In a type with a field and two methods a line is moved out of a loop and the loop overwritten by a
line of the other method: the members stay, and the line and the copy are all that can be drawn. -/
theorem declarations_stay_overwritten :
    let run : List Statement := [.block "while (c)" [.simple "a();", .simple "b();"]]
    let new := ofItems [.block "class K" [.simple "int x;", .block "void run()" run,
      .block "void stop()" [.simple "d();"]]]
    let t : SourceTree := { new with target := some 3 }
    let p : Patch := ⟨[.structural (.move 6 4), .structural (.replace 8 4)]⟩
    ∃ t', t.Reachable ∧ p.apply t = .ok t' ∧ t'.members = t.members ∧
      t'.statementIds true = [9, 10] ∧ t'.descendants 3 = [9, 10] := by
  intro run new t p
  let t' : SourceTree :=
    ⟨[.block 1 .member "class K" [.simple 2 .member "int x;",
      .block 3 .member "void run()" [.simple 9 .statement "b();", .simple 10 .statement "d();"],
      .block 7 .member "void stop()" [.simple 8 .statement "d();"]]], 11, some 3⟩
  have hf : new.focus "run" = .ok t := by decide +kernel
  have hp : p.apply t = .ok t' := by decide +kernel
  have ht : t.Reachable := .focus (.ofItems _) hf
  obtain ⟨hmembers, _, htarget⟩ := ht.declarations_stay hp
  obtain ⟨_, _, _, _, _, _, hids⟩ := htarget 3 rfl
  have hdrawn : t'.statementIds true = [9, 10] := by decide +kernel
  exact ⟨t', ht, hp, hmembers, hdrawn, hids ▸ hdrawn⟩

end SourceTree

end PatchSearch
