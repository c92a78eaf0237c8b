import PatchSearch.Proofs.Edit.Changes
import PatchSearch.Proofs.Tree.Members

namespace PatchSearch

namespace SourceTree

/-- The trees that the operations and patches make of the statements of a program. -/
inductive Reachable : SourceTree → Prop
  | ofItems (ss : List Statement) : Reachable (ofItems ss)
  | replace {t t' id s} : Reachable t → t.replace id s = .ok t' → Reachable t'
  | insertBefore {t t' id s} : Reachable t → t.insertBefore id s = .ok t' → Reachable t'
  | remove {t t' id} : Reachable t → t.remove id = .ok t' → Reachable t'
  | focus {t t' name} : Reachable t → t.focus name = .ok t' → Reachable t'
  | apply {t t' p} : Reachable t → Patch.apply p t = .ok t' → Reachable t'

theorem focus_ok {t t' : SourceTree} {name : String} (h : t.focus name = .ok t') :
    ∃ e ∈ t.root.entries 0, e.role = .member ∧ e.isBlock ∧ Header.declaresMethod e.text name ∧
      t' = { t with target := some e.id } := by
  unfold focus at h
  split at h
  next e he =>
    have hp := List.find?_some he
    simp only [Bool.and_eq_true, decide_eq_true_eq] at hp
    exact ⟨e, List.mem_of_find?_eq_some he, hp.1.1, hp.1.2, hp.2, (Except.ok.inj h).symm⟩
  next => simp at h

/-- What new trees have, what changes keep and what choosing a target keeps, every reachable tree has. -/
theorem Reachable.invariant {I : SourceTree → Prop} {t : SourceTree} (h : t.Reachable)
    (new : ∀ ss, I (SourceTree.ofItems ss))
    (change : ∀ {u u'}, u.Valid → Change (fun _ => True) (fun _ => True) u u' → I u → I u')
    (focus : ∀ {u u' name}, u.Valid → u.focus name = .ok u' → I u → I u') : t.Valid ∧ I t := by
  have once : ∀ {u u'}, Change (fun _ => True) (fun _ => True) u u' → u.Valid ∧ I u →
      u'.Valid ∧ I u' :=
    fun hc hi => ⟨hc.valid hi.1, change hi.1 hc hi.2⟩
  induction h with
  | ofItems ss => exact ⟨valid_ofItems ss, new ss⟩
  | replace _ h ih => exact once (change_of_replace ih.1 trivial trivial h) ih
  | insertBefore _ h ih => exact once (change_of_insertBefore ih.1 trivial trivial h) ih
  | remove _ h ih => exact once (change_of_remove ih.1 trivial h) ih
  | focus _ h ih =>
    refine ⟨?_, focus ih.1 h ih.2⟩
    obtain ⟨_, _, _, _, _, rfl⟩ := focus_ok h
    exact ih.1.withTarget _
  | @apply u u' p _ h ih =>
    have hw : p.Within fun _ => True := fun _ _ _ _ => trivial
    have hc := p.changes_of_within ih.1 hw h
    clear h
    induction hc with
    | refl => exact ih
    | tail _ hc ih => exact once hc ih

variable {t : SourceTree}

theorem Reachable.valid (h : t.Reachable) : t.Valid :=
  (h.invariant (I := fun _ => True) (fun _ => trivial) (fun _ _ _ => trivial)
    (fun _ _ _ => trivial)).1

theorem isTypeHeader_of_declaresMethod {header name : String}
    (h : Header.declaresMethod header name = true) : Header.isTypeHeader header = false := by
  simp only [Header.declaresMethod] at h
  split at h
  next => simp at h
  next hn => simpa using fun ht => hn (Or.inr ht)

theorem declaresMethod_empty (name : String) : Header.declaresMethod "" name = false := by
  simp only [Header.declaresMethod]
  split
  next => rfl
  next =>
    rw [Header.occursAsName]
    split
    next => rfl
    next =>
      split
      next => rfl
      next before after hc =>
        have hlength := Text.length_of_cutAt? hc
        simp [Header.compact] at hlength

/-- The target of a reachable tree is a member block whose header declares a method. -/
theorem Reachable.target_member (h : t.Reachable) : ∀ m ∈ t.target, ∃ e ∈ t.members,
    e.id = m ∧ e.isBlock ∧ ∃ name, Header.declaresMethod e.text name := by
  refine (h.invariant (I := fun t => ∀ m ∈ t.target, ∃ e ∈ t.members, e.id = m ∧ e.isBlock ∧
    ∃ name, Header.declaresMethod e.text name) ?_ ?_ ?_).2
  · intro ss m hm
    simp [SourceTree.ofItems] at hm
  · intro u u' hv hc hi
    rw [hc.members hv, hc.target_eq]
    exact hi
  · intro u u' name hv hf hi m hm
    obtain ⟨e, he, hrole, hb, hd, rfl⟩ := focus_ok hf
    refine ⟨e, ?_, Option.some.inj hm, hb, name, hd⟩
    exact List.mem_filter.mpr ⟨he, by simpa using hrole⟩

/-- The target of a reachable tree stands in the gap of a place and holds statements. -/
theorem Reachable.exists_target (h : t.Reachable) {m : Nat} (hm : t.target = some m) :
    ∃ (p : Place) (header : String) (children : List Node),
      t.items = p.fill [.block m .member header children] ∧ Header.isTypeHeader header = false := by
  obtain ⟨e, he, rfl, hb, name, hd⟩ := h.target_member m hm
  obtain ⟨he, hrole⟩ := List.mem_filter.mp he
  rw [entries_root] at he
  rcases List.mem_cons.mp he with rfl | he
  · simp [declaresMethod_empty] at hd
  · obtain ⟨n, hn, p, hp, hen⟩ := h.valid.exists_node he
    cases n with
    | simple => simp [hen, Node.entry] at hb
    | block id role header children =>
      rw [hen] at hrole hd ⊢
      obtain rfl : role = .member := by simpa [Node.entry] using hrole
      exact ⟨p, header, children, hp, isTypeHeader_of_declaresMethod hd⟩

/-- What every reachable tree looks like: the root is the member with the address 0, no two nodes
share an address and all are below the next one, statements hold only statements, and the body of a
member holds members under the root and under type headers and statements under all others. -/
theorem Reachable.well_formed (h : t.Reachable) :
    t.root.id = 0 ∧ t.root.role = .member ∧ (t.root.parts.map Node.id).Nodup ∧
      (∀ n ∈ t.root.parts, n.id < t.nextId) ∧
      (∀ n ∈ t.root.parts, n.role = .statement → ∀ m ∈ n.parts, m.role = .statement) ∧
      ∀ id header children, .block id .member header children ∈ t.root.parts → ∀ m ∈ children,
        m.role = if id = 0 ∨ Header.isTypeHeader header then .member else .statement := by
  have hv := h.valid
  refine ⟨rfl, rfl, hv.parts_nodup, hv.parts_range, ?_, ?_⟩
  · intro n hn hs m hm
    rw [root, Node.parts] at hn
    rcases List.mem_cons.mp hn with rfl | hn
    · simp [Node.role] at hs
    · have hf := Node.fitsAll_partsAll hv.fits n hn
      rw [hs] at hf
      exact hf.statements m hm
  · intro id header children hn m hm
    exact (Node.fitsAll_iff.mp (hv.fits_children hn) m hm).role_eq

/-- A type with a field and a method, in which a line was moved out of a loop and the loop deleted. -/
theorem well_formed_swap_delete :
    let t : SourceTree :=
      ⟨[.block 1 .member "class K" [.simple 2 .member "int x;",
        .block 3 .member "void run()" [.simple 7 .statement "b();"]]], 9, some 3⟩
    t.Reachable ∧ t.root.id = 0 ∧ t.root.role = .member ∧ (t.root.parts.map Node.id).Nodup ∧
      (∀ n ∈ t.root.parts, n.id < t.nextId) ∧
      (∀ n ∈ t.root.parts, n.role = .statement → ∀ m ∈ n.parts, m.role = .statement) ∧
      ∀ id header children, .block id .member header children ∈ t.root.parts → ∀ m ∈ children,
        m.role = if id = 0 ∨ Header.isTypeHeader header then .member else .statement := by
  intro t
  let run : List Statement := [.simple "a();", .block "while (c)" [.simple "b();"]]
  let new := ofItems [.block "class K" [.simple "int x;", .block "void run()" run]]
  let p : Patch := ⟨[.structural (.swap 4 6), .structural (.delete 5)]⟩
  have hf : new.focus "run" = .ok { new with target := some 3 } := by decide +kernel
  have hp : p.apply { new with target := some 3 } = .ok t := by decide +kernel
  have ht : t.Reachable := .apply (.focus (.ofItems _) hf) hp
  exact ⟨ht, ht.well_formed⟩

end SourceTree

end PatchSearch
