import PatchSearch.Proofs.Tree.Place

namespace PatchSearch

namespace Node

mutual

/-- The node has the role, and below it every role is the one that the header above gives. -/
def Fits (expected : Role) : Node → Prop
  | .simple _ role _ => role = expected
  | .block _ role header children => role = expected ∧ FitsAll (role.inside header) children

def FitsAll (expected : Role) : List Node → Prop
  | [] => True
  | n :: ns => n.Fits expected ∧ FitsAll expected ns

end

theorem Fits.role_eq {expected : Role} {n : Node} (h : n.Fits expected) : n.role = expected := by
  cases n with
  | simple => exact h
  | block => exact h.1

theorem fitsAll_append {expected : Role} {ns ms : List Node} :
    FitsAll expected (ns ++ ms) ↔ FitsAll expected ns ∧ FitsAll expected ms := by
  induction ns with
  | nil => simp [FitsAll]
  | cons n ns ih => simp only [List.cons_append, FitsAll, ih, and_assoc]

theorem fitsAll_iff {expected : Role} {ns : List Node} :
    FitsAll expected ns ↔ ∀ n ∈ ns, n.Fits expected := by
  induction ns with
  | nil => simp [FitsAll]
  | cons n ns ih => simp [FitsAll, ih]

end Node

namespace Statement

mutual

theorem detach_attach (role : Role) (start : Nat) :
    (s : Statement) → (s.attach role start).detach = s
  | .simple _ => rfl
  | .block header body => by
    rw [attach, Node.detach, detachAll_attachAll (role.inside header) (start + 1) body]

theorem detachAll_attachAll (role : Role) (start : Nat) :
    (ss : List Statement) → Node.detachAll (attachAll role start ss) = ss
  | [] => rfl
  | s :: ss => by
    rw [attachAll, Node.detachAll, detach_attach role start s,
      detachAll_attachAll role (start + s.size) ss]

end

mutual

theorem ids_attach (role : Role) (start : Nat) :
    (s : Statement) → (s.attach role start).ids = List.range' start s.size
  | .simple _ => rfl
  | .block header body => by
    rw [Node.ids_eq, attach, Node.children, idsAll_attachAll (role.inside header) (start + 1) body,
      size, Nat.add_comm 1 (sizeAll body), List.range'_succ]
    rfl

/-- The parts of fragments are numbered in pre-order. -/
theorem idsAll_attachAll (role : Role) (start : Nat) :
    (ss : List Statement) → Node.idsAll (attachAll role start ss) = List.range' start (sizeAll ss)
  | [] => rfl
  | s :: ss => by
    rw [attachAll, Node.idsAll_cons, ids_attach role start s,
      idsAll_attachAll role (start + s.size) ss, sizeAll, List.range'_append_1]

end

mutual

theorem fits_attach (role : Role) (start : Nat) :
    (s : Statement) → (s.attach role start).Fits role
  | .simple _ => rfl
  | .block header body => ⟨rfl, fitsAll_attachAll (role.inside header) (start + 1) body⟩

theorem fitsAll_attachAll (role : Role) (start : Nat) :
    (ss : List Statement) → Node.FitsAll role (attachAll role start ss)
  | [] => trivial
  | s :: ss => ⟨fits_attach role start s, fitsAll_attachAll role (start + s.size) ss⟩

end

end Statement

/-- The rendering of a new tree is that of its statements. -/
theorem SourceTree.render_ofItems (ss : List Statement) :
    (SourceTree.ofItems ss).render = Statement.renderAll ss := by
  rw [SourceTree.render, SourceTree.ofItems, Statement.detachAll_attachAll]

end PatchSearch
