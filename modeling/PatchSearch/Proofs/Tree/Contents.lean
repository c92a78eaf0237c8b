import PatchSearch.Proofs.Tree.Validity

namespace PatchSearch

/-- A property that a block has on account of its header and the statements of its body. -/
structure Statement.Compositional (F : Statement → Prop) : Prop where
  part : ∀ {header body}, F (.block header body) → ∀ s ∈ body, F s
  refill : ∀ {header body body'}, F (.block header body) → (∀ s ∈ body', F s) →
    F (.block header body')

theorem Statement.compositional_true : Compositional fun _ => True :=
  ⟨fun _ _ _ => trivial, fun _ _ => trivial⟩

namespace Node

theorem detachAll_eq_map (ns : List Node) : detachAll ns = ns.map detach := by
  induction ns with
  | nil => rfl
  | cons n ns ih => rw [detachAll, ih, List.map_cons]

end Node

/-- The nodes are made of fragments with a property. -/
def Node.Consist (F : Statement → Prop) (ns : List Node) : Prop :=
  ∀ n ∈ ns, F n.detach

variable {F : Statement → Prop}

theorem Node.consist_detachAll {ns : List Node} :
    Node.Consist F ns ↔ ∀ s ∈ Node.detachAll ns, F s := by
  rw [Node.detachAll_eq_map]
  exact List.forall_mem_map.symm

theorem Node.consist_append {ns ms : List Node} :
    Node.Consist F (ns ++ ms) ↔ Node.Consist F ns ∧ Node.Consist F ms := by
  exact List.forall_mem_append

theorem Place.consist_fill (hF : Statement.Compositional F) {p : Place}
    {ns : List Node} (h : Node.Consist F (p.fill ns)) :
    Node.Consist F ns ∧ ∀ {ms}, Node.Consist F ms → Node.Consist F (p.fill ms) := by
  induction p with
  | here left right =>
    obtain ⟨hl, hr⟩ := Node.consist_append.mp h
    obtain ⟨hl, hn⟩ := Node.consist_append.mp hl
    exact ⟨hn, fun hm => Node.consist_append.mpr ⟨Node.consist_append.mpr ⟨hl, hm⟩, hr⟩⟩
  | inside left id role header inner right ih =>
    obtain ⟨hl, hr⟩ := Node.consist_append.mp h
    obtain ⟨hb, hr⟩ := List.forall_mem_cons.mp hr
    have hi : Node.Consist F (inner.fill ns) := Node.consist_detachAll.mpr (hF.part hb)
    refine ⟨(ih hi).1, fun hm => Node.consist_append.mpr ⟨hl, List.forall_mem_cons.mpr ⟨?_, hr⟩⟩⟩
    exact hF.refill hb (Node.consist_detachAll.mp ((ih hi).2 hm))

namespace SourceTree

variable {A : Nat → Prop} {t t' : SourceTree}

theorem consist_ofItems {ss : List Statement} (h : ∀ s ∈ ss, F s) :
    Node.Consist F (ofItems ss).items := by
  rw [Node.consist_detachAll, ofItems, Statement.detachAll_attachAll]
  exact h

/-- Changes with such fragments keep a tree that is made of such fragments. -/
theorem Change.consist (h : Change A F t t') (hF : Statement.Compositional F)
    (hc : Node.Consist F t.items) : Node.Consist F t'.items := by
  obtain ⟨p, n, fresh, kept, hi, _, _, hfresh, hkept, hi', _, _⟩ := h
  rw [hi] at hc
  obtain ⟨hn, hfill⟩ := p.consist_fill hF hc
  rw [hi']
  refine hfill (Node.consist_append.mpr ⟨?_, fun m hm => hn m (hkept.mem hm)⟩)
  rw [Node.consist_detachAll, Statement.detachAll_attachAll]
  exact hfresh

theorem Changes.consist (h : Changes A F t t') (hF : Statement.Compositional F)
    (hc : Node.Consist F t.items) : Node.Consist F t'.items := by
  induction h with
  | refl => exact hc
  | tail _ hc ih => exact hc.consist hF ih

theorem consist_statement {id : Nat} {n : Node} (hF : Statement.Compositional F)
    (hc : Node.Consist F t.items) (h : t.statement id = .ok n) : F n.detach := by
  obtain ⟨_, _, p, hp⟩ := exists_place_of_statement h
  rw [hp] at hc
  exact (p.consist_fill hF hc).1 n (by simp)

end SourceTree

end PatchSearch
