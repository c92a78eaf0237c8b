import Mathlib.Logic.Function.Basic
import PatchSearch.Proofs.Tree.Splice

namespace PatchSearch.Node

mutual

/-- What the substitution has for the address of the node, or else the node with the substitution carried
out in its body. -/
def subst (σ : Nat → Option (List Node)) : Node → List Node
  | .simple id role text => (σ id).getD [.simple id role text]
  | .block id role header children => (σ id).getD [.block id role header (substAll σ children)]

def substAll (σ : Nat → Option (List Node)) : List Node → List Node
  | [] => []
  | n :: ns => n.subst σ ++ substAll σ ns

end

variable {σ τ : Nat → Option (List Node)}

theorem substAll_append (ns ms : List Node) :
    substAll σ (ns ++ ms) = substAll σ ns ++ substAll σ ms := by
  induction ns with
  | nil => rfl
  | cons n ns ih => rw [List.cons_append, substAll, substAll, ih, List.append_assoc]

theorem subst_of_some {n : Node} {new : List Node} (h : σ n.id = some new) : n.subst σ = new := by
  cases n with
  | simple id role text =>
    have hid : σ id = some new := h
    rw [subst, hid, Option.getD_some]
  | block id role header children =>
    have hid : σ id = some new := h
    rw [subst, hid, Option.getD_some]

mutual

theorem subst_of_none : (n : Node) → (∀ id ∈ n.ids, σ id = none) → n.subst σ = [n]
  | .simple id role text, h => by
    rw [subst, h id (by simp [ids, entries]), Option.getD_none]
  | .block id role header children, h => by
    rw [ids_eq, List.forall_mem_cons] at h
    have hid : σ id = none := h.1
    rw [subst, substAll_of_none children h.2, hid, Option.getD_none]

/-- A substitution that has nothing for the addresses of some nodes leaves them as they are. -/
theorem substAll_of_none : (ns : List Node) → (∀ id ∈ idsAll ns, σ id = none) → substAll σ ns = ns
  | [], _ => rfl
  | n :: ns, h => by
    simp only [idsAll_cons, List.forall_mem_append] at h
    rw [substAll, subst_of_none n h.1, substAll_of_none ns h.2, List.singleton_append]

end

variable {target : Nat} {new : List Node}

mutual

theorem subst_splice (h : ∀ id ∈ idsAll new, σ id = none) : (n : Node) → n.id ≠ target →
    (n.splice target fun _ => new).subst σ = n.subst (Function.update σ target (some new))
  | .simple id role text, hne => by
    have hid : Function.update σ target (some new) id = σ id := Function.update_of_ne hne _ _
    rw [splice, subst, subst, hid]
  | .block id role header children, hne => by
    have hid : Function.update σ target (some new) id = σ id := Function.update_of_ne hne _ _
    rw [splice, subst, subst, hid, substAll_spliceAll h children]

/-- A splice before a substitution that leaves the new nodes alone is part of a larger substitution. -/
theorem substAll_spliceAll (h : ∀ id ∈ idsAll new, σ id = none) : (ns : List Node) →
    substAll σ (spliceAll target (fun _ => new) ns) =
      substAll (Function.update σ target (some new)) ns
  | [] => rfl
  | n :: ns => by
    rw [spliceAll, substAll]
    split
    next he =>
      have hn : Function.update σ target (some new) n.id = some new := by
        rw [he, Function.update_self]
      rw [substAll_append, substAll_of_none new h, substAll_spliceAll h ns, subst_of_some hn]
    next hne => rw [substAll, subst_splice h n hne, substAll_spliceAll h ns]

end

/-- Something that can be seen of nodes at a depth, one after the other: of a block it shows no more of
the body than what can be seen there. -/
structure Observable {α : Type} (see : Nat → List Node → List α) : Prop where
  append : ∀ d ns ms, see d (ns ++ ms) = see d ns ++ see d ms
  block : ∀ {d id role header cs cs'}, see (d + 1) cs = see (d + 1) cs' →
    see d [.block id role header cs] = see d [.block id role header cs']

variable {α : Type} {see : Nat → List Node → List α}

theorem see_getD {d : Nat} {x y : Option (List Node)} {ns ms : List Node}
    (h : x.map (see d) = y.map (see d)) (hn : see d ns = see d ms) :
    see d (x.getD ns) = see d (y.getD ms) := by
  cases x with
  | none => cases y with
    | none => exact hn
    | some _ => cases h
  | some _ => cases y with
    | none => cases h
    | some _ => exact Option.some.inj h

mutual

theorem see_subst (h : Observable see) (hsame : ∀ id d, (σ id).map (see d) = (τ id).map (see d))
    (d : Nat) : (n : Node) → see d (n.subst σ) = see d (n.subst τ)
  | .simple id _ _ => see_getD (hsame id d) rfl
  | .block id _ _ children =>
    see_getD (hsame id d) (h.block (see_substAll h hsame (d + 1) children))

/-- Substitutions by nodes that look the same have results that look the same. -/
theorem see_substAll (h : Observable see) (hsame : ∀ id d, (σ id).map (see d) = (τ id).map (see d))
    (d : Nat) : (ns : List Node) → see d (substAll σ ns) = see d (substAll τ ns)
  | [] => rfl
  | n :: ns => by
    rw [substAll, substAll, h.append, h.append, see_subst h hsame d n, see_substAll h hsame d ns]

end

theorem observable_detachAll : Observable fun _ ns => detachAll ns where
  append _ ns ms := by
    induction ns with
    | nil => rfl
    | cons n ns ih => rw [List.cons_append, detachAll, detachAll, ih, List.cons_append]
  block h := by simpa [detachAll, detach] using h

theorem observable_filter (p : Entry → Bool) : Observable fun d ns =>
    (entriesAll d ns).filter p where
  append d ns ms := by rw [entriesAll_append, List.filter_append]
  block h := by simp [entriesAll, entries, List.filter_cons, h]

end PatchSearch.Node
