import Mathlib.Data.List.Basic
import PatchSearch.Tree.Basic

namespace PatchSearch

namespace Node

/-- The entry of the node itself. -/
def entry (depth : Nat) : Node → Entry
  | .simple id role text => ⟨id, depth, role, false, text⟩
  | .block id role header _ => ⟨id, depth, role, true, header⟩

/-- The addresses of the node and its parts, in pre-order. -/
def ids (n : Node) : List Nat :=
  (n.entries 0).map Entry.id

/-- The addresses of nodes and their parts, in pre-order. -/
def idsAll (ns : List Node) : List Nat :=
  (entriesAll 0 ns).map Entry.id

@[simp] theorem entry_id (n : Node) (depth : Nat) : (n.entry depth).id = n.id := by
  cases n <;> rfl

@[simp] theorem entry_role (n : Node) (depth : Nat) : (n.entry depth).role = n.role := by
  cases n <;> rfl

theorem entries_eq (n : Node) (depth : Nat) :
    n.entries depth = n.entry depth :: entriesAll (depth + 1) n.children := by
  cases n <;> simp [entries, entry, children, entriesAll]

theorem entriesAll_append (ns ms : List Node) (depth : Nat) :
    entriesAll depth (ns ++ ms) = entriesAll depth ns ++ entriesAll depth ms := by
  induction ns with
  | nil => rfl
  | cons n ns ih => rw [List.cons_append, entriesAll, entriesAll, ih, List.append_assoc]

mutual

theorem map_id_entries (depth depth' : Nat) :
    (n : Node) → (n.entries depth).map Entry.id = (n.entries depth').map Entry.id
  | .simple _ _ _ => rfl
  | .block id role header children => by
    rw [entries, entries, List.map_cons, List.map_cons,
      map_id_entriesAll (depth + 1) (depth' + 1) children]

/-- Addresses do not depend on the depth. -/
theorem map_id_entriesAll (depth depth' : Nat) :
    (ns : List Node) → (entriesAll depth ns).map Entry.id = (entriesAll depth' ns).map Entry.id
  | [] => rfl
  | n :: ns => by
    rw [entriesAll, entriesAll, List.map_append, List.map_append, map_id_entries depth depth' n,
      map_id_entriesAll depth depth' ns]

end

theorem ids_eq (n : Node) : n.ids = n.id :: idsAll n.children := by
  rw [ids, entries_eq, List.map_cons, entry_id, idsAll, map_id_entriesAll 1 0]

theorem idsAll_append (ns ms : List Node) : idsAll (ns ++ ms) = idsAll ns ++ idsAll ms := by
  rw [idsAll, entriesAll_append, List.map_append]
  rfl

theorem idsAll_cons (n : Node) (ns : List Node) : idsAll (n :: ns) = n.ids ++ idsAll ns := by
  rw [idsAll, entriesAll, List.map_append]
  rfl

@[simp] theorem idsAll_nil : idsAll [] = [] := rfl

theorem idsAll_singleton (n : Node) : idsAll [n] = n.ids := by
  rw [idsAll_cons, idsAll_nil, List.append_nil]

theorem idsAll_sublist {ns ms : List Node} (h : ns.Sublist ms) :
    (idsAll ns).Sublist (idsAll ms) := by
  induction h with
  | slnil => exact List.Sublist.refl _
  | cons n _ ih =>
    rw [idsAll_cons]
    exact ih.trans (List.sublist_append_right _ _)
  | cons_cons n _ ih =>
    rw [idsAll_cons, idsAll_cons]
    exact ih.append_left _

end Node

/-- A list of nodes with a gap in it or in the body of one of its blocks. -/
inductive Place where
  | here (left right : List Node)
  | inside (left : List Node) (id : Nat) (role : Role) (header : String) (inner : Place)
      (right : List Node)

namespace Place

/-- The nodes with others in the gap. -/
def fill : Place → List Node → List Node
  | .here left right, ns => left ++ ns ++ right
  | .inside left id role header inner right, ns =>
    left ++ .block id role header (inner.fill ns) :: right

/-- The number of blocks around the gap. -/
def depth : Place → Nat
  | .here _ _ => 0
  | .inside _ _ _ _ inner _ => inner.depth + 1

/-- The entries before the gap of nodes at a depth. -/
def before (d : Nat) : Place → List Node.Entry
  | .here left _ => Node.entriesAll d left
  | .inside left id role header inner _ =>
    Node.entriesAll d left ++ ⟨id, d, role, true, header⟩ :: inner.before (d + 1)

/-- The entries after the gap of nodes at a depth. -/
def after (d : Nat) : Place → List Node.Entry
  | .here _ right => Node.entriesAll d right
  | .inside _ _ _ _ inner right => inner.after (d + 1) ++ Node.entriesAll d right

theorem entriesAll_fill (p : Place) (ns : List Node) (d : Nat) :
    Node.entriesAll d (p.fill ns) =
      p.before d ++ Node.entriesAll (d + p.depth) ns ++ p.after d := by
  induction p generalizing d with
  | here left right => simp [fill, before, after, depth, Node.entriesAll_append]
  | inside left id role header inner right ih =>
    have hd : d + 1 + inner.depth = d + (inner.depth + 1) := by omega
    simp [fill, before, after, depth, Node.entriesAll_append, Node.entriesAll, Node.entries, ih, hd]

/-- The addresses outside the gap. -/
def ids (p : Place) : List Nat :=
  (p.before 0).map Node.Entry.id ++ (p.after 0).map Node.Entry.id

theorem map_id_before (p : Place) (d d' : Nat) :
    (p.before d).map Node.Entry.id = (p.before d').map Node.Entry.id := by
  induction p generalizing d d' with
  | here left right => exact Node.map_id_entriesAll d d' left
  | inside left id role header inner right ih =>
    simp only [before, List.map_append, List.map_cons, Node.map_id_entriesAll d d',
      ih (d + 1) (d' + 1)]

theorem map_id_after (p : Place) (d d' : Nat) :
    (p.after d).map Node.Entry.id = (p.after d').map Node.Entry.id := by
  induction p generalizing d d' with
  | here left right => exact Node.map_id_entriesAll d d' right
  | inside left id role header inner right ih =>
    simp only [after, List.map_append, Node.map_id_entriesAll d d', ih (d + 1) (d' + 1)]

theorem mem_ids_of_before {p : Place} {d : Nat} {e : Node.Entry} (h : e ∈ p.before d) :
    e.id ∈ p.ids := by
  rw [ids, p.map_id_before 0 d]
  exact List.mem_append_left _ (List.mem_map_of_mem h)

theorem mem_ids_of_after {p : Place} {d : Nat} {e : Node.Entry} (h : e ∈ p.after d) :
    e.id ∈ p.ids := by
  rw [ids, p.map_id_after 0 d]
  exact List.mem_append_right _ (List.mem_map_of_mem h)

theorem idsAll_fill (p : Place) (ns : List Node) :
    Node.idsAll (p.fill ns) =
      (p.before 0).map Node.Entry.id ++ Node.idsAll ns ++ (p.after 0).map Node.Entry.id := by
  rw [Node.idsAll, entriesAll_fill, List.map_append, List.map_append, Node.map_id_entriesAll _ 0]
  rfl

theorem idsAll_fill_perm (p : Place) (ns : List Node) :
    (Node.idsAll (p.fill ns)).Perm (Node.idsAll ns ++ p.ids) := by
  rw [idsAll_fill, ids, ← List.append_assoc]
  exact List.perm_append_comm.append_right _

theorem idsAll_fill_singleton (p : Place) (n : Node) :
    (Node.idsAll (p.fill [n])).Perm (n.id :: (Node.idsAll n.children ++ p.ids)) := by
  rw [← List.cons_append, ← Node.ids_eq, ← Node.idsAll_singleton]
  exact p.idsAll_fill_perm [n]

theorem not_mem_ids_of_nodup {p : Place} {ns : List Node} (h : (Node.idsAll (p.fill ns)).Nodup)
    {id : Nat} (hm : id ∈ Node.idsAll ns) : id ∉ p.ids := by
  have hn := (p.idsAll_fill_perm ns).nodup_iff.mp h
  exact fun hp => (List.nodup_append.mp hn).2.2 id hm id hp rfl

end Place

end PatchSearch
