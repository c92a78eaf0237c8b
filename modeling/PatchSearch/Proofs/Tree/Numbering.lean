import Mathlib.Algebra.GroupWithZero.Nat
import PatchSearch.Proofs.Tree.Contents

namespace PatchSearch

namespace Statement

mutual

/-- The fragment as a node, each part of which takes the next number of a counter when it is reached. -/
def number (role : Role) : Statement → StateM Nat Node
  | .simple text => do
    let id ← modifyGet fun next => (next, next + 1)
    return .simple id role text
  | .block header body => do
    let id ← modifyGet fun next => (next, next + 1)
    let children ← numberAll (role.inside header) body
    return .block id role header children

def numberAll (role : Role) : List Statement → StateM Nat (List Node)
  | [] => return []
  | s :: ss => do
    let n ← s.number role
    let ns ← numberAll role ss
    return n :: ns

end

mutual

/-- The counter gives the addresses that the sizes give, and goes on by the size. -/
theorem run_number (role : Role) (start : Nat) :
    (s : Statement) → (s.number role).run start = (s.attach role start, start + s.size)
  | .simple _ => rfl
  | .block header body => by
    have hbody := run_numberAll (role.inside header) (start + 1) body
    have hrun : ((Statement.block header body).number role).run start =
        (.block start role header ((numberAll (role.inside header) body).run (start + 1)).1,
          ((numberAll (role.inside header) body).run (start + 1)).2) := rfl
    rw [hrun, hbody, attach, size, Nat.add_assoc]

theorem run_numberAll (role : Role) (start : Nat) :
    (ss : List Statement) →
      (numberAll role ss).run start = (attachAll role start ss, start + sizeAll ss)
  | [] => rfl
  | s :: ss => by
    have hs := run_number role start s
    have hss := run_numberAll role (start + s.size) ss
    have hrun : (numberAll role (s :: ss)).run start =
        (((s.number role).run start).1 ::
            ((numberAll role ss).run ((s.number role).run start).2).1,
          ((numberAll role ss).run ((s.number role).run start).2).2) := rfl
    rw [hrun, hs, hss, attachAll, sizeAll, Nat.add_assoc]

end

theorem sizeAll_eq_sum (ss : List Statement) : sizeAll ss = (ss.map size).sum := by
  induction ss with
  | nil => rfl
  | cons s ss ih => rw [sizeAll, ih, List.map_cons, List.sum_cons]

end Statement

namespace SourceTree

/-- A new tree holds exactly the statements that it is made of, and its addresses are the numbers from
one on in pre-order, one for each part; the counter that gives them ends at the address that is free
next. The same holds of one fragment in any role and from any number on. -/
theorem numbered_faithfully (items : List Statement) :
    ((ofItems items).items.map Node.detach = items ∧
      (ofItems items).entries.map Node.Entry.id = List.range' 1 (items.map Statement.size).sum ∧
      (ofItems items).size = (items.map Statement.size).sum ∧
      (ofItems items).nextId = (items.map Statement.size).sum + 1 ∧
      (Statement.numberAll .member items).run 1 = ((ofItems items).items, (ofItems items).nextId)) ∧
    ∀ (s : Statement) (role : Role) (start : Nat),
      (s.attach role start).detach = s ∧
      ((s.attach role start).entries 0).map Node.Entry.id = List.range' start s.size ∧
      (s.number role).run start = (s.attach role start, start + s.size) := by
  have hdetach : (ofItems items).items.map Node.detach = items := by
    rw [← Node.detachAll_eq_map]
    exact Statement.detachAll_attachAll .member 1 items
  have hids : (ofItems items).entries.map Node.Entry.id =
      List.range' 1 (items.map Statement.size).sum := by
    rw [← Statement.sizeAll_eq_sum]
    exact Statement.idsAll_attachAll .member 1 items
  have hsize : (ofItems items).size = (items.map Statement.size).sum := by
    rw [size, ← List.length_map Node.Entry.id, hids, List.length_range']
  have hnext : (ofItems items).nextId = (items.map Statement.size).sum + 1 := by
    rw [← Statement.sizeAll_eq_sum, Nat.add_comm]
    rfl
  refine ⟨⟨hdetach, hids, hsize, hnext, Statement.run_numberAll .member 1 items⟩, ?_⟩
  intro s role start
  exact ⟨Statement.detach_attach role start s, Statement.ids_attach role start s,
    Statement.run_number role start s⟩

end SourceTree

end PatchSearch
