import PatchSearch.Text.Blank

namespace PatchSearch

/-- A program fragment. A block with an empty header is a bare pair of braces. -/
inductive Statement where
  | simple (text : String)
  | block (header : String) (body : List Statement)
deriving Repr, Inhabited

namespace Statement

mutual

/-- The number of statements in a fragment, the fragment itself included. -/
def size : Statement → Nat
  | .simple _ => 1
  | .block _ body => 1 + sizeAll body

/-- The number of statements in a list of fragments. -/
def sizeAll : List Statement → Nat
  | [] => 0
  | s :: ss => s.size + sizeAll ss

end

mutual

def decEq : (a b : Statement) → Decidable (a = b)
  | .simple a, .simple b =>
    if h : a = b then isTrue (by rw [h]) else isFalse (by simp [h])
  | .block h b, .block h' b' =>
    if hh : h = h' then
      match decEqAll b b' with
      | isTrue hb => isTrue (by rw [hh, hb])
      | isFalse hb => isFalse (by simp [hb])
    else isFalse (by simp [hh])
  | .simple _, .block _ _ => isFalse (by simp)
  | .block _ _, .simple _ => isFalse (by simp)

def decEqAll : (a b : List Statement) → Decidable (a = b)
  | [], [] => isTrue rfl
  | a :: as, b :: bs =>
    match decEq a b, decEqAll as bs with
    | isTrue h, isTrue h' => isTrue (by rw [h, h'])
    | isFalse h, _ => isFalse (by simp [h])
    | _, isFalse h => isFalse (by simp [h])
  | [], _ :: _ => isFalse (by simp)
  | _ :: _, [] => isFalse (by simp)

end

instance : DecidableEq Statement := decEq

/-- A line without any mark in it; no program text is read as one. -/
def isVoid : Statement → Bool
  | .simple text => Text.isBlankText text
  | .block _ _ => false

/-- One row of a fragment's outline: how deep it stands, whether it is a block, and its text or
header. -/
structure Row where
  depth : Nat
  isBlock : Bool
  text : String
deriving Repr, DecidableEq

mutual

/-- The fragment and its parts in pre-order. -/
def outline (depth : Nat) : Statement → List Row
  | .simple text => [⟨depth, false, text⟩]
  | .block header body => ⟨depth, true, header⟩ :: outlineAll (depth + 1) body

def outlineAll (depth : Nat) : List Statement → List Row
  | [] => []
  | s :: ss => s.outline depth ++ outlineAll depth ss

end

end Statement

end PatchSearch
