import PatchSearch.Shell.CharSet

namespace PatchSearch.Shell

inductive GlobPart where
  | one (test : Char → Bool)
  | star

abbrev Glob := List GlobPart

namespace Glob

/-- The pattern that characters are; only those with a flag are signs. -/
def read : (left : Nat) → List (Char × Bool) → Glob
  | 0, _ => []
  | _, [] => []
  | left + 1, (c, active) :: cs =>
    if active ∧ c = '*' then .star :: read left cs
    else if active ∧ c = '?' then .one (fun _ => true) :: read left cs
    else if active ∧ c = '\\' ∧ cs ≠ [] then
      .one (fun x => some x == cs.head?.map Prod.fst) :: read left cs.tail
    else
      let negated := cs.head? = some ('!', true)
      let members := if negated then cs.tail else cs
      match if active ∧ c = '[' then members? members else none with
      | some (test, n) => .one (fun x => test x != negated) :: read left (members.drop n)
      | none => .one (· == c) :: read left cs

def ofText (cs : List Char) : Glob :=
  read cs.length (cs.map fun c => (c, true))

def anyThen (rest : List Char → Bool) : List Char → Bool
  | [] => rest []
  | c :: cs => rest (c :: cs) || anyThen rest cs

def isFor : Glob → List Char → Bool
  | [] => List.isEmpty
  | .star :: parts => anyThen (isFor parts)
  | .one test :: parts => fun
    | [] => false
    | c :: cs => test c && isFor parts cs

end Glob

end PatchSearch.Shell
