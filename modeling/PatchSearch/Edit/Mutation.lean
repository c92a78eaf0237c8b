import PatchSearch.Edit.Basic
import PatchSearch.Random

namespace PatchSearch

/-- A random statement, of the whole program or of the target method only; none if there are no
statements. -/
def SourceTree.randomId (t : SourceTree) (inMethod : Bool) (g : Random) : Option Nat × Random :=
  g.choose (t.statementIds inMethod)

/-- An edit of a kind with its addresses drawn from the target method. -/
def StructuralEdit.random (kind : EditKind) (t : SourceTree) (g : Random) :
    Option StructuralEdit × Random :=
  match t.randomId true g with
  | (none, g) => (none, g)
  | (some first, g) =>
    let pair (edit : Nat → Nat → StructuralEdit) : Option StructuralEdit × Random :=
      let (second, g) := t.randomId true g
      (second.map (edit first), g)
    match kind with
    | .delete => (some (.delete first), g)
    | .copy => pair .copy
    | .replace => pair .replace
    | .swap => pair .swap
    | .move => pair .move

structure Mutator where
  kinds : List EditKind
deriving Repr, DecidableEq

namespace Mutator

def ofKinds (kinds : List EditKind) : Mutator :=
  ⟨if kinds.isEmpty then EditKind.all else kinds⟩

def randomEdit (m : Mutator) (t : SourceTree) (g : Random) : Option Edit × Random :=
  match g.choose m.kinds with
  | (none, g) => (none, g)
  | (some kind, g) =>
    let (edit, g) := StructuralEdit.random kind t g
    (edit.map .structural, g)

/-- The program that a patch makes of `base`, or `base` itself if the patch does not apply. -/
def current (p : Patch) (base : SourceTree) : SourceTree :=
  match p.apply base with
  | .ok t => t
  | .error _ => base

/-- The patch with one random edit more; the same patch if there is nothing to edit. -/
def mutate (m : Mutator) (p : Patch) (base : SourceTree) (g : Random) : Patch × Random :=
  match m.randomEdit (current p base) g with
  | (some edit, g) => (p.add edit, g)
  | (none, g) => (p, g)

/-- `n` mutations of one patch. -/
def mutants (m : Mutator) (p : Patch) (base : SourceTree) : (n : Nat) → Random → List Patch × Random
  | 0, g => ([], g)
  | n + 1, g =>
    let (first, g) := m.mutate p base g
    let (rest, g) := m.mutants p base n g
    (first :: rest, g)

end Mutator

end PatchSearch
