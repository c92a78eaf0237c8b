import PatchSearch.Failure
import PatchSearch.Tree.Basic

namespace PatchSearch

structure Target where
  className : String
  method : String
  tests : List String
  tree : SourceTree
deriving Repr, DecidableEq

def Target.ofSource (source className method : String) (tests : List String) :
    Except Failure Target := do
  let tree ← (SourceTree.parse source).mapError fun e =>
    .ofText ("failed to parse " ++ className ++ ": " ++ e.message)
  let tree ← (tree.focus method).mapError fun e => .ofText e.message
  return ⟨className, method, tests, tree⟩

end PatchSearch
