import PatchSearch.Edit.Mutation
import PatchSearch.Failure
import PatchSearch.Generation.Fence
import PatchSearch.Generation.Template

namespace PatchSearch

/-- Answers prompts. `ω` is whatever the answers depend on and change. -/
abbrev Backend (ω : Type) := (prompt : String) → StateM ω (Except Failure String)

def GeneratedEdit.ofResponse (destination : Nat) (prompt response : String) : GeneratedEdit :=
  let read? (block : String) : Option GeneratedEdit :=
    match Statement.parse block with
    | .ok s => some ⟨destination, some s, Text.trimmed block, prompt, response⟩
    | .error _ => none
  ((Fence.blocksOf response).findSome? read?).getD (noSuggestion destination prompt response)

structure Generator (ω : Type) where
  backend : Backend ω
  project : String

namespace Generator

variable {ω : Type}

/-- The values of the tags in a prompt about one statement. -/
def values (g : Generator ω) (t : SourceTree) (destination : Nat) (known : Tag.Values) :
    Tag.Values :=
  ((known.set .count "1").set .destination ((t.nodeText? destination).getD "")).set .project
    g.project

/-- One replacement for a random statement in the target method; none if the method has no statements. -/
def generate (g : Generator ω) (t : SourceTree) (rng : Random) (template : Template)
    (known : Tag.Values) : StateM ω (Option GeneratedEdit × Random) :=
  match t.randomId true rng with
  | (none, rng) => pure (none, rng)
  | (some destination, rng) => do
    let prompt := template.render (g.values t destination known)
    match ← g.backend prompt with
    | .error _ => return (some (.noSuggestion destination prompt ""), rng)
    | .ok response => return (some (.ofResponse destination prompt response), rng)

end Generator

end PatchSearch
