import PatchSearch.Decimal.Layout

namespace PatchSearch

structure Feedback where
  /-- The measure of the program before any edit. -/
  baseline : Option Float
  /-- One line for each edit, the oldest first. -/
  entries : List String
deriving Repr

namespace Feedback

def empty : Feedback := ⟨none, []⟩

def capacity : Nat := 5

def entry (description : String) (fitness : Float) : String :=
  "the following edit: " ++ description ++ " had fitness " ++ Decimal.display fitness

def keepLast (entries : List String) : List String :=
  entries.drop (entries.length - capacity)

def push (f : Feedback) (description : String) (fitness : Float) : Feedback :=
  { f with entries := keepLast (f.entries ++ [entry description fitness]) }

/-- The text for a prompt; empty as long as there is no entry. -/
def render (f : Feedback) : String :=
  if f.entries.isEmpty then ""
  else
    let preamble := "These are edits you suggested previously and the fitness each one " ++
      "measured (lower is better)."
    let comparison := match f.baseline with
      | none => ""
      | some x => " The original program had fitness " ++ Decimal.display x ++
          " and we want to do better."
    preamble ++ comparison ++ "\n" ++ String.join (f.entries.map (· ++ "\n"))

end Feedback

end PatchSearch
