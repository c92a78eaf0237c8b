import PatchSearch.Edit.Basic
import PatchSearch.Json.Decode
import PatchSearch.Json.Writer

namespace PatchSearch

mutual

def Statement.toJson : Statement → Json
  | .simple text => .object [("Simple", .string text)]
  | .block header body =>
    .object [("Block", .object [("header", .string header), ("body", .array (Statement.toJsonAll body))])]

def Statement.toJsonAll : List Statement → List Json
  | [] => []
  | s :: ss => s.toJson :: Statement.toJsonAll ss

end

def Statement.ofJson? (j : Json) : Option Statement :=
  match j with
  | .object [("Simple", text)] => text.string?.map .simple
  | .object [("Block", content)] =>
    match hr : content.record? ["header", "body"] with
    | none => none
    | some r =>
      match hb : r.fields.lookup "body" with
      | some (.array items) => do
        let header ← r.required "header" Json.string?
        let body ← items.attach.mapM fun ⟨i, hi⟩ =>
          have := Json.sizeOf_field_lt hr hb
          have := List.sizeOf_lt_of_mem hi
          have : sizeOf i < sizeOf content := by
            simp only [Json.array.sizeOf_spec] at *
            omega
          Statement.ofJson? i
        return .block header body
      | _ => none
  | _ => none
termination_by sizeOf j
decreasing_by
  simp
  omega

namespace StructuralEdit

def addresses : StructuralEdit → List (String × Nat)
  | .delete target => [("target", target)]
  | .copy source destination | .replace source destination | .move source destination =>
    [("source", source), ("destination", destination)]
  | .swap first second => [("first", first), ("second", second)]

def toJson (e : StructuralEdit) : Json :=
  .object (("kind", .string e.kind.name) :: e.addresses.map fun (name, id) => (name, .natural id))

def pair? (first second : String) (j : Json) : Option (Nat × Nat) := do
  let r ← j.record? [first, second]
  return (← r.required first Json.nat?, ← r.required second Json.nat?)

def ofJson? (j : Json) : Option StructuralEdit := do
  let (kind, rest) ← j.tagged? "kind"
  match ← EditKind.ofName? kind with
  | .delete => return .delete (← (← rest.record? ["target"]).required "target" Json.nat?)
  | .copy => (pair? "source" "destination" rest).map fun (s, d) => .copy s d
  | .replace => (pair? "source" "destination" rest).map fun (s, d) => .replace s d
  | .swap => (pair? "first" "second" rest).map fun (a, b) => .swap a b
  | .move => (pair? "source" "destination" rest).map fun (s, d) => .move s d

end StructuralEdit

namespace GeneratedEdit

def toJson (e : GeneratedEdit) : Json :=
  .object [("destination", .natural e.destination),
    ("replacement", .nullable (e.replacement.map Statement.toJson)),
    ("replacement_text", .string e.replacementText),
    ("prompt", .string e.prompt),
    ("response", .string e.response)]

def ofJson? (j : Json) : Option GeneratedEdit := do
  let r ← j.record? ["destination", "replacement", "replacement_text", "prompt", "response"]
  return {
    destination := ← r.required "destination" Json.nat?
    replacement := ← r.optional "replacement" Statement.ofJson?
    replacementText := ← r.required "replacement_text" Json.string?
    prompt := ← r.required "prompt" Json.string?
    response := ← r.required "response" Json.string? }

end GeneratedEdit

namespace Edit

def toJson : Edit → Json
  | .generated e => .object [("generated", e.toJson)]
  | .structural e => .object [("structural", e.toJson)]

def ofJson? : Json → Option Edit
  | .object [("generated", j)] => (GeneratedEdit.ofJson? j).map .generated
  | .object [("structural", j)] => (StructuralEdit.ofJson? j).map .structural
  | _ => none

end Edit

namespace Patch

def toJson (p : Patch) : Json :=
  .object [("edits", .array (p.edits.map Edit.toJson))]

def ofJson? (j : Json) : Option Patch := do
  return ⟨← (← j.record? ["edits"]).required "edits" (Json.list? Edit.ofJson?)⟩

/-- The text of a patch on one line. -/
def encode (p : Patch) : String :=
  p.toJson.write

def decode? (text : String) : Option Patch := do
  ofJson? (← Json.parse? text)

end Patch

end PatchSearch
