import PatchSearch.Failure
import PatchSearch.Tree.Basic

namespace PatchSearch

/-- The ways to rearrange statements that are already there. -/
inductive EditKind where
  | delete
  | copy
  | replace
  | swap
  | move
deriving Repr, DecidableEq

namespace EditKind

def all : List EditKind := [.delete, .copy, .replace, .swap, .move]

def name : EditKind → String
  | .delete => "delete"
  | .copy => "copy"
  | .replace => "replace"
  | .swap => "swap"
  | .move => "move"

/-- The kind with exactly this name. -/
def ofName? (s : String) : Option EditKind :=
  all.find? fun kind => kind.name = s

/-- The kind with this name, blanks around it and the case of ASCII letters aside. -/
def read? (s : String) : Option EditKind :=
  all.find? fun kind => kind.name.toList = (Text.trim s.toList).map Char.toLower

def parse (s : String) : Except UnknownName EditKind :=
  (read? s).elim (.error ⟨"edit kind", s⟩) .ok

end EditKind

/-- A rearrangement of statements, by their addresses. -/
inductive StructuralEdit where
  | delete (target : Nat)
  /-- Inserts a copy of the source before the destination. -/
  | copy (source destination : Nat)
  /-- Puts a copy of the source in the place of the destination. -/
  | replace (source destination : Nat)
  | swap (first second : Nat)
  /-- Inserts a copy of the source before the destination and takes the source out. -/
  | move (source destination : Nat)
deriving Repr, DecidableEq

/-- What a generation backend proposed for one statement. Without a replacement, because the answer
held no usable code, it changes nothing. -/
structure GeneratedEdit where
  destination : Nat
  replacement : Option Statement
  /-- The code block that the replacement was read from. -/
  replacementText : String
  prompt : String
  response : String
deriving Repr, DecidableEq

inductive Edit where
  | generated (edit : GeneratedEdit)
  | structural (edit : StructuralEdit)
deriving Repr, DecidableEq

namespace StructuralEdit

def kind : StructuralEdit → EditKind
  | .delete _ => .delete
  | .copy _ _ => .copy
  | .replace _ _ => .replace
  | .swap _ _ => .swap
  | .move _ _ => .move

/-- The fragment at an address, if it is there. Members cannot be used as statements. -/
def fragment? (t : SourceTree) (id : Nat) : Except TreeError (Option Statement) :=
  match t.node? id with
  | none => .ok none
  | some n =>
    if n.isStatement then .ok (some n.detach)
    else .error (.mismatch id "source is a member declaration")

def apply (t : SourceTree) : StructuralEdit → Except TreeError SourceTree
  | .delete target => if t.contains target then t.remove target else .ok t
  | .copy source destination => do
    match ← fragment? t source with
    | none => return t
    | some s => if t.contains destination then t.insertBefore destination s else return t
  | .replace source destination =>
    if source = destination then .ok t
    else do
      match ← fragment? t source with
      | none => return t
      | some s => if t.contains destination then t.replace destination s else return t
  | .swap first second =>
    if first = second then .ok t
    else do
      match ← fragment? t first, ← fragment? t second with
      | some a, some b =>
        if t.isAncestor first second || t.isAncestor second first then
          .error (.mismatch first s!"cannot swap with nested node {second}")
        else
          let t ← t.replace first b
          t.replace second a
      | _, _ => return t
  | .move source destination =>
    if source = destination then .ok t
    else do
      match ← fragment? t source with
      | none => return t
      | some s =>
        if !t.contains destination then return t
        else if t.isAncestor source destination then
          .error (.mismatch source s!"cannot move into own descendant {destination}")
        else
          let t ← t.insertBefore destination s
          t.remove source

def describe : StructuralEdit → String
  | .delete target => s!"delete {target}"
  | .copy source destination => s!"copy {source} -> before {destination}"
  | .replace source destination => s!"replace {destination} with {source}"
  | .swap first second => s!"swap {first} <-> {second}"
  | .move source destination => s!"move {source} -> before {destination}"

end StructuralEdit

namespace GeneratedEdit

/-- The edit that stands for an answer without usable code. -/
def noSuggestion (destination : Nat) (prompt response : String) : GeneratedEdit :=
  ⟨destination, none, "", prompt, response⟩

def isSentinel (e : GeneratedEdit) : Bool :=
  e.replacement.isNone

def apply (t : SourceTree) (e : GeneratedEdit) : Except TreeError SourceTree :=
  match e.replacement with
  | none => .ok t
  | some s =>
    if !t.contains e.destination then .ok t
    else if s.isVoid then .error (.mismatch e.destination "replacement is empty")
    else t.replace e.destination s

def describe (e : GeneratedEdit) : String :=
  let what := match e.replacement with
    | none => "(no suggestion)"
    | some s => Text.oneLine s.render
  s!"llm-replace {e.destination} -> {what}"

end GeneratedEdit

namespace Edit

def apply (t : SourceTree) : Edit → Except TreeError SourceTree
  | .generated e => e.apply t
  | .structural e => e.apply t

def describe : Edit → String
  | .generated e => e.describe
  | .structural e => e.describe

end Edit

structure Patch where
  edits : List Edit
deriving Repr, DecidableEq

namespace Patch

def empty : Patch := ⟨[]⟩

def size (p : Patch) : Nat :=
  p.edits.length

def isEmpty (p : Patch) : Bool :=
  p.edits.isEmpty

def add (p : Patch) (e : Edit) : Patch :=
  ⟨p.edits ++ [e]⟩

/-- The patch without the edit at an index. -/
def eraseAt (p : Patch) (i : Nat) : Patch :=
  ⟨p.edits.eraseIdx i⟩

/-- Applies the edits from left to right; the first failure ends it. -/
def apply (p : Patch) (t : SourceTree) : Except TreeError SourceTree :=
  p.edits.foldlM Edit.apply t

def describe (p : Patch) : String :=
  if p.edits.isEmpty then "<empty patch>"
  else " | ".intercalate (p.edits.map Edit.describe)

end Patch

end PatchSearch
