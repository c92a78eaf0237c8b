import PatchSearch.Files.Basic
import PatchSearch.Shell.Glob
import PatchSearch.Text.Bytewise

namespace PatchSearch.Shell

inductive Glyph where
  | solid (c : Char)
  /-- A character of a word as it is typed, which may be a sign of a pattern. -/
  | plain (c : Char)
  /-- A character of a value, which may be a sign of a pattern or a separator. -/
  | loose (c : Char)
  /-- What quotes leave even if they hold nothing. -/
  | mark
  | gap
deriving Repr, DecidableEq

namespace Glyph

def ofText (quoted : Bool) (cs : List Char) : List Glyph :=
  if quoted then .mark :: cs.map .solid else cs.map .loose

def char? : Glyph → Option Char
  | .solid c | .plain c | .loose c => some c
  | .mark | .gap => none

/-- The characters, whatever they may mean. -/
def text (gs : List Glyph) : List Char :=
  gs.filterMap char?

/-- The same glyphs where all that is typed may be a separator. -/
def loosen (gs : List Glyph) : List Glyph :=
  gs.map fun
    | .plain c => .loose c
    | g => g

/-- The characters with the flag on those that may be signs. -/
def signs (gs : List Glyph) : List (Char × Bool) :=
  gs.filterMap fun
    | .solid c => some (c, false)
    | .plain c | .loose c => some (c, true)
    | .mark | .gap => none

def pattern (gs : List Glyph) : Glob :=
  Glob.read gs.length (signs gs)

def isFor (gs : List Glyph) (cs : List Char) : Bool :=
  (pattern gs).isFor cs

def isPattern (gs : List Glyph) : Bool :=
  (signs gs).any fun (c, active) => active && (c == '*' || c == '?' || c == '[')

/-- Whether a glyph is a separator that is a blank, or another one. -/
def isBlank (separators : List Char) : Glyph → Bool
  | .loose c => separators.contains c && (c == ' ' || c == '\t' || c == '\n')
  | _ => false

def isDelimiter (separators : List Char) : Glyph → Bool
  | .loose c => separators.contains c && !(c == ' ' || c == '\t' || c == '\n')
  | _ => false

structure FieldState where
  done : List (List Glyph)
  current : Option (List Glyph)
  /-- Whether only blanks stood since a field ended at one; a delimiter then belongs to them. -/
  afterBlank : Bool

def FieldState.take (separators : List Char) (st : FieldState) (g : Glyph) : FieldState :=
  if g = .gap then ⟨st.done ++ st.current.toList, none, false⟩
  else if g.isBlank separators then
    match st.current with
    | some field => ⟨st.done ++ [field], none, true⟩
    | none => st
  else if g.isDelimiter separators then
    match st.current with
    | some field => ⟨st.done ++ [field], none, false⟩
    | none => if st.afterBlank then { st with afterBlank := false } else ⟨st.done ++ [[]], none, false⟩
  else { st with current := some (st.current.getD [] ++ [g]), afterBlank := false }

def fields (separators : List Char) (gs : List Glyph) : List (List Glyph) :=
  let st := gs.foldl (FieldState.take separators) ⟨[], none, false⟩
  st.done ++ st.current.toList

def parts (gs : List Glyph) : List (List Glyph) :=
  gs.foldr (fun g parts =>
    match parts with
    | [] => [[g]]
    | part :: rest => if g.char? = some '/' then [] :: part :: rest else (g :: part) :: rest) [[]]

/-- The paths from a place that parts are patterns for. Hidden names need a pattern that starts with
a point. -/
def paths (fs : Files) : (place : List String) → List (List Glyph) → List (List Char)
  | _, [] => []
  | place, part :: rest =>
    let listed : List String :=
      if fs.isDirectory place then "." :: ".." :: fs.names place else []
    let isShown (name : List Char) : Bool :=
      isFor part name && (name.head? != some '.' || (text part).head? == some '.')
    let names : List (List Char) :=
      if isPattern part then (listed.map fun n => (Text.bytewise n).toList).filter isShown
      else [text part]
    names.flatMap fun name =>
      match fs.walk true Files.maxLinks place [Text.fromBytewise (String.ofList name)] with
      | .error _ => []
      | .ok next =>
        if rest = [] then if (fs.entry? next).isSome ∨ isPattern part then [name] else []
        else if fs.isDirectory next then (paths fs next rest).map fun path => name ++ '/' :: path
        else []

/-- What a field stands for: the paths that it is a pattern for, in their order, or else itself. -/
def spread (fs : Files) (directory : List String) (gs : List Glyph) : List String :=
  let found := if isPattern gs then
      paths fs (if (text gs).head? = some '/' then [] else directory) (parts gs)
    else []
  match found.mergeSort Text.isAtMost with
  | [] => [String.ofList (text gs)]
  | found => found.map String.ofList

/-- A value without a beginning or an end that glyphs are a pattern for, the longest or the
shortest. -/
def trim (gs : List Glyph) (atEnd longest : Bool) (cs : List Char) : List Char :=
  let counts := List.range (cs.length + 1)
  let counts := if longest then counts.reverse else counts
  if atEnd then
    match counts.find? fun n => isFor gs (cs.drop (cs.length - n)) with
    | some n => cs.take (cs.length - n)
    | none => cs
  else
    match counts.find? fun n => isFor gs (cs.take n) with
    | some n => cs.drop n
    | none => cs

end Glyph

end PatchSearch.Shell
