import PatchSearch.Text.Alphanumeric
import PatchSearch.Text.Blank
import PatchSearch.Text.Search

namespace PatchSearch.Header

def typeKeywords : List String :=
  ["class", "interface", "enum", "record", "struct", "namespace", "@interface"]

/-- Whether a header declares a type: one of its words, cut at blanks and at opening angle brackets,
is a type keyword. -/
def isTypeHeader (header : String) : Bool :=
  (Text.splitWhen (fun c => Text.isBlank c || c == '<') header.toList).any fun word =>
    typeKeywords.contains (String.ofList word)

/-- The identifier in a method name, which may carry a parameter list. -/
def identifier (name : String) : List Char :=
  Text.trim (name.toList.takeWhile (· ≠ '('))

/-- A header with one space for each run of blanks, and none before a parenthesis or at either
end. `begun` says that a character was written, `gap` that blanks were read since then. -/
def compact (begun gap : Bool) : List Char → List Char
  | [] => []
  | c :: cs =>
    if Text.isBlank c then compact begun true cs
    else if gap && c != '(' && begun then ' ' :: c :: compact true false cs
    else c :: compact true false cs

/-- Characters that make the name after them part of a longer one. -/
def joinsName (c : Char) : Bool :=
  Text.isAlphanumeric c || c == '_' || c == '.'

/-- Whether a text begins or ends a name, so that another name can follow. -/
def endsName (cs : List Char) : Bool :=
  match cs.getLast? with
  | none => true
  | some c => !joinsName c

/-- Whether `needle` stands somewhere after `seen` as a name of its own. Occurrences are taken from
the left without overlap. -/
def occursAsName (needle seen cs : List Char) : Bool :=
  if hn : needle = [] then false
  else
    match h : Text.cutAt? needle cs with
    | none => false
    | some (before, after) =>
      have : after.length < cs.length := by
        have := Text.length_of_cutAt? h
        have := List.length_pos_iff.mpr hn
        omega
      endsName (seen ++ before) || occursAsName needle needle after
termination_by cs.length

/-- Whether a header declares a method or constructor called `name`. -/
def declaresMethod (header name : String) : Bool :=
  let ident := identifier name
  if ident = [] ∨ isTypeHeader header then false
  else occursAsName (ident ++ ['(']) [] (compact false false header.toList)

end PatchSearch.Header
