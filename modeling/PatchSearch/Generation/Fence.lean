import PatchSearch.Text.Search

namespace PatchSearch.Fence

def marker : List Char := ['\x60', '\x60', '\x60']

def isLanguage (c : Char) : Bool :=
  c.isAlphanum || c == '_' || c == '+' || c == '#' || c == '.' || c == '-'

/-- The blanks between a language name and the end of the line. -/
def isGap (c : Char) : Bool :=
  c == ' ' || c == '\t'

def afterLineEnd? : List Char → Option (List Char)
  | '\n' :: rest => some rest
  | '\r' :: '\n' :: rest => some rest
  | _ => none

/-- What follows an opener at the beginning of the text. -/
def afterOpener? (cs : List Char) : Option (List Char) :=
  if marker.isPrefixOf cs then
    afterLineEnd? (((cs.drop 3).dropWhile isLanguage).dropWhile isGap)
  else none

theorem afterLineEnd?_length_lt {cs rest : List Char} (h : afterLineEnd? cs = some rest) :
    rest.length < cs.length := by
  unfold afterLineEnd? at h
  split at h
  next => cases Option.some.inj h; simp
  next => cases Option.some.inj h; rw [List.length_cons, List.length_cons]; omega
  next => simp at h

theorem afterOpener?_length_lt {cs rest : List Char} (h : afterOpener? cs = some rest) :
    rest.length < cs.length := by
  unfold afterOpener? at h
  split at h
  next =>
    have h₁ := afterLineEnd?_length_lt h
    have h₂ := (List.dropWhile_sublist isGap (l := (cs.drop 3).dropWhile isLanguage)).length_le
    have h₃ := (List.dropWhile_sublist isLanguage (l := cs.drop 3)).length_le
    have h₄ := (List.drop_sublist 3 cs).length_le
    omega
  next => simp at h

/-- The code block at the beginning of the text, and what follows it. -/
def block? (cs : List Char) : Option (List Char × List Char) :=
  (afterOpener? cs).bind (Text.cutAt? marker)

theorem block?_length_lt {cs block rest : List Char} (h : block? cs = some (block, rest)) :
    rest.length < cs.length := by
  obtain ⟨body, hb, hr⟩ := Option.bind_eq_some_iff.mp h
  have := afterOpener?_length_lt hb
  have := Text.length_of_cutAt? hr
  omega

/-- The contents of the code blocks, in order. -/
def blocks (cs : List Char) : List (List Char) :=
  match cs with
  | [] => []
  | c :: cs =>
    match h : block? (c :: cs) with
    | none => blocks cs
    | some (block, rest) =>
      have : rest.length ≤ cs.length := Nat.le_of_lt_succ (block?_length_lt h)
      block :: blocks rest
termination_by cs.length

def blocksOf (s : String) : List String :=
  (blocks s.toList).map String.ofList

end PatchSearch.Fence
