import PatchSearch.Text.Blank
import PatchSearch.Text.Search

namespace PatchSearch

/-- A piece of program text with all its characters. -/
inductive Lexeme where
  /-- A string, character or text block with its quotes. -/
  | literal (text : List Char)
  | blank (c : Char)
  /-- From two slashes up to the end of the line, which it does not hold. -/
  | lineComment (text : List Char)
  | blockComment (text : List Char)
  | mark (c : Char)
  /-- A literal or block comment that never ends, with the rest of the text. -/
  | unclosed (text : List Char)
deriving Repr, DecidableEq

namespace Lexeme

def text : Lexeme → List Char
  | literal t | lineComment t | blockComment t | unclosed t => t
  | blank c | mark c => [c]

/-- The number of bytes of the lexeme. -/
def width (x : Lexeme) : Nat :=
  x.text.foldr (fun c n => c.utf8Size + n) 0

/-- The rest of a quoted literal with its closing quote, and what follows. A backslash takes the
next character along; a literal ends on the line where it began. -/
def closeQuote? (quote : Char) : List Char → Option (List Char × List Char)
  | [] => none
  | [c] => if c = quote then some ([c], []) else none
  | c :: d :: cs =>
    if c = '\n' then none
    else if c = '\\' then
      if d = '\n' then none
      else (closeQuote? quote cs).map fun (inside, rest) => (c :: d :: inside, rest)
    else if c = quote then some ([c], d :: cs)
    else (closeQuote? quote (d :: cs)).map fun (inside, rest) => (c :: inside, rest)

/-- Three double quotes, which open and close a text block. -/
def textBlockQuotes : List Char := ['\x22', '\x22', '\x22']

/-- The rest of a literal after its first quote. -/
def closeLiteral? (quote : Char) (cs : List Char) : Option (List Char × List Char) :=
  if textBlockQuotes.isPrefixOf (quote :: cs) then
    (Text.cutAt? textBlockQuotes (cs.drop 2)).map fun (inside, rest) =>
      (cs.take 2 ++ inside ++ textBlockQuotes, rest)
  else closeQuote? quote cs

/-- The lexeme that starts with `c`, and what follows it. -/
def next (c : Char) (cs : List Char) : Lexeme × List Char :=
  if c = '\x22' ∨ c = '\x27' then
    match closeLiteral? c cs with
    | some (inside, rest) => (literal (c :: inside), rest)
    | none => (unclosed (c :: cs), [])
  else if c = '/' ∧ cs.head? = some '/' then
    (lineComment (c :: cs.takeWhile (· ≠ '\n')), cs.dropWhile (· ≠ '\n'))
  else if c = '/' ∧ cs.head? = some '*' then
    match Text.cutAt? ['*', '/'] (cs.drop 1) with
    | some (inside, rest) => (blockComment (c :: (cs.take 1 ++ inside ++ ['*', '/'])), rest)
    | none => (unclosed (c :: cs), [])
  else if Text.isBlank c then (blank c, cs)
  else (mark c, cs)

theorem closeQuote?_eq_append {quote : Char} {cs inside rest : List Char}
    (h : closeQuote? quote cs = some (inside, rest)) : inside ++ rest = cs := by
  fun_induction closeQuote? quote cs generalizing inside rest with
  | case1 => simp at h
  | case2 => simp_all
  | case3 => simp at h
  | case4 => simp at h
  | case5 => simp at h
  | case6 c d cs _ ih =>
    obtain ⟨⟨i, r⟩, hi, he⟩ := Option.map_eq_some_iff.mp h
    obtain ⟨rfl, rfl⟩ := Prod.mk.inj he
    simp [ih hi]
  | case7 d cs =>
    obtain ⟨rfl, rfl⟩ := Prod.mk.inj (Option.some.inj h)
    rfl
  | case8 c d cs _ _ _ ih =>
    obtain ⟨⟨i, r⟩, hi, he⟩ := Option.map_eq_some_iff.mp h
    obtain ⟨rfl, rfl⟩ := Prod.mk.inj he
    simp [ih hi]

theorem closeLiteral?_eq_append {quote : Char} {cs inside rest : List Char}
    (h : closeLiteral? quote cs = some (inside, rest)) : inside ++ rest = cs := by
  unfold closeLiteral? at h
  split at h
  next =>
    obtain ⟨⟨i, r⟩, hi, he⟩ := Option.map_eq_some_iff.mp h
    obtain ⟨rfl, rfl⟩ := Prod.mk.inj he
    have hs := Text.cutAt?_eq_append hi
    rw [List.append_assoc, List.append_assoc, ← List.append_assoc i, ← hs, List.take_append_drop]
  next => exact closeQuote?_eq_append h

/-- A lexeme and what follows it make up the text. -/
theorem text_next_append (c : Char) (cs : List Char) :
    (next c cs).1.text ++ (next c cs).2 = c :: cs := by
  unfold next
  split
  next =>
    split
    next h => simp [text, closeLiteral?_eq_append h]
    next => simp [text]
  next =>
    split
    next => simp [text]
    next =>
      split
      next =>
        split
        next h =>
          have hs := Text.cutAt?_eq_append h
          have ht := List.take_append_drop 1 cs
          rw [hs] at ht
          simpa [text] using ht
        next => simp [text]
      next => split <;> simp [text]

theorem text_next_ne_nil (c : Char) (cs : List Char) : (next c cs).1.text ≠ [] := by
  unfold next
  split
  · split <;> simp [text]
  · split
    · simp [text]
    · split
      · split <;> simp [text]
      · split <;> simp [text]

theorem length_next_lt (c : Char) (cs : List Char) : (next c cs).2.length < (c :: cs).length := by
  have h := congrArg List.length (text_next_append c cs)
  have hp := List.length_pos_iff.mpr (text_next_ne_nil c cs)
  rw [List.length_append] at h
  omega

end Lexeme

/-- The lexemes of a text, in order. -/
def lexemes : List Char → List Lexeme
  | [] => []
  | c :: cs =>
    have : (Lexeme.next c cs).2.length ≤ cs.length := Nat.le_of_lt_succ (Lexeme.length_next_lt c cs)
    (Lexeme.next c cs).1 :: lexemes (Lexeme.next c cs).2
termination_by cs => cs.length

theorem flatMap_text_lexemes (cs : List Char) : (lexemes cs).flatMap Lexeme.text = cs := by
  fun_induction lexemes cs with
  | case1 => rfl
  | case2 c cs _ ih => rw [List.flatMap_cons, ih, Lexeme.text_next_append]

end PatchSearch
