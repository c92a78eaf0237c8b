import PatchSearch.Proofs.Statement.Seams

namespace PatchSearch

open Lexeme (IsQuote Quoted textBlockQuotes)

namespace Text

/-- The number of bytes of a text. -/
def bytes (cs : List Char) : Nat :=
  (String.ofList cs).utf8ByteSize

theorem bytes_append (cs ds : List Char) : bytes (cs ++ ds) = bytes cs + bytes ds := by
  rw [bytes, String.ofList_append, String.utf8ByteSize_append, bytes, bytes]

theorem bytes_cons (c : Char) (cs : List Char) : bytes (c :: cs) = c.utf8Size + bytes cs := by
  have hone : bytes [c] = c.utf8Size := by
    rw [bytes, ← String.singleton_eq_ofList, String.utf8ByteSize_singleton]
  rw [← List.singleton_append, bytes_append, hone]

theorem not_infix_of_cutAt? {pat cs : List Char} (h : cutAt? pat cs = none) : ¬pat <:+: cs := by
  intro hi
  have hsome := cutAt?_isSome_of_infix hi
  rw [h] at hsome
  cases hsome

end Text

namespace Lexeme

theorem width_eq (x : Lexeme) : x.width = Text.bytes x.text := by
  unfold width
  induction x.text with
  | nil => rfl
  | cons c cs ih => rw [List.foldr_cons, ih, Text.bytes_cons]

/-- A text begins with a quote or the opener of a block comment that has no end. -/
inductive Endless : List Char → Prop
  | quoted {quote cs} : IsQuote quote → ¬textBlockQuotes <+: quote :: cs →
      (∀ inside, inside <+: cs → ¬Quoted quote inside) → Endless (quote :: cs)
  | textBlock {cs} : ¬textBlockQuotes <:+: cs → Endless (textBlockQuotes ++ cs)
  | blockComment {cs} : ¬['*', '/'] <:+: cs → Endless ('/' :: '*' :: cs)

theorem endless_of_closeLiteral? {quote : Char} {cs : List Char} (hq : IsQuote quote)
    (h : closeLiteral? quote cs = none) : Endless (quote :: cs) := by
  unfold closeLiteral? at h
  split at h
  next hp =>
    obtain ⟨tail, ht⟩ := List.isPrefixOf_iff_prefix.mp hp
    obtain ⟨rfl, rfl⟩ := List.cons.inj ht
    exact .textBlock (Text.not_infix_of_cutAt? (Option.map_eq_none_iff.mp h))
  next hp =>
    refine .quoted hq (fun hpre => hp (List.isPrefixOf_iff_prefix.mpr hpre)) ?_
    rintro inside ⟨rest, rfl⟩ hquoted
    rw [hquoted.closeQuote? hq] at h
    cases h

/-- A lexeme without an end takes the rest of the text. -/
theorem Reads.endless {t rest : List Char} (h : (unclosed t).Reads rest) : Endless t ∧ rest = [] := by
  obtain ⟨c, cs, hn⟩ := h
  cases hn with
  | openLiteral hq hc => exact ⟨endless_of_closeLiteral? hq hc, rfl⟩
  | openComment hh hc =>
    obtain ⟨tail, rfl⟩ := List.head?_eq_some_iff.mp hh
    exact ⟨.blockComment (Text.not_infix_of_cutAt? hc), rfl⟩

end Lexeme

/-- Every lexeme before another one ends. -/
theorem Joined.isClosed_of_append {xs ys : List Lexeme} {y : Lexeme} {rest : List Char}
    (h : Joined (xs ++ y :: ys) rest) : ∀ x ∈ xs, x.IsClosed := by
  rintro x hx t rfl
  obtain ⟨front, back, rfl⟩ := List.append_of_mem hx
  rw [List.append_assoc] at h
  have hreads := (joined_append.mp h).2.1
  have hy := (joined_append.mp (joined_append.mp h).2.2).2.1.text_ne_nil
  have hnil := hreads.endless.2
  simp [hy] at hnil

/-- Between two of its lexemes a text falls into two texts that have them on their own. -/
theorem lexemes_split {cs : List Char} {xs ys : List Lexeme} {y : Lexeme}
    (h : lexemes cs = xs ++ y :: ys) :
    cs = xs.flatMap Lexeme.text ++ (y.text ++ ys.flatMap Lexeme.text) ∧
      lexemes (xs.flatMap Lexeme.text) = xs ∧ lexemes (ys.flatMap Lexeme.text) = ys ∧
      y.Reads (ys.flatMap Lexeme.text) := by
  have hj := joined_lexemes cs
  have htext := flatMap_text_lexemes cs
  rw [h] at hj htext
  obtain ⟨hxs, hy, hys⟩ := joined_append.mp hj
  have hxs' : Joined xs [] := hxs.congr_of_stops hj.isClosed_of_append fun x _ => x.stopsBefore_none
  rw [List.append_nil] at hy
  exact ⟨by simpa using htext.symm, hxs'.lexemes_flatMap, hys.lexemes_flatMap, hy⟩

/-- A character stands at a byte of a text, outside literals and comments: what stands before it and what
stands after it are cut into lexemes on their own. -/
def StandsAt (cs : List Char) (c : Char) (offset : Nat) : Prop :=
  ∃ before after, cs = before ++ c :: after ∧ offset = Text.bytes before ∧
    lexemes cs = lexemes before ++ .mark c :: lexemes after

/-- At a byte of a text, after lexemes that end, a literal or a block comment begins that has no end. -/
def EndlessAt (cs : List Char) (offset : Nat) : Prop :=
  ∃ before after, cs = before ++ after ∧ offset = Text.bytes before ∧ Lexeme.Endless after ∧
    lexemes cs = lexemes before ++ [.unclosed after]

theorem standsAt_of_lexemes {cs : List Char} {c : Char} {xs ys : List Lexeme}
    (h : lexemes cs = xs ++ .mark c :: ys) : StandsAt cs c (Text.bytes (xs.flatMap Lexeme.text)) := by
  obtain ⟨htext, hxs, hys, _⟩ := lexemes_split h
  refine ⟨_, ys.flatMap Lexeme.text, htext, rfl, ?_⟩
  rw [hxs, hys, h]

theorem endlessAt_of_lexemes {cs t : List Char} {xs ys : List Lexeme}
    (h : lexemes cs = xs ++ .unclosed t :: ys) : EndlessAt cs (Text.bytes (xs.flatMap Lexeme.text)) := by
  obtain ⟨htext, hxs, hys, hreads⟩ := lexemes_split h
  obtain ⟨hendless, hnil⟩ := hreads.endless
  have hys' : ys = [] := by rw [← hys, hnil, lexemes]
  rw [hnil, List.append_nil] at htext
  exact ⟨_, t, htext, rfl, hendless, by rw [hxs, h, hys']⟩

/-- Among lexemes a mark begins at a byte. -/
def MarkAt (xs : List Lexeme) (c : Char) (offset : Nat) : Prop :=
  ∃ before after, xs = before ++ .mark c :: after ∧ offset = Text.bytes (before.flatMap Lexeme.text)

theorem MarkAt.append {xs : List Lexeme} {c : Char} {offset : Nat} (h : MarkAt xs c offset)
    (ys : List Lexeme) : MarkAt (xs ++ ys) c offset := by
  obtain ⟨before, after, rfl, hoffset⟩ := h
  exact ⟨before, after ++ ys, by simp, hoffset⟩

theorem MarkAt.standsAt {cs : List Char} {c : Char} {offset : Nat} (h : MarkAt (lexemes cs) c offset) :
    StandsAt cs c offset := by
  obtain ⟨before, after, hxs, rfl⟩ := h
  exact standsAt_of_lexemes hxs

namespace Reading

/-- What reading one lexeme gives, as far as places are concerned. -/
inductive Answers (r : Reading) (x : Lexeme) : Except ParseError Reading → Prop
  | keep {s} : s.offset = r.offset + x.width → s.brackets ⊆ r.brackets → s.outer ⊆ r.outer →
      Answers r x (.ok s)
  | bracket {s c} : x = .mark c → s.offset = r.offset + x.width →
      s.brackets = (c, r.offset) :: r.brackets → s.outer = r.outer → Answers r x (.ok s)
  | block {s o} : x = .mark '{' → s.offset = r.offset + x.width → s.brackets = r.brackets →
      s.outer = o :: r.outer → o.offset = r.offset → Answers r x (.ok s)
  | endless {t} : x = .unclosed t → Answers r x (.error (.unterminated r.offset))
  | unbalanced {c} : x = .mark c → Answers r x (.error (.unbalanced c r.offset))
  | trailing {text} : Answers r x (.error (.trailing text))

variable {r s : Reading} {x : Lexeme} {xs ys : List Lexeme}

theorem answers_of_eq (hoffset : s.offset = r.offset + x.width) (hbrackets : s.brackets = r.brackets)
    (houter : s.outer = r.outer) : Answers r x (.ok s) :=
  .keep hoffset (fun _ hb => hbrackets ▸ hb) (fun _ ho => houter ▸ ho)

theorem answers_space (r : Reading) (x : Lexeme) : Answers r x (.ok (r.space x)) := by
  unfold space
  split
  next => exact answers_of_eq rfl rfl rfl
  next => split <;> exact answers_of_eq rfl rfl rfl

theorem answers_closeBracket (r : Reading) (c : Char) : Answers r (.mark c) (r.closeBracket c) := by
  unfold closeBracket
  split
  next => exact .unbalanced rfl
  next hb =>
    split
    next => exact .keep rfl (fun b hm => hb ▸ List.mem_cons_of_mem _ hm) (List.Subset.refl _)
    next => exact .unbalanced rfl

theorem answers_openBrace (r : Reading) : Answers r (.mark '{') (.ok r.openBrace) := by
  unfold openBrace
  split
  next => exact answers_of_eq rfl rfl rfl
  next => exact .block rfl rfl rfl rfl rfl

theorem answers_closeBrace (r : Reading) : Answers r (.mark '}') r.closeBrace := by
  unfold closeBrace noTrailing
  split
  next => exact answers_of_eq rfl rfl rfl
  next =>
    split
    next => exact .unbalanced rfl
    next ho =>
      split
      next => exact .keep rfl (List.Subset.refl _) (fun o hm => ho ▸ List.mem_cons_of_mem _ hm)
      next => exact .trailing

theorem answers_semicolon (r : Reading) : Answers r (.mark ';') (.ok r.semicolon) := by
  unfold semicolon
  dsimp only
  split <;> exact answers_of_eq rfl rfl rfl

theorem answers_mark (r : Reading) (c : Char) : Answers r (.mark c) (r.mark c) := by
  unfold mark
  split
  next => exact .bracket rfl rfl rfl rfl
  next =>
    split
    next => exact r.answers_closeBracket c
    next =>
      split
      next hc => exact hc ▸ r.answers_openBrace
      next =>
        split
        next hc => exact hc ▸ r.answers_closeBrace
        next =>
          split
          next hc => exact hc ▸ r.answers_semicolon
          next => exact answers_of_eq rfl rfl rfl

theorem answers_step (r : Reading) (x : Lexeme) : Answers r x (r.step x) := by
  cases x with
  | literal t => exact answers_of_eq rfl rfl rfl
  | blank c => exact r.answers_space _
  | blockComment t => exact r.answers_space _
  | lineComment t => exact answers_of_eq rfl rfl rfl
  | mark c => exact r.answers_mark c
  | unclosed t => exact .endless rfl

/-- The lexemes that have been read end where reading is, and the open brackets and blocks begin at
marks among them. -/
structure Located (xs : List Lexeme) (r : Reading) : Prop where
  offset : r.offset = Text.bytes (xs.flatMap Lexeme.text)
  brackets : ∀ b ∈ r.brackets, MarkAt xs b.1 b.2
  outer : ∀ o ∈ r.outer, MarkAt xs '{' o.offset

theorem located_start : Located [] start :=
  ⟨rfl, fun _ hb => absurd hb List.not_mem_nil, fun _ ho => absurd ho List.not_mem_nil⟩

theorem Located.markAt (h : Located xs r) {c : Char} (hx : x = .mark c) :
    MarkAt (xs ++ [x]) c r.offset :=
  ⟨xs, [], by rw [hx], h.offset⟩

theorem Located.step (h : Located xs r) (hs : r.step x = .ok s) : Located (xs ++ [x]) s := by
  have hoffset : s.offset = r.offset + x.width →
      s.offset = Text.bytes ((xs ++ [x]).flatMap Lexeme.text) := by
    intro ho
    rw [ho, h.offset, x.width_eq, List.flatMap_append, Text.bytes_append, List.flatMap_singleton]
  have hbrackets := fun b hb => (h.brackets b hb).append [x]
  have houter := fun o ho => (h.outer o ho).append [x]
  have ha := r.answers_step x
  rw [hs] at ha
  cases ha with
  | keep ho hb hout =>
    exact ⟨hoffset ho, fun b hm => hbrackets b (hb hm), fun o hm => houter o (hout hm)⟩
  | bracket hx ho hb hout =>
    refine ⟨hoffset ho, fun b hm => ?_, fun o hm => houter o (hout ▸ hm)⟩
    rw [hb] at hm
    rcases List.mem_cons.mp hm with rfl | hm
    · exact h.markAt hx
    · exact hbrackets b hm
  | block hx ho hb hout hopen =>
    refine ⟨hoffset ho, fun b hm => hbrackets b (hb ▸ hm), fun o hm => ?_⟩
    rw [hout] at hm
    rcases List.mem_cons.mp hm with rfl | hm
    · exact hopen ▸ h.markAt hx
    · exact houter o hm

theorem Located.run (h : Located xs r) (hs : ys.foldlM Reading.step r = .ok s) :
    Located (xs ++ ys) s := by
  induction ys generalizing xs r with
  | nil =>
    cases Except.ok.inj hs
    rwa [List.append_nil]
  | cons y ys ih =>
    rw [List.foldlM_cons] at hs
    obtain ⟨r', hr, hs⟩ := exists_ok_of_bind hs
    rw [← List.singleton_append, ← List.append_assoc]
    exact ih (h.step hr) hs

/-- If reading fails, it does so at one lexeme. -/
theorem exists_step_error {e : ParseError} (h : xs.foldlM Reading.step r = .error e) :
    ∃ ys x zs s, xs = ys ++ x :: zs ∧ ys.foldlM Reading.step r = .ok s ∧ s.step x = .error e := by
  induction xs generalizing r with
  | nil => cases h
  | cons x xs ih =>
    cases hx : r.step x with
    | error e' =>
      rw [List.foldlM_cons, hx] at h
      cases h
      exact ⟨[], x, xs, r, rfl, rfl, hx⟩
    | ok r' =>
      rw [List.foldlM_cons, hx] at h
      obtain ⟨ys, y, zs, s, rfl, hys, hy⟩ := ih h
      refine ⟨x :: ys, y, zs, s, rfl, ?_, hy⟩
      rw [List.foldlM_cons, hx]
      exact hys

/-- At the end of a text a bracket, a block or the brace of an expression may be open. -/
theorem finish_unbalanced {c : Char} {offset : Nat} (h : r.finish = .error (.unbalanced c offset)) :
    (c, offset) ∈ r.brackets ∨ (∃ o ∈ r.outer, c = '{' ∧ offset = o.offset) ∨
      (r.brackets = [] ∧ r.outer = [] ∧ 0 < r.braces) := by
  unfold finish noTrailing at h
  split at h
  next hb =>
    cases h
    exact Or.inl (hb ▸ List.mem_cons_self)
  next hb =>
    split at h
    next ho =>
      cases h
      exact Or.inr (Or.inl ⟨_, ho ▸ List.mem_cons_self, rfl, rfl⟩)
    next ho =>
      split at h
      next hz =>
        cases h
        exact Or.inr (Or.inr ⟨hb, ho, hz⟩)
      next => split at h <;> cases h

theorem finish_ne_unterminated (offset : Nat) : r.finish ≠ .error (.unterminated offset) := by
  unfold finish noTrailing
  intro h
  split at h
  next => cases h
  next =>
    split at h
    next => cases h
    next =>
      split at h
      next => cases h
      next => split at h <;> cases h

end Reading

namespace Statement

/-- A text ends inside the braces of an expression, with no other bracket and no block open. -/
def EndsInExpression (text : String) : Prop :=
  ∃ r, (lexemes text.toList).foldlM Reading.step Reading.start = .ok r ∧ r.brackets = [] ∧
    r.outer = [] ∧ 0 < r.braces

/-- A complaint comes from one lexeme or from the end of the text. -/
theorem parseAll_error {text : String} {e : ParseError} (h : parseAll text = .error e) :
    (∃ xs x ys r, lexemes text.toList = xs ++ x :: ys ∧ Reading.Located xs r ∧ r.step x = .error e) ∨
      ∃ r, (lexemes text.toList).foldlM Reading.step Reading.start = .ok r ∧
        Reading.Located (lexemes text.toList) r ∧ r.finish = .error e := by
  cases hr : (lexemes text.toList).foldlM Reading.step Reading.start with
  | error e' =>
    rw [parseAll, hr] at h
    cases h
    obtain ⟨xs, x, ys, r, hxs, hrun, hx⟩ := Reading.exists_step_error hr
    exact Or.inl ⟨xs, x, ys, r, hxs, Reading.located_start.run hrun, hx⟩
  | ok r =>
    rw [parseAll, hr] at h
    exact Or.inr ⟨r, rfl, Reading.located_start.run hr, h⟩

theorem unbalanced_standsAt {text : String} {c : Char} {offset : Nat}
    (h : parseAll text = .error (.unbalanced c offset)) :
    StandsAt text.toList c offset ∨ EndsInExpression text := by
  rcases parseAll_error h with ⟨xs, x, ys, r, hxs, hlocated, hx⟩ | ⟨r, hr, hlocated, hfinish⟩
  · have ha := r.answers_step x
    rw [hx] at ha
    cases ha with
    | unbalanced hc =>
      refine Or.inl ?_
      rw [hc] at hxs
      rw [hlocated.offset]
      exact standsAt_of_lexemes hxs
  · rcases Reading.finish_unbalanced hfinish with hm | ⟨o, ho, rfl, rfl⟩ | ⟨hb, ho, hz⟩
    · exact Or.inl (hlocated.brackets _ hm).standsAt
    · exact Or.inl (hlocated.outer o ho).standsAt
    · exact Or.inr ⟨r, hr, hb, ho, hz⟩

theorem unterminated_endlessAt {text : String} {offset : Nat}
    (h : parseAll text = .error (.unterminated offset)) : EndlessAt text.toList offset := by
  rcases parseAll_error h with ⟨xs, x, ys, r, hxs, hlocated, hx⟩ | ⟨r, _, _, hfinish⟩
  · have ha := r.answers_step x
    rw [hx] at ha
    cases ha with
    | endless hc =>
      rw [hc] at hxs
      rw [hlocated.offset]
      exact endlessAt_of_lexemes hxs
  · exact absurd hfinish (Reading.finish_ne_unterminated offset)

theorem parseAll_of_endsInExpression {text : String} (h : EndsInExpression text) :
    parseAll text = .error (.unbalanced '{' 0) := by
  obtain ⟨r, hr, hb, ho, hz⟩ := h
  have hfinish : r.finish = .error (.unbalanced '{' 0) := by
    rw [Reading.finish, hb, ho]
    exact if_pos hz
  rw [parseAll, hr]
  exact hfinish

/-- A complaint about a bracket names one that stands at its place in the text, outside literals and
comments, unless the text ends inside the braces of an expression outside of all blocks; then the complaint
is about a brace at the beginning. A complaint about what never ends gives the place of a quote or of the
opener of a block comment without an end. -/
theorem error_points (text : String) :
    (∀ c offset, parseAll text = .error (.unbalanced c offset) →
      StandsAt text.toList c offset ∨ EndsInExpression text) ∧
      (EndsInExpression text → parseAll text = .error (.unbalanced '{' 0)) ∧
      ∀ offset, parseAll text = .error (.unterminated offset) → EndlessAt text.toList offset :=
  ⟨fun _ _ => unbalanced_standsAt, parseAll_of_endsInExpression, fun _ => unterminated_endlessAt⟩

/-- A round bracket after a square one, and a literal without an end, each after characters of several
bytes. -/
theorem error_points_literal :
    let text := "s = \"é)\"; f(a[0);"
    let text' := "f('('); s = \"é;"
    parseAll text = .error (.unbalanced ')' 16) ∧ StandsAt text.toList ')' 16 ∧
      parseAll text' = .error (.unterminated 12) ∧ EndlessAt text'.toList 12 := by
  intro text text'
  have hround : parseAll text = .error (.unbalanced ')' 16) := by decide +kernel
  have hquote : parseAll text' = .error (.unterminated 12) := by decide +kernel
  obtain ⟨hbracket, hexpression, _⟩ := error_points text
  have hplace : StandsAt text.toList ')' 16 := by
    refine (hbracket _ _ hround).resolve_right fun h => ?_
    rw [hexpression h] at hround
    cases hround
  exact ⟨hround, hplace, hquote, (error_points text').2.2 _ hquote⟩

/-- The braces of an array that stay open are looked for at the beginning of the text. -/
theorem not_error_points_of_braces :
    ¬∀ text c offset, parseAll text = .error (.unbalanced c offset) → StandsAt text.toList c offset := by
  intro h
  have hbraces : parseAll "int[] xs = \x7b1, 2" = .error (.unbalanced '{' 0) := by decide +kernel
  obtain ⟨before, after, htext, hoffset, _⟩ := h _ _ _ hbraces
  cases before with
  | nil => exact absurd (List.cons.inj htext).1 (by decide)
  | cons c before =>
    have hpos := c.utf8Size_pos
    rw [Text.bytes_cons] at hoffset
    omega

end Statement

end PatchSearch
