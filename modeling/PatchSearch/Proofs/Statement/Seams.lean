import Mathlib.Data.List.Induction
import PatchSearch.Proofs.Statement.Cutting
import PatchSearch.Proofs.Statement.Draft
import PatchSearch.Proofs.Statement.Progress

namespace PatchSearch

namespace Lexeme

/-- A lexeme with an end of its own. -/
def IsClosed (x : Lexeme) : Prop :=
  ∀ t, x ≠ .unclosed t

/-- A lexeme ends where it does also if `d` is the character after it; a line comment goes on up to the
end of the line. -/
def StopsBefore (x : Lexeme) (d : Option Char) : Prop :=
  x.EndsBefore d ∧ ∀ t, x = .lineComment t → ∀ c ∈ d, c = '\n'

theorem stopsBefore_none (x : Lexeme) : x.StopsBefore none :=
  ⟨x.endsBefore_of_blank fun c hc => absurd hc (Option.not_mem_none c),
    fun _ _ c hc => absurd hc (Option.not_mem_none c)⟩

theorem Reads.stopsBefore {x : Lexeme} {rest : List Char} (h : x.Reads rest) :
    x.StopsBefore rest.head? := by
  refine ⟨h.endsBefore, ?_⟩
  rintro t rfl c hc
  obtain ⟨d, cs, hn⟩ := h
  cases hn with
  | lineComment =>
    have hhead := List.head?_dropWhile_not (fun c => decide (c ≠ '\n')) cs
    rw [Option.mem_def.mp hc] at hhead
    simpa using hhead

/-- Whether a lexeme that ends is read depends on the text after it only through its first character. -/
theorem Reads.congr_of_stops {x : Lexeme} {rest rest' : List Char} (h : x.Reads rest)
    (hx : x.IsClosed) (hs : x.StopsBefore rest'.head?) : x.Reads rest' := by
  obtain ⟨c, cs, hn⟩ := h
  cases hn with
  | literal hq hc => exact ⟨c, _, .literal hq (closeLiteral?_append hq hc hs.1)⟩
  | blank hb => exact ⟨c, rest', .blank hb⟩
  | mark hq _ hb => exact ⟨c, rest', .mark hq hs.1 hb⟩
  | lineComment hh =>
    obtain ⟨tail, rfl⟩ := List.head?_eq_some_iff.mp hh
    have hline : '\n' ∉ tail.takeWhile (· ≠ '\n') := fun hm => by
      simpa using List.mem_takeWhile_imp hm
    exact ⟨'/', _, next_lineComment hline (hs.2 _ rfl)⟩
  | @blockComment cs inside _ hh hc =>
    obtain ⟨tail, rfl⟩ := List.head?_eq_some_iff.mp hh
    exact ⟨'/', _, next_blockComment (Text.precedes_of_cutAt? (List.cons_ne_nil _ _) hc) rest'⟩
  | openLiteral => exact absurd rfl (hx _)
  | openComment => exact absurd rfl (hx _)

end Lexeme

theorem joined_lexemes (cs : List Char) : Joined (lexemes cs) [] := by
  fun_induction lexemes cs with
  | case1 => trivial
  | case2 c cs _ ih =>
    refine ⟨?_, ih⟩
    rw [flatMap_text_lexemes, List.append_nil]
    exact ⟨c, cs, Lexeme.next_spec c cs⟩

/-- Lexemes that end stay joined in front of any text before which the last of them stops. -/
theorem Joined.congr_of_stops {xs : List Lexeme} {rest rest' : List Char} (h : Joined xs rest)
    (hx : ∀ x ∈ xs, x.IsClosed) (hs : ∀ x ∈ xs.getLast?, x.StopsBefore rest'.head?) :
    Joined xs rest' := by
  induction xs with
  | nil => trivial
  | cons x xs ih =>
    have hclosed := hx x (List.mem_cons_self ..)
    have htail := fun y hy => hx y (List.mem_cons_of_mem x hy)
    cases xs with
    | nil => exact ⟨h.1.congr_of_stops hclosed (hs x rfl), trivial⟩
    | cons y ys =>
      obtain ⟨c, cs, hy⟩ := List.exists_cons_of_ne_nil h.2.1.text_ne_nil
      have hstops := h.1.stopsBefore
      rw [List.flatMap_cons, hy] at hstops
      refine ⟨h.1.congr_of_stops hclosed ?_, ih h.2 htail (by simpa [List.getLast?_cons_cons] using hs)⟩
      rw [List.flatMap_cons, hy]
      exact hstops

/-- Only the first character of what follows matters to lexemes that end. -/
theorem Joined.congr_head {xs : List Lexeme} {rest rest' : List Char} (h : Joined xs rest)
    (hx : ∀ x ∈ xs, x.IsClosed) (hhead : rest.head? = rest'.head?) : Joined xs rest' := by
  refine h.congr_of_stops hx fun x hl => ?_
  obtain ⟨ys, rfl⟩ := List.getLast?_eq_some_iff.mp hl
  rw [← hhead]
  exact (joined_singleton.mp (joined_append.mp h).2).stopsBefore

theorem Joined.lexemes_flatMap {xs : List Lexeme} (h : Joined xs []) :
    PatchSearch.lexemes (xs.flatMap Lexeme.text) = xs := by
  simpa [PatchSearch.lexemes] using h.lexemes

namespace Lexeme

/-- A lexeme that ends with a blank is that blank, or a line comment. -/
theorem Reads.eq_of_last_blank {x : Lexeme} {rest t : List Char} {d : Char} (h : x.Reads rest)
    (hx : x.IsClosed) (ht : x.text = t ++ [d]) (hd : Text.isBlank d = true) :
    x = .blank d ∧ t = [] ∨ x = .lineComment (t ++ [d]) := by
  have hlast : x.text.getLast? = some d := by rw [ht, List.getLast?_concat]
  have hne : ∀ c, x.text.getLast? = some c → Text.isBlank c = false → False := by
    intro c hc hb
    cases Option.some.inj (hlast.symm.trans hc)
    rw [hd] at hb
    cases hb
  obtain ⟨c, cs, hn⟩ := h
  cases hn with
  | @literal _ _ inside _ hq hc =>
    refine (hne c ?_ (isBlank_of_isQuote hq)).elim
    simp [text, List.getLast?_cons, closeLiteral?_getLast hc]
  | lineComment => exact Or.inr (congrArg _ ht)
  | @blockComment _ inside => exact (hne '/' (by simp [text, List.getLast?_cons]) rfl).elim
  | blank =>
    obtain ⟨rfl, hcd⟩ := List.append_eq_singleton_iff.mp ht.symm |>.resolve_right (by simp)
    cases hcd
    exact Or.inl ⟨rfl, rfl⟩
  | mark _ _ hb => exact (hne c rfl hb).elim
  | openLiteral => exact absurd rfl (hx _)
  | openComment => exact absurd rfl (hx _)

/-- A line comment without its last character, if that is a blank. -/
theorem Reads.dropLast_lineComment {t rest : List Char} {d : Char}
    (h : (lineComment (t ++ [d])).Reads rest) (hd : Text.isBlank d = true) :
    t.head? = (t ++ [d]).head? ∧ (lineComment t).Reads [] := by
  obtain ⟨c, cs, hn⟩ := h
  generalize hx : lineComment (t ++ [d]) = x at hn
  cases hn with
  | lineComment hh =>
    obtain ⟨tail, rfl⟩ := List.head?_eq_some_iff.mp hh
    have hslash : d ≠ '/' := by rintro rfl; exact absurd hd (by decide)
    have hline : '\n' ∉ tail.takeWhile (· ≠ '\n') := fun hm => by
      simpa using List.mem_takeWhile_imp hm
    have ht : t ++ [d] = '/' :: '/' :: tail.takeWhile (· ≠ '\n') := Lexeme.lineComment.inj hx
    rcases List.eq_nil_or_concat' (tail.takeWhile (· ≠ '\n')) with hw | ⟨line, e, hw⟩
    · have hsplit : t ++ [d] = ['/'] ++ ['/'] := by rw [ht, hw]; rfl
      exact absurd (List.singleton_inj.mp (List.append_inj' hsplit rfl).2) hslash
    · have hsplit : t ++ [d] = ('/' :: '/' :: line) ++ [e] := by rw [ht, hw]; rfl
      obtain ⟨rfl, _⟩ := List.append_inj' hsplit rfl
      rw [hw] at hline
      refine ⟨rfl, '/', _, next_lineComment (fun hm => hline (List.mem_append_left _ hm)) ?_⟩
      exact fun c hc => absurd hc (Option.not_mem_none c)
  | _ => cases hx

end Lexeme

/-- The lexemes of a text without the blank at its end: that blank goes, or a line comment loses it. -/
theorem lexemes_concat_blank {cs : List Char} {d : Char} (hd : Text.isBlank d = true)
    (hx : ∀ x ∈ lexemes (cs ++ [d]), x.IsClosed) :
    lexemes (cs ++ [d]) = lexemes cs ++ [.blank d] ∨
      ∃ xs t, lexemes cs = xs ++ [.lineComment t] ∧
        lexemes (cs ++ [d]) = xs ++ [.lineComment (t ++ [d])] := by
  have hj := joined_lexemes (cs ++ [d])
  have htext := flatMap_text_lexemes (cs ++ [d])
  rcases List.eq_nil_or_concat' (lexemes (cs ++ [d])) with h | ⟨xs, x, h⟩
  · rw [h] at htext
    exact absurd htext.symm (by simp)
  · rw [h] at hj htext hx
    obtain ⟨hxs, hlast⟩ := joined_append.mp hj
    have hreads : x.Reads [] := joined_singleton.mp hlast
    have hclosed := hx x (by simp)
    have hclosed' : ∀ y ∈ xs, y.IsClosed := fun y hy => hx y (List.mem_append_left _ hy)
    obtain ⟨t, e, ht⟩ := (List.eq_nil_or_concat' x.text).resolve_left hreads.text_ne_nil
    rw [List.flatMap_append, List.flatMap_singleton, ht, ← List.append_assoc] at htext
    obtain ⟨rfl, he⟩ := List.append_inj' htext rfl
    obtain rfl : e = d := List.singleton_inj.mp he
    rw [h]
    rcases hreads.eq_of_last_blank hclosed ht hd with ⟨rfl, rfl⟩ | rfl
    · refine Or.inl (congrArg (· ++ _) ?_)
      have hxs' : Joined xs [] := hxs.congr_of_stops hclosed' fun y _ => y.stopsBefore_none
      rw [List.append_nil, hxs'.lexemes_flatMap]
    · obtain ⟨hhead, hreads'⟩ := hreads.dropLast_lineComment hd
      have hxs' : Joined xs t := hxs.congr_head hclosed' (by simpa [Lexeme.text] using hhead.symm)
      have hjoined : Joined (xs ++ [.lineComment t]) [] :=
        joined_append.mpr ⟨by simpa [Lexeme.text] using hxs', joined_singleton.mpr hreads'⟩
      refine Or.inr ⟨xs, t, ?_, rfl⟩
      simpa [Lexeme.text] using hjoined.lexemes_flatMap

namespace Progress

variable {p q : Progress} {cs : List Char} {ss : List Statement} {d : Char}

/-- Nothing can be read on after a lexeme without an end. -/
theorem isClosed_of_foldlM {xs : List Lexeme} (h : xs.foldlM step? p = some q) :
    ∀ x ∈ xs, x.IsClosed := by
  induction xs generalizing p with
  | nil => exact fun x hx => absurd hx List.not_mem_nil
  | cons x xs ih =>
    rw [List.foldlM_cons] at h
    obtain ⟨p', hp, h⟩ := Option.bind_eq_some_iff.mp h
    intro y hy
    rcases List.mem_cons.mp hy with rfl | hy
    · rintro t rfl
      cases hp
    · exact ih h y hy

theorem text_space (p : Pending) : p.space.text = p.text := by
  unfold Pending.space
  split
  next => rfl
  next c cs hc =>
    split
    next => rfl
    next =>
      rw [Pending.text, Pending.text, hc, List.reverse_cons]
      exact Text.trim_append_blank rfl

theorem result?_space (n : Nest) (p : Pending) : result? ⟨n, p.space⟩ = result? ⟨n, p⟩ := by
  have hb : p.space.brackets = p.brackets ∧ p.space.braces = p.braces := by
    unfold Pending.space
    split
    next => exact ⟨rfl, rfl⟩
    next => split <;> exact ⟨rfl, rfl⟩
  simp only [result?, text_space, hb]

/-- A blank at the beginning of a text does not matter. -/
theorem readAll?_cons_blank (hd : Text.isBlank d = true) : readAll? (d :: cs) = readAll? cs := by
  have hl : lexemes (d :: cs) = .blank d :: lexemes cs := by
    rw [lexemes, (Lexeme.Next.blank hd).eq]
  rw [readAll?, hl, readAll?]
  rfl

/-- Nor does a blank at the end. -/
theorem readAll?_of_concat_blank (hd : Text.isBlank d = true) (h : readAll? (cs ++ [d]) = some ss) :
    readAll? cs = some ss := by
  obtain ⟨p, hp, hr⟩ := Option.bind_eq_some_iff.mp h
  rcases lexemes_concat_blank hd (isClosed_of_foldlM hp) with hl | ⟨xs, t, hl, hl'⟩
  · rw [hl, List.foldlM_append] at hp
    obtain ⟨q, hq, hp⟩ := Option.bind_eq_some_iff.mp hp
    have hp : q.step? (.blank d) = some p := by simpa using hp
    obtain rfl : ⟨q.nest, q.pending.space⟩ = p := Option.some.inj hp
    rw [result?_space] at hr
    exact Option.bind_eq_some_iff.mpr ⟨q, hq, hr⟩
  · rw [hl', List.foldlM_append] at hp
    refine Option.bind_eq_some_iff.mpr ⟨p, ?_, hr⟩
    rw [hl, List.foldlM_append]
    exact hp

theorem readAll?_trimEnd (h : readAll? cs = some ss) : readAll? (Text.trimEnd cs) = some ss := by
  induction cs using List.reverseRecOn with
  | nil => exact h
  | append_singleton cs c ih =>
    cases hc : Text.isBlank c with
    | true =>
      rw [Text.trimEnd_append_blank hc]
      exact ih (readAll?_of_concat_blank hc h)
    | false => rwa [Text.trimEnd_append_mark hc]

/-- A text that can be read gives the same statements without the blanks at its ends. -/
theorem readAll?_trim (h : readAll? cs = some ss) : readAll? (Text.trim cs) = some ss := by
  refine readAll?_trimEnd ?_
  induction cs with
  | nil => exact h
  | cons c cs ih =>
    rw [List.dropWhile_cons]
    split
    next hc => exact ih (by rwa [readAll?_cons_blank hc] at h)
    next => exact h

end Progress

namespace Statement

theorem parseAll_trimmed {text : String} {ss : List Statement} (h : parseAll text = .ok ss) :
    parseAll (Text.trimmed text) = .ok ss := by
  rw [parseAll_eq_ok_iff, Text.trimmed, String.toList_ofList]
  exact Progress.readAll?_trim (parseAll_eq_ok_iff.mp h)

/-- A text that takes the place of one statement does so also without the blanks at its ends. -/
theorem parse_trimmed {text : String} {s : Statement} (h : parse text = .ok s) :
    parse (Text.trimmed text) = .ok s := by
  obtain ⟨ss, hp, h⟩ := exists_ok_of_bind h
  rw [parse, parseAll_trimmed hp]
  exact h

end Statement

end PatchSearch
