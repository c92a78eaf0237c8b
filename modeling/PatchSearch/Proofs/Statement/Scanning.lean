import Mathlib.Data.List.Chain
import PatchSearch.Proofs.Statement.Offsets

namespace PatchSearch

open Lexeme (IsQuote Quoted Next textBlockQuotes)

/-- A text of literals and other characters. Outside literals each blank is a space, no two of them
stand next to each other, and no comment begins. Three double quotes always open a text block. -/
inductive Tidy : List Char → Prop
  | nil : Tidy []
  | textBlock {inside cs} : Text.Precedes inside textBlockQuotes → Tidy cs →
      Tidy (textBlockQuotes ++ (inside ++ (textBlockQuotes ++ cs)))
  | quoted {quote inside cs} : IsQuote quote → Quoted quote inside →
      ¬textBlockQuotes <+: quote :: (inside ++ cs) → Tidy cs → Tidy (quote :: (inside ++ cs))
  | space {cs} : (∀ c ∈ cs.head?, Text.isBlank c = false) → Tidy cs → Tidy (' ' :: cs)
  | mark {c cs} : ¬IsQuote c → Text.isBlank c = false →
      (c = '/' → cs.head? ≠ some '/' ∧ cs.head? ≠ some '*') → Tidy cs → Tidy (c :: cs)

namespace Lexeme

/-- After a blank comes a literal or a mark. -/
def Parts (x y : Lexeme) : Prop :=
  ∀ c, x = .blank c → y.Solid

/-- A kept lexeme goes in front of a tidy text. -/
theorem Reads.tidy {x : Lexeme} {rest : List Char} (h : x.Reads rest) (hk : x.IsKept)
    (hb : ∀ c, x = .blank c → ∀ d ∈ rest.head?, Text.isBlank d = false) (ht : Tidy rest) :
    Tidy (x.text ++ rest) := by
  obtain ⟨c, cs, hn⟩ := h
  cases hn with
  | @literal _ _ inside _ hq hc =>
    rcases closeLiteral?_cases hc with ⟨rfl, i, rfl, body, hbody⟩ | ⟨hn, hclose⟩
    · have hi : Text.Precedes i textBlockQuotes :=
        Text.precedes_of_cutAt? (List.cons_ne_nil _ _) hbody
      simpa [text, textBlockQuotes] using Tidy.textBlock hi ht
    · exact .quoted hq (quoted_of_closeQuote? hclose)
        (fun hp => hn (List.isPrefixOf_iff_prefix.mpr hp)) ht
  | blank =>
    obtain rfl : c = ' ' := hk
    exact .space (hb ' ' rfl) ht
  | mark hq hs hc => exact .mark hq hc hs ht
  | lineComment => exact hk.elim
  | blockComment => exact hk.elim
  | openLiteral => exact hk.elim
  | openComment => exact hk.elim

end Lexeme

/-- Kept lexemes with something between any two blanks make up a tidy text. -/
theorem Joined.tidy {xs : List Lexeme} (h : Joined xs []) (hk : ∀ x ∈ xs, x.IsKept)
    (hp : xs.IsChain Lexeme.Parts) : Tidy (xs.flatMap Lexeme.text) := by
  induction xs with
  | nil => exact .nil
  | cons x xs ih =>
    obtain ⟨hx, hxs⟩ := List.forall_mem_cons.mp hk
    rw [List.isChain_cons] at hp
    have hread := h.1
    rw [List.append_nil] at hread
    refine hread.tidy hx ?_ (ih h.2 hxs hp.2)
    intro c hc d hd
    cases xs with
    | nil => exact absurd hd (Option.not_mem_none d)
    | cons y ys =>
      obtain ⟨e, es, he, hblank⟩ := (hp.1 y rfl c hc).first
      rw [List.flatMap_cons, he, List.cons_append, List.head?_cons] at hd
      cases Option.some.inj hd
      exact hblank

namespace Draft

variable {xs : List Lexeme} {p : Pending}

theorem head?_of_getLast?_blank (h : Draft xs p) {c : Char} (hc : xs.getLast? = some (.blank c)) :
    p.collected.head? = some ' ' := by
  cases h with
  | nil => cases hc
  | space => rfl
  | solid _ hs _ =>
    rw [List.getLast?_concat] at hc
    rcases hs.word with ⟨t, rfl⟩ | ⟨d, rfl⟩ <;> cases hc

/-- No two blanks of a draft stand next to each other. -/
theorem isChain (h : Draft xs p) : xs.IsChain Lexeme.Parts := by
  induction h with
  | nil => exact .nil
  | space hd _ hs ih =>
    refine List.isChain_append.mpr ⟨ih, .singleton _, ?_⟩
    intro x hx y _ c hc
    subst hc
    exact absurd (hd.head?_of_getLast?_blank hx) hs
  | solid _ hs _ ih =>
    refine List.isChain_append.mpr ⟨ih, .singleton _, ?_⟩
    intro x _ y hy c _
    cases Option.some.inj hy
    exact hs

/-- The text under way is tidy. -/
theorem tidy {rest : List Char} (h : Draft xs p) (hj : Joined xs rest) : Tidy p.collected.reverse := by
  have hend : Joined xs [] := hj.congr h.isKept (fun x _ => x.endsBefore_of_blank (by simp))
  rw [h.collected]
  exact hend.tidy h.isKept h.isChain

end Draft

/-- A place is the beginning of a character of the text or its end. -/
def IsBoundary (text : String) (offset : Nat) : Prop :=
  (String.Pos.Raw.mk offset).IsValid text

theorem isBoundary_of_append {text : String} {before after : List Char}
    (h : text.toList = before ++ after) : IsBoundary text (Text.bytes before) := by
  have htext : text = String.ofList before ++ String.ofList after := by
    rw [← String.ofList_append, ← h, String.ofList_toList]
  have hend : (String.Pos.Raw.mk (Text.bytes before)).IsValid (String.ofList before) :=
    String.Pos.Raw.isValid_rawEndPos
  rw [IsBoundary, htext]
  exact hend.append_right _

namespace Lexeme

theorem Reads.width_pos {x : Lexeme} {rest : List Char} (h : x.Reads rest) : 0 < x.width := by
  obtain ⟨c, cs, hx⟩ := List.exists_cons_of_ne_nil h.text_ne_nil
  have hc := c.utf8Size_pos
  rw [x.width_eq, hx, Text.bytes_cons]
  omega

end Lexeme

/-- Each lexeme takes at least one byte. -/
theorem Joined.length_le_bytes {xs : List Lexeme} {rest : List Char} (h : Joined xs rest) :
    xs.length ≤ Text.bytes (xs.flatMap Lexeme.text) := by
  induction xs with
  | nil => exact Nat.zero_le _
  | cons x xs ih =>
    have hx := h.1.width_pos
    have hxs := ih h.2
    rw [x.width_eq] at hx
    rw [List.flatMap_cons, Text.bytes_append, List.length_cons]
    omega

namespace Reading

variable {r s : Reading} {x : Lexeme} {xs ys : List Lexeme}

/-- The statements of each open block, the innermost first; last come those outside of all blocks. -/
def frames (r : Reading) : List (List Statement) :=
  r.items :: r.outer.map Opening.before

/-- A round or square bracket or a brace of an expression is open. -/
def IsOpen (r : Reading) : Prop :=
  r.brackets ≠ [] ∨ 0 < r.braces

/-- What holds of a reading of a text before the lexemes that are left. -/
structure InOrder (text : String) (r : Reading) (left : List Lexeme) : Prop where
  /-- The place in the text, and each one after some of the characters that are left, is a boundary. -/
  boundary : ∀ cs, cs <+: left.flatMap Lexeme.text → IsBoundary text (r.offset + Text.bytes cs)
  frames : r.frames ≠ []
  first : ∀ c ∈ r.collected.reverse.head?, Text.isBlank c = false
  tidy : Tidy r.collected.reverse
  collected : r.IsOpen → r.collected ≠ []

theorem Sound.idle_of_collected {rest : List Char} (h : r.Sound rest) (hc : r.collected = []) :
    r.Idle := by
  obtain ⟨zs, hd, _⟩ := h.draft
  exact hd.eq_empty hc

/-- A text under way of blanks only is empty, and nothing is open. -/
theorem Sound.idle_of_text {rest : List Char} (h : r.Sound rest) (ht : r.text = []) : r.Idle := by
  obtain ⟨zs, hd, _⟩ := h.draft
  exact h.idle_of_collected (hd.collected_eq_nil ht)

theorem Idle.not_isOpen (h : r.Idle) : ¬r.IsOpen := by
  obtain ⟨-, hb, hz⟩ := idle_iff.mp h
  simp [IsOpen, hb, hz]

theorem Located.inOrder {text : String} (h : Located xs r) (hxs : lexemes text.toList = xs ++ ys)
    (hs : r.Sound (ys.flatMap Lexeme.text)) : InOrder text r ys := by
  obtain ⟨zs, hd, hj⟩ := hs.draft
  have htext : text.toList = xs.flatMap Lexeme.text ++ ys.flatMap Lexeme.text := by
    rw [← List.flatMap_append, ← hxs, flatMap_text_lexemes]
  refine ⟨?_, List.cons_ne_nil _ _, hd.first, hd.tidy hj, ?_⟩
  · rintro cs ⟨tail, hcs⟩
    rw [h.offset, ← Text.bytes_append]
    have hsplit : text.toList = xs.flatMap Lexeme.text ++ cs ++ tail := by
      rw [htext, ← hcs, List.append_assoc]
    exact isBoundary_of_append hsplit
  · intro hopen hc
    exact (hs.idle_of_collected hc).not_isOpen hopen

theorem step_closeBrace (r : Reading) : r.step (.mark '}') = r.closeBrace :=
  rfl

/-- Outside of all blocks there is nothing that a brace could close. -/
theorem closeBrace_outside (ho : r.outer = []) (hz : r.braces = 0) :
    r.step (.mark '}') = .error (.unbalanced '}' r.offset) := by
  rw [step_closeBrace, closeBrace, if_neg (by omega), ho]

/-- Inside an open bracket a brace does not close a block. -/
theorem Sound.closeBrace_refused {rest : List Char} (h : r.Sound rest) (hb : r.brackets ≠ [])
    (hz : r.braces = 0) (ho : r.outer ≠ []) :
    r.step (.mark '}') = .error (.trailing (String.ofList r.text)) := by
  have ht : r.text ≠ [] := fun ht => hb (idle_iff.mp (h.idle_of_text ht)).2.1
  obtain ⟨o, os, houter⟩ := List.exists_cons_of_ne_nil ho
  rw [step_closeBrace, closeBrace, if_neg (by omega), houter]
  simp [noTrailing, ht, bind, Except.bind]

/-- Where a statement ends or a block begins, nothing is open. -/
theorem Sound.closed_of_step {rest : List Char} (h : r.Sound rest) (hs : r.step x = .ok s)
    (hnew : s.frames ≠ r.frames) : ¬r.IsOpen := by
  cases step_of_ok hs with
  | keep _ hi ho => exact absurd (by rw [frames, frames, hi, ho]) hnew
  | line hb hz => simp [IsOpen, hb, hz]
  | opening hin => simp_all [IsOpen, inExpression]
  | closing _ ht => exact (h.idle_of_text ht).not_isOpen

end Reading

namespace Statement

/-- Before each lexeme of a text the reading is in order. The place moves on with every lexeme, so there
are no more of them than bytes; a statement ends, and a block begins, only where nothing is open; the
frame outside of all blocks is never closed, nor is any block inside an open bracket. -/
theorem inOrder_of_read {text : String} {xs ys : List Lexeme} {r : Reading}
    (hxs : lexemes text.toList = xs ++ ys) (hr : xs.foldlM Reading.step Reading.start = .ok r) :
    r.InOrder text ys ∧ xs.length ≤ r.offset ∧
      (∀ x zs s, ys = x :: zs → r.step x = .ok s →
        r.offset < s.offset ∧ (s.frames ≠ r.frames → ¬r.IsOpen)) ∧
      (r.outer = [] → r.braces = 0 → r.step (.mark '}') = .error (.unbalanced '}' r.offset)) ∧
      (r.brackets ≠ [] → r.braces = 0 → r.outer ≠ [] →
        r.step (.mark '}') = .error (.trailing (String.ofList r.text))) := by
  have hlocated : Reading.Located xs r := Reading.located_start.run hr
  have hsound := (Reading.sound_start text.toList).run_append hxs hr
  have hjoined := joined_lexemes text.toList
  rw [hxs] at hjoined
  obtain ⟨hbefore, hafter⟩ := joined_append.mp hjoined
  refine ⟨hlocated.inOrder hxs hsound, ?_, ?_, Reading.closeBrace_outside, ?_⟩
  · rw [hlocated.offset]
    exact hbefore.length_le_bytes
  · rintro x zs s rfl hs
    have hwidth := hafter.1.width_pos
    have hoffset := (hlocated.step hs).offset
    rw [List.flatMap_append, Text.bytes_append, ← hlocated.offset, List.flatMap_singleton,
      ← x.width_eq] at hoffset
    exact ⟨by omega, hsound.closed_of_step hs⟩
  · intro hb hz ho
    exact hsound.closeBrace_refused hb hz ho

/-- A brace comes inside a round bracket of a block, after a literal with what would be a comment and
two spaces outside of it, and after a character of two bytes. -/
theorem inOrder_of_read_call :
    let text := "\x7b f(\x22 //  \x22 , é \x7d"
    let xs : List Lexeme := [.mark '{', .blank ' ', .mark 'f', .mark '(',
      .literal "\x22 //  \x22".toList, .blank ' ', .mark ',', .blank ' ', .mark 'é', .blank ' ']
    let r : Reading :=
      ⟨17, [], [⟨[], "", 0⟩], "f(\x22 //  \x22 , é ".toList.reverse, [('(', 3)], 0⟩
    lexemes text.toList = xs ++ [.mark '}'] ∧ xs.foldlM Reading.step Reading.start = .ok r ∧
      r.InOrder text [.mark '}'] ∧ xs.length ≤ r.offset ∧
      r.step (.mark '}') = .error (.trailing "f(\x22 //  \x22 , é") := by
  intro text xs r
  have hxs : lexemes text.toList = xs ++ [.mark '}'] := by decide +kernel
  have hr : xs.foldlM Reading.step Reading.start = .ok r := by rfl
  obtain ⟨horder, hlength, -, -, hrefused⟩ := inOrder_of_read hxs hr
  have htext : String.ofList r.text = "f(\x22 //  \x22 , é" := by decide +kernel
  refine ⟨hxs, hr, horder, hlength, ?_⟩
  rw [hrefused (List.cons_ne_nil _ _) rfl (List.cons_ne_nil _ _), htext]

end Statement

end PatchSearch
