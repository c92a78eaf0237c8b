import Mathlib.Data.List.TakeWhile
import PatchSearch.Proofs.Statement.Lexemes

namespace PatchSearch

open Lexeme (IsQuote Quoted Next textBlockQuotes)

/-- A text is cut into pieces. Three double quotes always open a text block. -/
inductive Cuts : List Char → List (List Char) → Prop
  | nil : Cuts [] []
  | blank {c cs ps} : Text.isBlank c = true → Cuts cs ps → Cuts (c :: cs) ps
  | lineComment {line cs ps} : '\n' ∉ line → (∀ c ∈ cs.head?, c = '\n') → Cuts cs ps →
      Cuts ('/' :: '/' :: (line ++ cs)) ps
  | blockComment {inside cs ps} : Text.Precedes inside ['*', '/'] → Cuts cs ps →
      Cuts ('/' :: '*' :: (inside ++ (['*', '/'] ++ cs))) ps
  | textBlock {inside cs ps} : Text.Precedes inside textBlockQuotes → Cuts cs ps →
      Cuts (textBlockQuotes ++ (inside ++ (textBlockQuotes ++ cs)))
        ((textBlockQuotes ++ (inside ++ textBlockQuotes)) :: ps)
  | quoted {quote inside cs ps} : IsQuote quote → Quoted quote inside →
      ¬textBlockQuotes <+: quote :: (inside ++ cs) → Cuts cs ps →
      Cuts (quote :: (inside ++ cs)) ((quote :: inside) :: ps)
  | mark {c cs ps} : ¬IsQuote c → Text.isBlank c = false →
      (c = '/' → cs.head? ≠ some '/' ∧ cs.head? ≠ some '*') → Cuts cs ps → Cuts (c :: cs) ([c] :: ps)

theorem pieces_of_next {c : Char} {cs rest : List Char} {x : Lexeme} (h : Next c cs x rest) :
    pieces (c :: cs) = [x].filter Lexeme.isPiece ++ pieces rest := by
  rw [pieces, lexemes, h.eq, ← List.singleton_append, List.filter_append, pieces]

theorem next_lineComment {line cs : List Char} (hline : '\n' ∉ line)
    (hcs : ∀ c ∈ cs.head?, c = '\n') :
    Next '/' ('/' :: (line ++ cs)) (.lineComment ('/' :: '/' :: line)) cs := by
  have hall : ∀ c ∈ '/' :: line, decide (c ≠ '\n') = true := by
    intro c hc
    refine decide_eq_true fun he => ?_
    subst he
    rcases List.mem_cons.mp hc with hc | hc
    · exact absurd hc (by decide)
    · exact hline hc
  have hstop : cs.takeWhile (fun c => c ≠ '\n') = [] ∧ cs.dropWhile (fun c => c ≠ '\n') = cs := by
    cases cs with
    | nil => exact ⟨rfl, rfl⟩
    | cons c cs => simp [hcs c rfl]
  have hn : Next '/' ('/' :: line ++ cs) _ _ := .lineComment rfl
  rwa [List.takeWhile_append_of_pos hall, List.dropWhile_append_of_pos hall, hstop.1, hstop.2,
    List.append_nil] at hn

theorem next_blockComment {inside : List Char} (h : Text.Precedes inside ['*', '/'])
    (cs : List Char) : Next '/' ('*' :: (inside ++ (['*', '/'] ++ cs)))
      (.blockComment ('/' :: '*' :: (inside ++ ['*', '/']))) cs :=
  .blockComment rfl (Text.cutAt?_of_precedes h (List.cons_ne_nil _ _) cs)

theorem next_textBlock {inside : List Char} (h : Text.Precedes inside textBlockQuotes)
    (cs : List Char) :
    Next '\x22' ('\x22' :: '\x22' :: (inside ++ (textBlockQuotes ++ cs)))
      (.literal (textBlockQuotes ++ (inside ++ textBlockQuotes))) cs := by
  have hcut := Text.cutAt?_of_precedes h (List.cons_ne_nil _ _) cs
  have hpre : textBlockQuotes.isPrefixOf
      ('\x22' :: '\x22' :: '\x22' :: (inside ++ (textBlockQuotes ++ cs))) = true := rfl
  refine .literal (Or.inl rfl) ?_
  rw [Lexeme.closeLiteral?, if_pos hpre]
  simp [hcut]

theorem next_quoted {quote : Char} {inside cs : List Char} (hq : IsQuote quote)
    (h : Quoted quote inside) (hn : ¬textBlockQuotes <+: quote :: (inside ++ cs)) :
    Next quote (inside ++ cs) (.literal (quote :: inside)) cs := by
  refine .literal hq ?_
  rw [Lexeme.closeLiteral?, if_neg fun hp => hn (List.isPrefixOf_iff_prefix.mp hp)]
  exact h.closeQuote? hq cs

/-- There is no other cut than into the pieces that are read. -/
theorem Cuts.eq {cs : List Char} {ps : List (List Char)} (h : Cuts cs ps) :
    ps = (pieces cs).map Lexeme.text := by
  induction h with
  | nil => simp [pieces, lexemes]
  | blank hb _ ih =>
    rw [pieces_of_next (.blank hb), ih]
    rfl
  | lineComment hline hcs _ ih =>
    rw [pieces_of_next (next_lineComment hline hcs), ih]
    rfl
  | blockComment hi _ ih =>
    rw [pieces_of_next (next_blockComment hi _), ih]
    rfl
  | @textBlock _ cs _ hi _ ih =>
    have hp := pieces_of_next (next_textBlock hi cs)
    rw [ih]
    exact (congrArg (List.map Lexeme.text) hp).symm
  | quoted hq hi hn _ ih =>
    rw [pieces_of_next (next_quoted hq hi hn), ih]
    rfl
  | mark hq hb hc _ ih =>
    rw [pieces_of_next (.mark hq hc hb), ih]
    rfl

/-- What is read first is cut off first, if it ends. -/
theorem Cuts.of_next {c : Char} {cs rest : List Char} {x : Lexeme} {ps : List (List Char)}
    (h : Next c cs x rest) (hx : ∀ t, x ≠ .unclosed t) (hps : Cuts rest ps) :
    Cuts (c :: cs) (([x].filter Lexeme.isPiece).map Lexeme.text ++ ps) := by
  have happend := Lexeme.text_next_append c cs
  rw [h.eq] at happend
  rw [← happend]
  cases h with
  | @literal _ _ inside _ hq hc =>
    rcases Lexeme.closeLiteral?_cases hc with ⟨rfl, i, rfl, body, hb⟩ | ⟨hn, hc⟩
    · have hi : Text.Precedes i textBlockQuotes := Text.precedes_of_cutAt? (List.cons_ne_nil _ _) hb
      have hcuts := Cuts.textBlock hi hps
      rw [← List.append_assoc i, ← List.append_assoc textBlockQuotes] at hcuts
      exact hcuts
    · exact .quoted hq (Lexeme.quoted_of_closeQuote? hc)
        (fun hp => hn (List.isPrefixOf_iff_prefix.mpr hp)) hps
  | openLiteral => exact absurd rfl (hx _)
  | @lineComment cs hh =>
    obtain ⟨tail, rfl⟩ := List.head?_eq_some_iff.mp hh
    refine .lineComment (fun hm => ?_) (fun c hc => ?_) hps
    · simpa using List.mem_takeWhile_imp hm
    · have hhead := List.head?_dropWhile_not (fun c => decide (c ≠ '\n')) ('/' :: tail)
      rw [Option.mem_def.mp hc] at hhead
      simpa using hhead
  | @blockComment cs inside rest hh hc =>
    obtain ⟨tail, rfl⟩ := List.head?_eq_some_iff.mp hh
    have hi : Text.Precedes inside ['*', '/'] := Text.precedes_of_cutAt? (List.cons_ne_nil _ _) hc
    have hcuts := Cuts.blockComment hi hps
    rw [← List.append_assoc inside] at hcuts
    exact hcuts
  | openComment => exact absurd rfl (hx _)
  | blank hb => exact .blank hb hps
  | mark hq hs hb => exact .mark hq hb hs hps

/-- A text in which everything ends has a cut. -/
theorem cuts_pieces {cs : List Char} (h : ∀ x ∈ lexemes cs, ∀ t, x ≠ .unclosed t) :
    Cuts cs ((pieces cs).map Lexeme.text) := by
  fun_induction lexemes cs with
  | case1 => simpa [pieces, lexemes] using Cuts.nil
  | case2 c cs _ ih =>
    have hcuts := ih fun x hx => h x (List.mem_cons_of_mem _ hx)
    rw [pieces_of_next (Lexeme.next_spec c cs), List.map_append]
    exact hcuts.of_next (Lexeme.next_spec c cs) (h _ (List.mem_cons_self ..))

theorem cuts_iff {cs : List Char} (h : ∀ x ∈ lexemes cs, ∀ t, x ≠ .unclosed t)
    {ps : List (List Char)} : Cuts cs ps ↔ ps = (pieces cs).map Lexeme.text := by
  refine ⟨Cuts.eq, ?_⟩
  rintro rfl
  exact cuts_pieces h

end PatchSearch
