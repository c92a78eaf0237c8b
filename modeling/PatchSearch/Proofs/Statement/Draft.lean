import PatchSearch.Proofs.Statement.Lexemes
import PatchSearch.Proofs.Statement.Pending

namespace PatchSearch

namespace Lexeme

/-- Literals and marks; they neither begin nor end with a blank. -/
structure Solid (x : Lexeme) : Prop where
  word : (∃ t, x = .literal t) ∨ ∃ c, x = .mark c
  first : ∃ c cs, x.text = c :: cs ∧ Text.isBlank c = false
  last : ∃ c cs, x.text = cs ++ [c] ∧ Text.isBlank c = false

theorem isBlank_of_isQuote {c : Char} (h : IsQuote c) : Text.isBlank c = false := by
  rcases h with rfl | rfl <;> rfl

theorem closeLiteral?_getLast {quote : Char} {cs inside rest : List Char}
    (h : closeLiteral? quote cs = some (inside, rest)) : inside.getLast? = some quote := by
  rcases closeLiteral?_cases h with ⟨rfl, i, rfl, _⟩ | ⟨_, hc⟩
  · simp [textBlockQuotes, List.getLast?_append, List.getLast?_cons]
  · exact (quoted_of_closeQuote? hc).getLast

theorem solid_literal {c : Char} {cs inside rest : List Char} (hq : IsQuote c)
    (h : closeLiteral? c cs = some (inside, rest)) : Solid (.literal (c :: inside)) := by
  obtain ⟨front, hf⟩ := List.getLast?_eq_some_iff.mp (closeLiteral?_getLast h)
  exact ⟨Or.inl ⟨_, rfl⟩, ⟨c, inside, rfl, isBlank_of_isQuote hq⟩,
    ⟨c, c :: front, by simp [text, hf], isBlank_of_isQuote hq⟩⟩

theorem solid_mark {c : Char} (h : Text.isBlank c = false) : Solid (.mark c) :=
  ⟨Or.inr ⟨c, rfl⟩, ⟨c, [], rfl, h⟩, ⟨c, [], rfl, h⟩⟩

theorem Solid.isKept {x : Lexeme} (h : x.Solid) : x.IsKept := by
  rcases h.word with ⟨t, rfl⟩ | ⟨c, rfl⟩ <;> trivial

theorem Solid.collected {x : Lexeme} {p q : Pending} (h : x.Solid) (ht : p.take? x = some q) :
    q.collected = x.text.reverse ++ p.collected := by
  rcases h.word with ⟨t, rfl⟩ | ⟨c, rfl⟩
  · cases Option.some.inj ht
    rfl
  · exact Pending.mark?_collected ht

theorem Solid.collected_head {x : Lexeme} {p q : Pending} (h : x.Solid) (ht : p.take? x = some q) :
    ∃ c, q.collected.head? = some c ∧ Text.isBlank c = false := by
  obtain ⟨c, cs, hx, hc⟩ := h.last
  exact ⟨c, by simp [h.collected ht, hx], hc⟩

end Lexeme

/-- The lexemes that are left of a statement under way. -/
inductive Draft : List Lexeme → Pending → Prop
  | nil : Draft [] .empty
  | space {xs p} : Draft xs p → p.collected ≠ [] → p.collected.head? ≠ some ' ' →
      Draft (xs ++ [.blank ' ']) (p.push [' '])
  | solid {xs p x q} : Draft xs p → x.Solid → p.take? x = some q → Draft (xs ++ [x]) q

namespace Draft

variable {xs : List Lexeme} {p : Pending}

theorem isKept (h : Draft xs p) : ∀ x ∈ xs, x.IsKept := by
  induction h with
  | nil => simp
  | space _ _ _ ih =>
    intro x hx
    rcases List.mem_append.mp hx with hx | hx
    · exact ih x hx
    · cases List.mem_singleton.mp hx
      rfl
  | solid _ hs _ ih =>
    intro x hx
    rcases List.mem_append.mp hx with hx | hx
    · exact ih x hx
    · cases List.mem_singleton.mp hx
      exact hs.isKept

/-- The text under way is the text of the draft. -/
theorem collected (h : Draft xs p) : p.collected.reverse = xs.flatMap Lexeme.text := by
  induction h with
  | nil => rfl
  | space _ _ _ ih => simp [Pending.push, Lexeme.text, ih]
  | solid _ hs ht ih => simp [hs.collected ht, ih]

/-- The text under way does not begin with a blank. -/
theorem first (h : Draft xs p) : ∀ c ∈ p.collected.reverse.head?, Text.isBlank c = false := by
  induction h with
  | nil => simp [Pending.empty]
  | @space _ p _ hne _ ih =>
    intro c hc
    have hr : p.collected.reverse ≠ [] := by simpa using hne
    have hh : (p.push [' ']).collected.reverse.head? = p.collected.reverse.head? := by
      simp [Pending.push, List.head?_append_of_ne_nil _ hr]
    exact ih c (hh ▸ hc)
  | @solid _ p x q _ hs ht ih =>
    intro c hc
    rw [hs.collected ht, List.reverse_append, List.reverse_reverse] at hc
    cases hr : p.collected.reverse with
    | nil =>
      obtain ⟨d, ds, hx, hd⟩ := hs.first
      rw [hr, hx, List.nil_append, List.head?_cons] at hc
      cases Option.mem_some.mp hc
      exact hd
    | cons d ds =>
      rw [hr, List.cons_append, List.head?_cons] at hc
      exact ih c (by simp [hr, Option.mem_some.mp hc])

/-- The text under way ends with a space or with no blank. -/
theorem last (h : Draft xs p) : ∀ c ∈ p.collected.head?, c ≠ ' ' → Text.isBlank c = false := by
  cases h with
  | nil => simp [Pending.empty]
  | space => simp [Pending.push]
  | solid _ hx ht =>
    intro c hc _
    obtain ⟨d, hd, hb⟩ := hx.collected_head ht
    cases Option.some.inj (hd.symm.trans hc)
    exact hb

/-- A draft that ends with a space is a draft without it. -/
theorem dropSpace (h : Draft xs p) (hs : p.collected.head? = some ' ') :
    ∃ ys q, Draft ys q ∧ xs = ys ++ [.blank ' '] ∧ p = q.push [' '] ∧ q.collected ≠ [] ∧
      q.collected.head? ≠ some ' ' := by
  cases h with
  | nil => simp [Pending.empty] at hs
  | space h hne hn => exact ⟨_, _, h, rfl, rfl, hne, hn⟩
  | solid _ hx ht =>
    obtain ⟨d, hd, hb⟩ := hx.collected_head ht
    cases Option.some.inj (hd.symm.trans hs)
    exact absurd hb (by decide)

theorem eq_empty (h : Draft xs p) (hc : p.collected = []) : p = .empty := by
  cases h with
  | nil => rfl
  | space => simp [Pending.push] at hc
  | solid _ hx ht =>
    obtain ⟨d, hd, _⟩ := hx.collected_head ht
    simp [hc] at hd

/-- After a space, or before anything is collected, the draft ends before any character. -/
theorem endsBefore (h : Draft xs p) (hs : p.collected = [] ∨ p.collected.head? = some ' ')
    (d : Option Char) : ∀ x ∈ xs.getLast?, x.EndsBefore d := by
  cases h with
  | nil => simp
  | space => simp [Lexeme.EndsBefore]
  | solid _ hx ht =>
    obtain ⟨c, hc, hb⟩ := hx.collected_head ht
    rcases hs with hs | hs
    · simp [hs] at hc
    · cases Option.some.inj (hc.symm.trans hs)
      exact absurd hb (by decide)

theorem advance_solid {q : Pending} {x : Lexeme} {c : Char} {cs rest : List Char} (h : Draft xs p)
    (hj : Joined xs (c :: cs)) (hn : Lexeme.Next c cs x rest) (hx : x.Solid) (ht : p.take? x = some q) :
    ∃ ys, Draft ys q ∧ Joined ys rest ∧
      ys.filter Lexeme.isPiece = xs.filter Lexeme.isPiece ++ [x].filter Lexeme.isPiece := by
  have htext := Lexeme.text_next_append c cs
  rw [hn.eq] at htext
  refine ⟨xs ++ [x], .solid h hx ht, joined_append.mpr ⟨?_, joined_singleton.mpr ⟨c, cs, hn⟩⟩,
    List.filter_append ..⟩
  simpa [htext] using hj

/-- A blank or a comment adds a space to the draft, unless the draft is empty or ends with one. -/
theorem advance_space {cs rest : List Char} (h : Draft xs p) (hj : Joined xs cs) :
    ∃ ys, Draft ys p.space ∧ Joined ys rest ∧
      ys.filter Lexeme.isPiece = xs.filter Lexeme.isPiece := by
  by_cases hs : p.collected = [] ∨ p.collected.head? = some ' '
  · rw [Pending.space_eq_self hs]
    exact ⟨xs, h, hj.congr h.isKept (h.endsBefore hs _), rfl⟩
  · obtain ⟨hne, hh⟩ := not_or.mp hs
    rw [Pending.space_eq_push hne hh]
    refine ⟨xs ++ [.blank ' '], .space h hne hh, joined_append.mpr ⟨?_, ?_⟩, ?_⟩
    · exact hj.congr h.isKept (fun y _ => y.endsBefore_of_blank (by simp [Lexeme.text]; rfl))
    · exact joined_singleton.mpr ⟨' ', rest, .blank rfl⟩
    · simp [Lexeme.isPiece]

/-- A line comment ends before the end of its line, and that is a blank. -/
theorem joined_lineComment {cs : List Char} {c : Char} (h : Draft xs p) (hj : Joined xs (c :: cs)) :
    Joined xs (cs.dropWhile (· ≠ '\n')) := by
  refine hj.congr h.isKept (fun y _ => y.endsBefore_of_blank ?_)
  intro d hd
  have hd' := List.head?_dropWhile_not (· ≠ '\n') cs
  rw [Option.mem_def.mp hd] at hd'
  obtain rfl : d = '\n' := by simpa using hd'
  rfl

/-- Reading a lexeme that stays in the statement under way prolongs the draft; a blank or a comment
adds no piece to it. -/
theorem advance {q : Pending} {x : Lexeme} {c : Char} {cs rest : List Char} (h : Draft xs p)
    (hj : Joined xs (c :: cs)) (hn : Lexeme.Next c cs x rest) (ht : p.take? x = some q) :
    ∃ ys, Draft ys q ∧ Joined ys rest ∧
      ys.filter Lexeme.isPiece = xs.filter Lexeme.isPiece ++ [x].filter Lexeme.isPiece := by
  cases hn with
  | literal hq hl => exact h.advance_solid hj (.literal hq hl) (Lexeme.solid_literal hq hl) ht
  | mark hq hc hb => exact h.advance_solid hj (.mark hq hc hb) (Lexeme.solid_mark hb) ht
  | blank =>
    cases Option.some.inj ht
    simpa [Lexeme.isPiece] using h.advance_space hj
  | blockComment =>
    cases Option.some.inj ht
    simpa [Lexeme.isPiece] using h.advance_space hj
  | lineComment hs =>
    cases Option.some.inj ht
    exact ⟨xs, h, h.joined_lineComment hj, by simp [Lexeme.isPiece]⟩
  | openLiteral => simp [Pending.take?] at ht
  | openComment => simp [Pending.take?] at ht

end Draft

end PatchSearch
