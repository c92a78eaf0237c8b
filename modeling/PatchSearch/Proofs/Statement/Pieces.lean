import PatchSearch.Proofs.Statement.Cutting
import PatchSearch.Proofs.Statement.RoundTrip

namespace PatchSearch

namespace Statement

mutual

/-- The pieces of the lines, headers and braces of a statement. -/
def pieces : Statement → List Lexeme
  | .simple text => PatchSearch.pieces text.toList
  | .block header body =>
    PatchSearch.pieces header.toList ++ .mark '{' :: (piecesAll body ++ [.mark '}'])

def piecesAll : List Statement → List Lexeme
  | [] => []
  | s :: ss => s.pieces ++ piecesAll ss

end

theorem piecesAll_append (ss ts : List Statement) :
    piecesAll (ss ++ ts) = piecesAll ss ++ piecesAll ts := by
  induction ss with
  | nil => rfl
  | cons s ss ih => simp only [List.cons_append, piecesAll, ih, List.append_assoc]

theorem piecesAll_reverse_cons (s : Statement) (ss : List Statement) :
    piecesAll (s :: ss).reverse = piecesAll ss.reverse ++ s.pieces := by
  simp [piecesAll_append, piecesAll]

end Statement

theorem pieces_mark {c : Char} (h : c = ';' ∨ c = '\x7b' ∨ c = '\x7d') : pieces [c] = [.mark c] := by
  have hl : lexemes [c] = .mark c :: lexemes [] := (reads_mark h []).lexemes
  simp [pieces, hl, lexemes]

namespace Draft

variable {xs : List Lexeme} {p : Pending}

/-- The text under way on its own has the lexemes of the draft. -/
theorem lexemes_collected {rest : List Char} (h : Draft xs p) (hj : Joined xs rest) :
    lexemes p.collected.reverse = xs := by
  have hend : Joined xs [] := hj.congr h.isKept (fun x _ => x.endsBefore_of_blank (by simp))
  simpa [h.collected, lexemes] using hend.lexemes

/-- A finished line has the pieces of its draft and the semicolon. -/
theorem pieces_line {rest : List Char} (h : Draft xs p) (hj : Joined xs (';' :: rest)) :
    pieces (Text.trim (p.collected.reverse ++ [';'])) =
      pieces p.collected.reverse ++ [.mark ';'] := by
  rw [h.trim_line, pieces, h.collected, (h.joined_head hj).lexemes, List.filter_append, ← h.collected,
    pieces, h.lexemes_collected hj]
  exact congrArg _ (pieces_mark (Or.inl rfl))

/-- The space that a header may end with is no piece of it. -/
theorem pieces_header {rest : List Char} (h : Draft xs p) (hj : Joined xs rest) :
    pieces (Text.trim p.collected.reverse) = pieces p.collected.reverse := by
  by_cases hs : p.collected.head? = some ' '
  · obtain ⟨ys, q, hq, rfl, rfl, _, hn⟩ := h.dropSpace hs
    have hy := (joined_append.mp hj).1
    rw [pieces, pieces, h.lexemes_collected hj, Pending.collected_push_space,
      Text.trim_append_blank rfl, hq.trim_collected hn, hq.lexemes_collected hy]
    simp
  · rw [h.trim_collected hs]

end Draft

/-- The pieces up to the brace of a block that is still open, those of outer blocks apart. -/
def Opening.pieces (o : Opening) : List Lexeme :=
  Statement.piecesAll o.before.reverse ++ PatchSearch.pieces o.header.toList ++ [.mark '{']

namespace Reading

/-- The pieces of everything that a reading holds. -/
def pieces (r : Reading) : List Lexeme :=
  r.outer.reverse.flatMap Opening.pieces ++ Statement.piecesAll r.items.reverse ++
    PatchSearch.pieces r.collected.reverse

theorem Idle.pieces {r : Reading} (h : r.Idle) :
    r.pieces = r.outer.reverse.flatMap Opening.pieces ++ Statement.piecesAll r.items.reverse := by
  simp [Reading.pieces, (idle_iff.mp h).1, PatchSearch.pieces, lexemes]

/-- Reading one lexeme adds its piece, or nothing for a blank or comment. -/
theorem Sound.pieces_step {r s : Reading} {x : Lexeme} {c : Char} {cs rest : List Char}
    (h : r.Sound (c :: cs)) (hn : Lexeme.Next c cs x rest) (hs : r.step x = .ok s) :
    s.pieces = r.pieces ++ [x].filter Lexeme.isPiece := by
  obtain ⟨xs, hd, hj⟩ := h.draft
  -- Pieces move from the draft to the statements and from there into blocks, but never change places.
  cases step_of_ok hs with
  | keep ht hi ho =>
    obtain ⟨ys, hd', hj', hp⟩ := hd.advance hj hn ht
    have hr : PatchSearch.pieces r.collected.reverse = xs.filter Lexeme.isPiece :=
      congrArg _ (hd.lexemes_collected hj)
    have hs : PatchSearch.pieces s.collected.reverse = ys.filter Lexeme.isPiece :=
      congrArg _ (hd'.lexemes_collected hj')
    rw [pieces, pieces, hi, ho, hr, hs, hp, List.append_assoc _ _ ([x].filter _)]
  | line _ _ hi ho hidle =>
    cases hn with
    | mark =>
      have hl := hd.pieces_line hj
      simp only [pending] at hl
      rw [hidle.pieces, hi, ho, pieces, Statement.piecesAll_reverse_cons]
      simp [Statement.pieces, hl, List.filter_cons]
  | opening _ hi ho hidle =>
    have hh := hd.pieces_header hj
    simp only [pending] at hh
    rw [hidle.pieces, hi, ho, pieces]
    simp [Opening.pieces, text, hh, Statement.piecesAll, List.filter_cons]
  | @closing s o _ ht ho hi hp =>
    have hempty : r.pending = .empty := hd.eq_empty (hd.collected_eq_nil ht)
    have hidle : s.Idle := hp.trans hempty
    rw [hidle.pieces, Idle.pieces hempty, hi, ho, Statement.piecesAll_reverse_cons, Statement.pieces]
    simp [Opening.pieces, List.filter_cons]

/-- Reading a text adds the pieces of the text. -/
theorem Sound.pieces_run {r s : Reading} {cs : List Char} (h : r.Sound cs)
    (hs : (lexemes cs).foldlM Reading.step r = .ok s) :
    s.pieces = r.pieces ++ PatchSearch.pieces cs := by
  fun_induction lexemes cs generalizing r with
  | case1 =>
    cases Except.ok.inj hs
    simp [PatchSearch.pieces, lexemes]
  | case2 c cs _ ih =>
    rw [List.foldlM_cons] at hs
    obtain ⟨r', hr, hs⟩ := exists_ok_of_bind hs
    have hn := Lexeme.next_spec c cs
    rw [ih (h.step hn hr) hs, h.pieces_step hn hr, PatchSearch.pieces, PatchSearch.pieces, lexemes,
      List.append_assoc, ← List.filter_append, List.singleton_append]

/-- Nothing can be read on after a literal or comment without an end. -/
theorem ends_of_run {r s : Reading} {xs : List Lexeme} (h : xs.foldlM Reading.step r = .ok s) :
    ∀ x ∈ xs, ∀ t, x ≠ .unclosed t := by
  induction xs generalizing r with
  | nil => exact fun x hx => absurd hx List.not_mem_nil
  | cons x xs ih =>
    rw [List.foldlM_cons] at h
    obtain ⟨r', hr, h⟩ := exists_ok_of_bind h
    intro y hy
    rcases List.mem_cons.mp hy with rfl | hy
    · rintro t rfl
      simp [step] at hr
    · exact ih h y hy

/-- Blanks and comments between two statements leave no trace. -/
theorem Idle.skip {r : Reading} {xs : List Lexeme} (h : r.Idle)
    (hx : ∀ x ∈ xs, x.isPiece = false) :
    ∃ s, xs.foldlM Reading.step r = .ok s ∧ s.Idle ∧ s.items = r.items ∧ s.outer = r.outer := by
  induction xs generalizing r with
  | nil => exact ⟨r, rfl, h, rfl, rfl⟩
  | cons x xs ih =>
    have ht : r.pending.take? x = some .empty := by
      rw [show r.pending = .empty from h]
      have hgap := hx x (List.mem_cons_self ..)
      cases x with
      | blank | blockComment | lineComment => rfl
      | literal | mark | unclosed => exact absurd hgap (by simp [Lexeme.isPiece])
    obtain ⟨t, hok, hp, hi, ho⟩ := step_ok_of_take? ht
    obtain ⟨s, hs, hidle, hi', ho'⟩ :=
      ih (show t.Idle from hp) fun y hy => hx y (List.mem_cons_of_mem x hy)
    refine ⟨s, ?_, hidle, hi'.trans hi, ho'.trans ho⟩
    rw [List.foldlM_cons, hok]
    exact hs

end Reading

namespace Statement

/-- The statements that are read have the pieces of the text. -/
theorem pieces_of_parseAll {text : String} {ss : List Statement} (h : parseAll text = .ok ss) :
    PatchSearch.pieces text.toList = piecesAll ss := by
  obtain ⟨r, hr, h⟩ := exists_ok_of_bind h
  obtain ⟨ho, ht, rfl⟩ := Reading.finish_ok h
  have hs := (Reading.sound_start _).run hr
  obtain ⟨xs, hd, _⟩ := hs.draft
  have hc : r.collected = [] := hd.collected_eq_nil ht
  have hp := (Reading.sound_start text.toList).pieces_run hr
  rw [Reading.pieces, ho, hc] at hp
  simpa [Reading.pieces, Reading.start, PatchSearch.pieces, lexemes, piecesAll] using hp.symm

/-- A text that is read has one cut, into the pieces of its statements. -/
theorem cuts_of_parseAll {text : String} {ss : List Statement} (h : parseAll text = .ok ss)
    (ps : List (List Char)) : Cuts text.toList ps ↔ ps = (piecesAll ss).map Lexeme.text := by
  obtain ⟨r, hr, _⟩ := exists_ok_of_bind h
  rw [cuts_iff (Reading.ends_of_run hr), pieces_of_parseAll h]

theorem Readable.pieces_ne_nil {s : Statement} (h : s.Readable) : s.pieces ≠ [] := by
  cases h with
  | simple hl =>
    obtain ⟨xs, p, hd, hj, _, _, ht⟩ := hl
    rw [pieces, ht, ← hd.trim_line, hd.pieces_line hj]
    simp
  | block => simp [pieces]

/-- Only an empty list of statements that are read has no pieces. -/
theorem piecesAll_eq_nil {ss : List Statement} (h : ∀ s ∈ ss, s.Readable) :
    piecesAll ss = [] ↔ ss = [] := by
  cases ss with
  | nil => simp [piecesAll]
  | cons s ss =>
    have hs := (h s (List.mem_cons_self ..)).pieces_ne_nil
    simp [piecesAll, hs]

/-- A text of blanks and comments holds no statements. -/
theorem parseAll_of_pieces_eq_nil {text : String} (h : PatchSearch.pieces text.toList = []) :
    parseAll text = .ok [] := by
  have hx : ∀ x ∈ lexemes text.toList, x.isPiece = false := by simpa [PatchSearch.pieces] using h
  obtain ⟨s, hr, hidle, hi, ho⟩ := Reading.Idle.skip (r := Reading.start) rfl hx
  rw [parseAll, hr]
  exact (hidle.finish ho).trans (by rw [hi]; rfl)

end Statement

/-- Two steps fail with an error only if one of them does. -/
theorem bind_ne_error {ε α β : Type} {x : Except ε α} {f : α → Except ε β} {e : ε}
    (hx : x ≠ .error e) (hf : ∀ a, f a ≠ .error e) : x >>= f ≠ .error e := by
  cases x with
  | error => exact fun h => hx (congrArg _ (Except.error.inj h))
  | ok a => exact hf a

theorem foldlM_ne_error {ε α β : Type} {f : α → β → Except ε α} {e : ε}
    (h : ∀ a b, f a b ≠ .error e) (bs : List β) (a : α) : bs.foldlM f a ≠ .error e := by
  induction bs generalizing a with
  | nil => simp [pure, Except.pure]
  | cons b bs ih =>
    rw [List.foldlM_cons]
    exact bind_ne_error (h a b) ih

namespace Reading

theorem noTrailing_ne_empty (r : Reading) : r.noTrailing ≠ .error .empty := by
  unfold noTrailing
  split <;> simp

/-- Reading never complains about a lack of statements; only what needs one does. -/
theorem step_ne_empty (r : Reading) (x : Lexeme) : r.step x ≠ .error .empty := by
  have hbracket : ∀ c, r.closeBracket c ≠ .error .empty := by
    intro c
    unfold closeBracket
    grind
  have hbrace : r.closeBrace ≠ .error .empty := by
    unfold closeBrace
    split
    · simp
    · split
      · simp
      · exact bind_ne_error r.noTrailing_ne_empty (fun _ h => by simp [pure, Except.pure] at h)
  cases x with
  | mark c =>
    simp only [step, mark]
    grind
  | literal | blank | blockComment | lineComment | unclosed => simp [step]

theorem finish_ne_empty (r : Reading) : r.finish ≠ .error .empty := by
  unfold finish
  split
  · simp
  · split
    · simp
    · split
      · simp
      · exact bind_ne_error r.noTrailing_ne_empty (fun _ h => by simp [pure, Except.pure] at h)

end Reading

namespace Statement

/-- A text lacks the statement that is asked for exactly if it is read as no statements. -/
theorem parse_eq_empty_iff {text : String} : parse text = .error .empty ↔ parseAll text = .ok [] := by
  have hne : parseAll text ≠ .error .empty :=
    bind_ne_error (foldlM_ne_error Reading.step_ne_empty _ _) Reading.finish_ne_empty
  unfold parse
  cases h : parseAll text with
  | error e =>
    have he : e ≠ .empty := by
      rintro rfl
      exact hne h
    simpa [bind, Except.bind] using he
  | ok ss =>
    match ss with
    | [] | [_] | _ :: _ :: _ => simp [single, bind, Except.bind]

/-- Reading and printing lose and invent nothing: the text that is read and the rendering have the same
cut. There are no statements in a text exactly if it is cut into nothing, and then, and only then, a text
that has to be one statement is refused as empty. -/
theorem pieces_render (text : String) :
    (∀ items, parseAll text = .ok items → ∃ ps, (∀ qs, Cuts text.toList qs ↔ qs = ps) ∧
      Cuts (SourceTree.ofItems items).render.toList ps ∧ (items = [] ↔ ps = [])) ∧
    (parse text = .error .empty ↔ Cuts text.toList []) := by
  refine ⟨fun items h => ?_, ?_⟩
  · have hr := readable_of_parseAll h
    have hrender : parseAll (SourceTree.ofItems items).render = .ok items := by
      rw [SourceTree.render_ofItems]
      exact parseAll_renderAll hr
    refine ⟨_, cuts_of_parseAll h, (cuts_of_parseAll hrender _).mpr rfl, ?_⟩
    rw [List.map_eq_nil_iff, piecesAll_eq_nil hr]
  · rw [parse_eq_empty_iff]
    refine ⟨fun h => (cuts_of_parseAll h _).mpr rfl, fun h => parseAll_of_pieces_eq_nil ?_⟩
    exact List.map_eq_nil_iff.mp h.eq.symm

/-- A comment goes, a literal stays whole, and the other characters keep their order. -/
theorem pieces_render_fragment :
    let text := "a( /* b; */ \x22c  \x7b\x22 ); // d\nif (e)\t\x7b f ; \x7d"
    let items := [.simple "a( \x22c  \x7b\x22 );", .block "if (e)" [.simple "f ;"]]
    let ps := ["a", "(", "\x22c  \x7b\x22", ")", ";", "i", "f", "(", "e", ")", "\x7b", "f", ";",
      "\x7d"].map String.toList
    parseAll text = .ok items ∧ (∀ qs, Cuts text.toList qs ↔ qs = ps) ∧
      Cuts (SourceTree.ofItems items).render.toList ps ∧ (items = [] ↔ ps = []) := by
  intro text items ps
  have hall : parseAll text = .ok items := by decide +kernel
  obtain ⟨qs, htext, hrender, hnil⟩ := (pieces_render text).1 items hall
  have hqs : qs = ps := by
    rw [((htext qs).mpr rfl).eq]
    decide +kernel
  subst hqs
  exact ⟨hall, htext, hrender, hnil⟩

end Statement

end PatchSearch
