import PatchSearch.Proofs.Statement.RoundTrip
import PatchSearch.Proofs.Statement.Seams

namespace PatchSearch

namespace Nest

variable {n n' : Nest}

/-- Statements and open blocks inside the innermost block of `base`. -/
def place (base : Nest) (items : List Statement) : (outer : List (List Statement × String)) → Nest
  | [] => ⟨items ++ base.items, base.outer⟩
  | (before, header) :: outer => { (base.place before outer).enter header with items := items }

/-- The statements and open blocks read after those of `base`. -/
def onto (n base : Nest) : Nest :=
  base.place n.items n.outer

theorem add_onto (n base : Nest) (s : Statement) : (n.add s).onto base = (n.onto base).add s := by
  obtain ⟨items, outer⟩ := n
  cases outer with
  | nil => rfl
  | cons => rfl

theorem leave?_onto (base : Nest) (h : n.leave? = some n') :
    (n.onto base).leave? = some (n'.onto base) := by
  obtain ⟨items, outer⟩ := n
  cases outer with
  | nil => cases h
  | cons o outer =>
    cases Option.some.inj h
    exact congrArg some (add_onto ⟨o.1, outer⟩ base (.block o.2 items.reverse)).symm

end Nest

namespace Progress

variable {p q : Progress} {x : Lexeme} {c : Char}

def onto (p : Progress) (base : Nest) : Progress :=
  ⟨p.nest.onto base, p.pending⟩

theorem turn?_onto (base : Nest) (h : p.turn? c = some q) :
    (p.onto base).turn? c = some (q.onto base) := by
  unfold turn? at h
  split at h
  next =>
    cases Option.some.inj h
    exact congrArg (fun n => some (Progress.mk n .empty)) (p.nest.add_onto base _).symm
  next =>
    cases Option.some.inj h
    rfl
  next =>
    split at h
    next ht =>
      obtain ⟨n, hn, rfl⟩ := Option.map_eq_some_iff.mp h
      have hleave := Nest.leave?_onto base hn
      simp only [turn?, onto, ht, if_true, hleave, Option.map_some]
    next => cases h
  next => cases h

/-- What is read does not depend on what stands outside. -/
theorem step?_onto (base : Nest) (h : p.step? x = some q) :
    (p.onto base).step? x = some (q.onto base) := by
  rcases step?_cases h with ⟨pending, ht, rfl⟩ | ⟨c, rfl, hn, hturn⟩
  · exact step?_of_take? ht
  · have hn' : (p.onto base).pending.take? (.mark c) = none := hn
    exact (step?_of_turn? hn').trans (turn?_onto base hturn)

theorem foldlM_onto (base : Nest) {xs : List Lexeme} (h : xs.foldlM step? p = some q) :
    xs.foldlM step? (p.onto base) = some (q.onto base) := by
  induction xs generalizing p with
  | nil =>
    cases Option.some.inj h
    rfl
  | cons x xs ih =>
    rw [List.foldlM_cons] at h ⊢
    obtain ⟨p', hp, h⟩ := Option.bind_eq_some_iff.mp h
    rw [step?_onto base hp]
    exact ih h

end Progress

/-- After a text in which everything ends a new line begins with a blank. -/
theorem lexemes_append_newline {cs : List Char} (hx : ∀ x ∈ lexemes cs, x.IsClosed) (ds : List Char) :
    lexemes (cs ++ '\n' :: ds) = lexemes cs ++ .blank '\n' :: lexemes ds := by
  have hstops : ∀ x ∈ (lexemes cs).getLast?, x.StopsBefore (some '\n') := by
    refine fun x _ => ⟨x.endsBefore_of_blank fun c hc => ?_, fun _ _ c hc => ?_⟩
    · obtain rfl := Option.mem_some.mp hc
      rfl
    · exact (Option.mem_some.mp hc).symm
  have hj : Joined (lexemes cs) ('\n' :: ds) := (joined_lexemes cs).congr_of_stops hx hstops
  have hline : lexemes ('\n' :: ds) = .blank '\n' :: lexemes ds := by
    rw [lexemes, (Lexeme.Next.blank (by rfl)).eq]
  have hlexemes := hj.lexemes
  rwa [flatMap_text_lexemes, hline] at hlexemes

namespace Statement

variable {text : String} {ss : List Statement}

/-- A text that can be read leaves no block open and nothing under way. -/
theorem foldlM_of_parseAll (h : parseAll text = .ok ss) :
    (lexemes text.toList).foldlM Progress.step? Progress.start = some ⟨⟨ss.reverse, []⟩, .empty⟩ := by
  obtain ⟨r, hr, h⟩ := exists_ok_of_bind h
  obtain ⟨houter, htext, rfl⟩ := Reading.finish_ok h
  obtain ⟨xs, hdraft, _⟩ := ((Reading.sound_start _).run hr).draft
  have hempty : r.pending = .empty := hdraft.eq_empty (hdraft.collected_eq_nil htext)
  refine Reading.foldlM_progress.mpr ⟨r, hr, ?_⟩
  rw [Reading.progress, hempty, Reading.nest, houter, List.reverse_reverse]
  rfl

/-- Wherever a statement can begin, a text that can be read adds its statements. -/
theorem foldlM_onto_of_parseAll (h : parseAll text = .ok ss) (base : Nest) :
    (lexemes text.toList).foldlM Progress.step? ⟨base, .empty⟩ =
      some ⟨⟨ss.reverse ++ base.items, base.outer⟩, .empty⟩ :=
  Progress.foldlM_onto base (foldlM_of_parseAll h)

theorem isClosed_of_parseAll (h : parseAll text = .ok ss) : ∀ x ∈ lexemes text.toList, x.IsClosed :=
  Progress.isClosed_of_foldlM (foldlM_of_parseAll h)

/-- A text, a line end and another text have the statements of both. -/
theorem parseAll_append_newline {text' : String} {ss' : List Statement} (h : parseAll text = .ok ss)
    (h' : parseAll text' = .ok ss') : parseAll (text ++ "\n" ++ text') = .ok (ss ++ ss') := by
  have hsplit : (text ++ "\n" ++ text').toList = text.toList ++ '\n' :: text'.toList := by simp
  rw [parseAll_eq_ok_iff, Progress.readAll?, hsplit, lexemes_append_newline (isClosed_of_parseAll h),
    List.foldlM_append, foldlM_of_parseAll h]
  change ((lexemes text'.toList).foldlM Progress.step? ⟨⟨ss.reverse, []⟩, .empty⟩).bind _ = _
  rw [foldlM_onto_of_parseAll h']
  simp [Progress.result?, Pending.empty, Pending.text, Text.trim, Text.trimEnd]

/-- A text in braces is the bare block of its statements. -/
theorem parseAll_braced (h : parseAll text = .ok ss) :
    parseAll ("\x7b" ++ text ++ "\n\x7d") = .ok [.block "" ss] := by
  have hsplit : ("\x7b" ++ text ++ "\n\x7d").toList = '{' :: (text.toList ++ '\n' :: ['}']) := by simp
  have hlexemes : lexemes ('{' :: (text.toList ++ '\n' :: ['}'])) =
      .mark '{' :: (lexemes text.toList ++ [.blank '\n', .mark '}']) := by
    have hopen := (reads_mark (Or.inr (Or.inl rfl)) (text.toList ++ '\n' :: ['}'])).lexemes
    have hclose : lexemes ['}'] = [.mark '}'] := by decide +kernel
    rw [lexemes_append_newline (isClosed_of_parseAll h), hclose] at hopen
    exact hopen
  have henter : Progress.start.step? (.mark '{') = some ⟨Nest.empty.enter "", .empty⟩ := rfl
  have hleave : ([Lexeme.blank '\n', .mark '}'].foldlM Progress.step?
      ⟨⟨ss.reverse ++ [], [([], "")]⟩, .empty⟩).bind Progress.result? =
        some [.block "" (ss.reverse ++ []).reverse] := rfl
  have hbody : (ss.reverse ++ []).reverse = ss := by simp
  rw [parseAll_eq_ok_iff, Progress.readAll?, hsplit, hlexemes, List.foldlM_cons, henter]
  change ((lexemes text.toList ++ _).foldlM Progress.step? ⟨Nest.empty.enter "", .empty⟩).bind _ = _
  rw [List.foldlM_append, foldlM_onto_of_parseAll h]
  exact hleave.trans (congrArg (fun body => some [Statement.block "" body]) hbody)

/-- Texts that can be read, whatever they end with, give their statements one after the other when there
is a line end between them, and in braces. A text of several statements is the same single statement in
braces and without them. -/
theorem parseAll_composed {text' : String} {ss' : List Statement} (h : parseAll text = .ok ss)
    (h' : parseAll text' = .ok ss') :
    parseAll (text ++ "\n" ++ text') = .ok (ss ++ ss') ∧
      parseAll ("\x7b" ++ text ++ "\n\x7d") = .ok [.block "" ss] ∧
      (2 ≤ ss.length → parse text = .ok (.block "" ss) ∧
        parse ("\x7b" ++ text ++ "\n\x7d") = parse text) := by
  refine ⟨parseAll_append_newline h h', parseAll_braced h, fun hss => ?_⟩
  have hsingle : parse text = .ok (.block "" ss) := by
    rw [parse, h]
    rcases ss with _ | ⟨s, _ | ⟨s', rest⟩⟩
    · simp at hss
    · simp at hss
    · rfl
  refine ⟨hsingle, ?_⟩
  rw [hsingle, parse, parseAll_braced h]
  rfl

/-- A text that ends in a line comment with a closing brace, before one with an array. -/
theorem parseAll_composed_comment :
    let text := "while (c) \x7b a(); \x7d f(); // \x7d"
    let text' := "x = \x7b1\x7d; /* ( */"
    let loop : List Statement := [.block "while (c)" [.simple "a();"], .simple "f();"]
    parseAll text = .ok loop ∧ parseAll text' = .ok [.simple "x = \x7b1\x7d;"] ∧
      parseAll (text ++ "\n" ++ text') = .ok (loop ++ [.simple "x = \x7b1\x7d;"]) ∧
      parse ("\x7b" ++ text ++ "\n\x7d") = .ok (.block "" loop) := by
  intro text text' loop
  have hloop : parseAll text = .ok loop := by decide +kernel
  have harray : parseAll text' = .ok [.simple "x = \x7b1\x7d;"] := by decide +kernel
  obtain ⟨happend, _, hsingle⟩ := parseAll_composed hloop harray
  obtain ⟨hparse, hbraced⟩ := hsingle (by decide)
  exact ⟨hloop, harray, happend, hbraced.trans hparse⟩

end Statement

end PatchSearch
