import Mathlib.Data.List.TakeWhile
import PatchSearch.Failure
import PatchSearch.Proofs.Statement.Draft

namespace PatchSearch

/-- A line that is read as itself wherever a statement can begin. -/
def IsLine (text : List Char) : Prop :=
  ∃ xs p, Draft xs p ∧ Joined xs [';'] ∧ p.brackets = [] ∧ p.braces = 0 ∧
    text = p.collected.reverse ++ [';']

/-- The text of a header that is read as itself in front of an opening brace. -/
def IsHeader (text : List Char) : Prop :=
  ∃ xs p, Draft xs p ∧ Joined xs [' '] ∧ p.inExpression = false ∧ p.collected.head? ≠ some ' ' ∧
    text = p.collected.reverse

/-- A statement all of whose lines and headers are read as themselves. -/
inductive Statement.Readable : Statement → Prop
  | simple {text} : IsLine text.toList → Readable (.simple text)
  | block {header body} : IsHeader header.toList → (∀ s ∈ body, Readable s) →
      Readable (.block header body)

theorem Draft.joined_head {xs : List Lexeme} {p : Pending} {c : Char} {cs ds : List Char}
    (h : Draft xs p) (hj : Joined xs (c :: cs)) : Joined xs (c :: ds) := by
  apply hj.congr h.isKept
  intro x hx
  obtain ⟨ys, rfl⟩ := List.getLast?_eq_some_iff.mp hx
  exact (joined_singleton.mp (joined_append.mp hj).2).endsBefore

theorem Draft.joined_blank {xs : List Lexeme} {p : Pending} {rest : List Char}
    (h : Draft xs p) (hj : Joined xs rest) (ds : List Char) : Joined xs (' ' :: ds) :=
  hj.congr h.isKept (fun x _ => x.endsBefore_of_blank (by simp; rfl))

theorem Draft.trim_line {xs : List Lexeme} {p : Pending} (h : Draft xs p) :
    Text.trim (p.collected.reverse ++ [';']) = p.collected.reverse ++ [';'] := by
  have hfirst : ∀ c ∈ (p.collected.reverse ++ [';']).head?, Text.isBlank c = false := by
    intro c hc
    cases hr : p.collected.reverse with
    | nil =>
      obtain rfl : ';' = c := by simpa [hr] using hc
      rfl
    | cons d ds => exact h.first c (by simpa [hr] using hc)
  rw [Text.trim_of_first hfirst]
  exact Text.trimEnd_append_mark rfl

theorem Draft.isLine {xs : List Lexeme} {p : Pending} {rest : List Char} (h : Draft xs p)
    (hj : Joined xs (';' :: rest)) (hb : p.brackets = []) (hz : p.braces = 0) :
    IsLine (Text.trim (p.collected.reverse ++ [';'])) :=
  ⟨xs, p, h, h.joined_head hj, hb, hz, h.trim_line⟩

theorem Pending.inExpression_push_space (p : Pending) :
    (p.push [' ']).inExpression = p.inExpression := by
  have hb : Text.isBlank ' ' = true := rfl
  simp [Pending.inExpression, Pending.push, Text.trimEnd_append_blank hb]

theorem Pending.collected_push_space (p : Pending) :
    (p.push [' ']).collected.reverse = p.collected.reverse ++ [' '] := by
  simp [Pending.push]

theorem Draft.trim_collected {xs : List Lexeme} {p : Pending} (h : Draft xs p)
    (hs : p.collected.head? ≠ some ' ') : Text.trim p.collected.reverse = p.collected.reverse := by
  rw [Text.trim_of_first h.first]
  apply Text.trimEnd_of_last
  intro c hc
  rw [List.getLast?_reverse] at hc
  exact h.last c hc (fun he => hs (he ▸ hc))

theorem Draft.collected_eq_nil {xs : List Lexeme} {p : Pending} (h : Draft xs p)
    (ht : Text.trim p.collected.reverse = []) : p.collected = [] := by
  rw [Text.trim_of_first h.first, Text.trimEnd, List.reverse_reverse, List.reverse_eq_nil_iff,
    List.dropWhile_eq_nil_iff] at ht
  rcases List.eq_nil_or_concat p.collected with hc | ⟨cs, c, hc⟩
  · exact hc
  · have hb := ht c (by simp [hc])
    rw [h.first c (by simp [hc])] at hb
    exact absurd hb (by decide)

theorem Draft.isHeader {xs : List Lexeme} {p : Pending} {rest : List Char} (h : Draft xs p)
    (hj : Joined xs rest) (hp : p.inExpression = false) :
    IsHeader (Text.trim p.collected.reverse) := by
  by_cases hs : p.collected.head? = some ' '
  · obtain ⟨ys, q, hq, rfl, rfl, hne, hn⟩ := h.dropSpace hs
    have hy := (joined_append.mp hj).1
    rw [Pending.inExpression_push_space] at hp
    refine ⟨ys, q, hq, hq.joined_blank hy [], hp, hn, ?_⟩
    rw [Pending.collected_push_space, Text.trim_append_blank rfl, hq.trim_collected hn]
  · exact ⟨xs, p, h, h.joined_blank hj [], hp, hs, h.trim_collected hs⟩

/-- What holds in the middle of a text: everything read so far can be read again, and the statement
under way has a draft in front of the rest of the text. -/
structure Reading.Sound (r : Reading) (rest : List Char) : Prop where
  draft : ∃ xs, Draft xs r.pending ∧ Joined xs rest
  items : ∀ s ∈ r.items, s.Readable
  outer : ∀ o ∈ r.outer, IsHeader o.header.toList ∧ ∀ s ∈ o.before, s.Readable

namespace Reading

theorem Idle.draft {r : Reading} (h : r.Idle) (rest : List Char) :
    ∃ xs, Draft xs r.pending ∧ Joined xs rest :=
  ⟨[], by rw [Idle] at h; rw [h]; exact .nil, trivial⟩

theorem sound_start (cs : List Char) : start.Sound cs :=
  ⟨(show start.Idle from rfl).draft cs, by simp [start], by simp [start]⟩

/-- Reading one lexeme keeps a reading sound. -/
theorem Sound.step {r s : Reading} {x : Lexeme} {c : Char} {cs rest : List Char}
    (h : r.Sound (c :: cs)) (hn : Lexeme.Next c cs x rest) (hs : r.step x = .ok s) :
    s.Sound rest := by
  obtain ⟨xs, hd, hj⟩ := h.draft
  cases step_of_ok hs with
  | keep ht hi ho =>
    obtain ⟨ys, hd', hj', _⟩ := hd.advance hj hn ht
    exact ⟨⟨ys, hd', hj'⟩, by rw [hi]; exact h.items, by rw [ho]; exact h.outer⟩
  | line hb hz hi ho hidle =>
    cases hn with
    | mark =>
      refine ⟨hidle.draft _, ?_, by rw [ho]; exact h.outer⟩
      intro s hs
      rw [hi] at hs
      rcases List.mem_cons.mp hs with rfl | hs
      · refine .simple ?_
        rw [String.toList_ofList]
        exact hd.isLine hj (by simp [pending, hb]) hz
      · exact h.items s hs
  | opening hp hi ho hidle =>
    refine ⟨hidle.draft _, by simp [hi], ?_⟩
    intro o hm
    rw [ho] at hm
    rcases List.mem_cons.mp hm with rfl | hm
    · refine ⟨?_, h.items⟩
      rw [String.toList_ofList]
      exact hd.isHeader hj (by rwa [pending_inExpression])
    · exact h.outer o hm
  | @closing s o _ ht ho hi hp =>
    have hout := h.outer o (by simp [ho])
    have hempty : r.pending = .empty := hd.eq_empty (hd.collected_eq_nil ht)
    refine ⟨Idle.draft (hp.trans hempty) _, ?_, ?_⟩
    · intro t hm
      rw [hi] at hm
      rcases List.mem_cons.mp hm with rfl | hm
      · refine .block hout.1 (fun u hu => h.items u (List.mem_reverse.mp hu))
      · exact hout.2 t hm
    · intro o' hm
      exact h.outer o' (by rw [ho]; exact List.mem_cons_of_mem o hm)

/-- Reading the first lexemes of a text keeps a reading sound. -/
theorem Sound.run_append {r s : Reading} {cs : List Char} {xs ys : List Lexeme} (h : r.Sound cs)
    (hxs : lexemes cs = xs ++ ys) (hs : xs.foldlM Reading.step r = .ok s) :
    s.Sound (ys.flatMap Lexeme.text) := by
  induction xs generalizing r cs with
  | nil =>
    cases Except.ok.inj hs
    rw [List.nil_append] at hxs
    rwa [← hxs, flatMap_text_lexemes]
  | cons x xs ih =>
    cases cs with
    | nil => rw [lexemes] at hxs; cases hxs
    | cons c cs =>
      rw [lexemes, List.cons_append] at hxs
      obtain ⟨rfl, hrest⟩ := List.cons_eq_cons.mp hxs
      rw [List.foldlM_cons] at hs
      obtain ⟨r', hr, hs⟩ := exists_ok_of_bind hs
      exact ih (h.step (Lexeme.next_spec c cs) hr) hrest hs

/-- Reading a whole text keeps a reading sound. -/
theorem Sound.run {r s : Reading} {cs : List Char} (h : r.Sound cs)
    (hs : (lexemes cs).foldlM Reading.step r = .ok s) : s.Sound [] :=
  h.run_append (List.append_nil _).symm hs

theorem finish_ok {r : Reading} {ss : List Statement} (h : r.finish = .ok ss) :
    r.outer = [] ∧ r.text = [] ∧ ss = r.items.reverse := by
  unfold finish at h
  split at h
  next => simp at h
  next =>
    split at h
    next => simp at h
    next ho =>
      split at h
      next => simp at h
      next =>
        unfold noTrailing at h
        split at h
        next ht => exact ⟨ho, ht, (Except.ok.inj h).symm⟩
        next => simp [bind, Except.bind] at h

end Reading

/-- Whatever is read from a text is readable. -/
theorem readable_of_parseAll {text : String} {ss : List Statement}
    (h : Statement.parseAll text = .ok ss) : ∀ s ∈ ss, s.Readable := by
  obtain ⟨r, hr, h⟩ := exists_ok_of_bind h
  obtain ⟨_, _, rfl⟩ := Reading.finish_ok h
  intro s hs
  exact ((Reading.sound_start _).run hr).items s (List.mem_reverse.mp hs)

end PatchSearch
