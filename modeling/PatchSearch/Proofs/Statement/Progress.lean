import PatchSearch.Proofs.Statement.Readable

namespace PatchSearch

/-- The text under way, without blanks at its ends. -/
def Pending.text (p : Pending) : List Char :=
  Text.trim p.collected.reverse

/-- Statements inside blocks that are still open. -/
structure Nest where
  /-- The statements of the innermost open block, the newest first. -/
  items : List Statement
  /-- The statements before each open block, the newest first, and its header; the innermost block first. -/
  outer : List (List Statement × String)

namespace Nest

def empty : Nest := ⟨[], []⟩

def add (n : Nest) (s : Statement) : Nest :=
  { n with items := s :: n.items }

def enter (n : Nest) (header : String) : Nest :=
  ⟨[], (n.items, header) :: n.outer⟩

/-- Closes the innermost block. -/
def leave? (n : Nest) : Option Nest :=
  match n.outer with
  | [] => none
  | (before, header) :: outer => some ⟨.block header n.items.reverse :: before, outer⟩

end Nest

/-- How far a text has been read. -/
structure Progress where
  nest : Nest
  pending : Pending

namespace Progress

def start : Progress := ⟨.empty, .empty⟩

/-- Ends a line, opens a block or closes one. -/
def turn? (p : Progress) (c : Char) : Option Progress :=
  match c with
  | ';' => some ⟨p.nest.add (.simple (String.ofList (p.pending.push [';']).text)), .empty⟩
  | '{' => some ⟨p.nest.enter (String.ofList p.pending.text), .empty⟩
  | '}' => if p.pending.text = [] then p.nest.leave?.map fun n => ⟨n, p.pending⟩ else none
  | _ => none

/-- Reads one lexeme; none if it cannot be read. -/
def step? (p : Progress) (x : Lexeme) : Option Progress :=
  match p.pending.take? x with
  | some q => some { p with pending := q }
  | none =>
    match x with
    | .mark c => p.turn? c
    | _ => none

/-- The statements of the text, if it can end here. -/
def result? (p : Progress) : Option (List Statement) :=
  if p.pending.brackets = [] ∧ p.pending.braces = 0 ∧ p.pending.text = [] ∧ p.nest.outer = [] then
    some p.nest.items.reverse
  else none

end Progress

namespace Progress

variable {p : Progress} {q : Pending} {x : Lexeme} {c : Char}

theorem step?_of_take? (h : p.pending.take? x = some q) : p.step? x = some ⟨p.nest, q⟩ := by
  simp only [step?, h]

theorem step?_of_turn? (h : p.pending.take? (.mark c) = none) : p.step? (.mark c) = p.turn? c := by
  simp only [step?, h]

theorem step?_eq_none (h : p.pending.take? x = none) (hx : ¬∃ c, x = .mark c) : p.step? x = none := by
  simp only [step?, h]
  split
  next c => exact absurd ⟨c, rfl⟩ hx
  next => rfl

/-- What reading one lexeme can do: it is taken along, or it is a mark that ends what is under way. -/
theorem step?_cases {p' : Progress} (h : p.step? x = some p') :
    (∃ q, p.pending.take? x = some q ∧ p' = ⟨p.nest, q⟩) ∨
      ∃ c, x = .mark c ∧ p.pending.take? x = none ∧ p.turn? c = some p' := by
  unfold step? at h
  split at h
  next q hq => exact Or.inl ⟨q, hq, (Option.some.inj h).symm⟩
  next hn =>
    split at h
    next c => exact Or.inr ⟨c, rfl, hn, h⟩
    next => cases h

end Progress

namespace Pending

variable {p : Pending}

theorem take?_semicolon : p.take? (.mark ';') = none ↔ p.brackets = [] ∧ p.braces = 0 := by
  simp [take?, mark?]

theorem take?_openBrace : p.take? (.mark '{') = none ↔ p.inExpression = false := by
  simp [take?, mark?]

theorem take?_closeBrace : p.take? (.mark '}') = none ↔ p.braces = 0 := by
  simp [take?, mark?]

end Pending

namespace Reading

variable {r s : Reading}

/-- What has been read apart from the text under way, without the places of the open blocks. -/
def nest (r : Reading) : Nest :=
  ⟨r.items, r.outer.map fun o => (o.before, o.header)⟩

/-- A reading without its offsets. -/
def progress (r : Reading) : Progress :=
  ⟨r.nest, r.pending⟩

theorem text_push_pending (r : Reading) (cs : List Char) :
    (r.pending.push cs).text = Text.trim (r.collected.reverse ++ cs) := by
  simp [Pending.text, Pending.push, pending]

theorem nest_congr (hi : s.items = r.items) (ho : s.outer = r.outer) : s.nest = r.nest := by
  rw [nest, hi, ho, nest]

theorem nest_add {t : Statement} (hi : s.items = t :: r.items) (ho : s.outer = r.outer) :
    s.nest = r.nest.add t := by
  rw [nest, hi, ho, Nest.add, nest]

theorem nest_enter {header : String} {offset : Nat} (hi : s.items = [])
    (ho : s.outer = ⟨r.items, header, offset⟩ :: r.outer) : s.nest = r.nest.enter header := by
  rw [nest, hi, ho, Nest.enter, nest, List.map_cons]

theorem nest_leave? {o : Opening} (hi : s.items = .block o.header r.items.reverse :: o.before)
    (ho : r.outer = o :: s.outer) : r.nest.leave? = some s.nest := by
  rw [nest, nest, hi, ho, Nest.leave?, List.map_cons]

theorem progress_step {x : Lexeme} (h : r.step x = .ok s) : r.progress.step? x = some s.progress := by
  cases step_of_ok h with
  | keep ht hi ho =>
    have hs : s.progress = ⟨r.nest, s.pending⟩ := by rw [progress, nest_congr hi ho]
    rw [hs]
    exact Progress.step?_of_take? ht
  | line hb hz hi ho hidle =>
    have hn : r.pending.take? (.mark ';') = none :=
      Pending.take?_semicolon.mpr ⟨by simp [pending, hb], hz⟩
    rw [← text_push_pending] at hi
    have hs : s.progress = ⟨r.nest.add _, .empty⟩ :=
      congrArg₂ Progress.mk (nest_add hi ho) hidle
    rw [hs]
    exact Progress.step?_of_turn? hn
  | opening hin hi ho hidle =>
    have hn : r.pending.take? (.mark '{') = none :=
      Pending.take?_openBrace.mpr (by rwa [pending_inExpression])
    have hs : s.progress = ⟨r.nest.enter _, .empty⟩ :=
      congrArg₂ Progress.mk (nest_enter hi ho) hidle
    rw [hs]
    exact Progress.step?_of_turn? hn
  | closing hz ht ho hi hs =>
    have hn : r.pending.take? (.mark '}') = none := Pending.take?_closeBrace.mpr hz
    have hturn : r.progress.turn? '}' = r.nest.leave?.map fun n => ⟨n, r.pending⟩ := if_pos ht
    have hp : s.progress = ⟨s.nest, r.pending⟩ := congrArg _ hs
    rw [nest_leave? hi ho] at hturn
    rw [hp]
    exact (Progress.step?_of_turn? hn).trans hturn

theorem exists_step_of_turn? {c : Char} {p : Progress} (hn : r.pending.take? (.mark c) = none)
    (h : r.progress.turn? c = some p) : ∃ s, r.step (.mark c) = .ok s ∧ s.progress = p := by
  unfold Progress.turn? at h
  split at h
  next =>
    cases Option.some.inj h
    obtain ⟨hb, hz⟩ := Pending.take?_semicolon.mp hn
    obtain ⟨s, hs, hidle, ho, hi⟩ := semicolon_ok hb hz
    rw [← text_push_pending] at hi
    exact ⟨s, hs, congrArg₂ Progress.mk (nest_add hi ho) hidle⟩
  next =>
    cases Option.some.inj h
    obtain ⟨s, hs, hidle, hi, ho⟩ := openBrace_ok (Pending.take?_openBrace.mp hn)
    exact ⟨s, hs, congrArg₂ Progress.mk (nest_enter hi ho) hidle⟩
  next =>
    split at h
    next ht =>
      obtain ⟨n, hl, rfl⟩ := Option.map_eq_some_iff.mp h
      cases ho : r.outer with
      | nil => simp [Nest.leave?, progress, nest, ho] at hl
      | cons o os =>
        refine ⟨_, closeBrace_of_text (Pending.take?_closeBrace.mp hn) ht ho, ?_⟩
        rw [progress, nest, ho, List.map_cons] at hl
        cases Option.some.inj hl
        rfl
    next => cases h
  next => cases h

theorem exists_step_of_progress {x : Lexeme} {p : Progress} (h : r.progress.step? x = some p) :
    ∃ s, r.step x = .ok s ∧ s.progress = p := by
  rcases Progress.step?_cases h with ⟨q, ht, rfl⟩ | ⟨c, rfl, hn, h⟩
  · obtain ⟨s, hs, hp, hi, ho⟩ := step_ok_of_take? ht
    exact ⟨s, hs, by rw [progress, nest_congr hi ho, hp]; rfl⟩
  · exact exists_step_of_turn? hn h

theorem foldlM_progress {xs : List Lexeme} {p : Progress} :
    xs.foldlM Progress.step? r.progress = some p ↔
      ∃ s, xs.foldlM Reading.step r = .ok s ∧ s.progress = p := by
  induction xs generalizing r with
  | nil => simp [pure, Except.pure]
  | cons x xs ih =>
    rw [List.foldlM_cons, List.foldlM_cons]
    constructor
    · intro h
      obtain ⟨q, hq, h⟩ := Option.bind_eq_some_iff.mp h
      obtain ⟨r', hr, rfl⟩ := exists_step_of_progress hq
      obtain ⟨s, hs, hp⟩ := ih.mp h
      exact ⟨s, by rw [hr]; exact hs, hp⟩
    · rintro ⟨s, h, hp⟩
      obtain ⟨r', hr, hs⟩ := exists_ok_of_bind h
      rw [progress_step hr]
      exact ih.mpr ⟨s, hs, hp⟩

theorem finish_eq_ok_iff {ss : List Statement} :
    r.finish = .ok ss ↔ r.progress.result? = some ss := by
  have hresult : r.progress.result? =
      if r.pending.brackets = [] ∧ r.braces = 0 ∧ r.text = [] ∧ r.nest.outer = [] then
        some r.items.reverse
      else none := rfl
  unfold finish noTrailing
  rw [hresult]
  cases hb : r.brackets with
  | cons => simp [pending, hb]
  | nil =>
    cases ho : r.outer with
    | cons => simp [nest, ho]
    | nil =>
      have hb' : r.pending.brackets = [] := by simp [pending, hb]
      have ho' : r.nest.outer = [] := by simp [nest, ho]
      by_cases hz : r.braces = 0
      · by_cases ht : r.text = []
        · simp [hb', ho', hz, ht, bind, Except.bind, pure, Except.pure]
        · simp [hz, ht, bind, Except.bind]
      · simp [hz, Nat.pos_of_ne_zero hz]

end Reading

/-- The statements that a text consists of, if it can be read. -/
def Progress.readAll? (cs : List Char) : Option (List Statement) :=
  ((lexemes cs).foldlM step? start).bind result?

theorem Statement.parseAll_eq_ok_iff {text : String} {ss : List Statement} :
    parseAll text = .ok ss ↔ Progress.readAll? text.toList = some ss := by
  have hstart : Reading.start.progress = Progress.start := rfl
  constructor
  · intro h
    obtain ⟨r, hr, h⟩ := exists_ok_of_bind h
    exact Option.bind_eq_some_iff.mpr
      ⟨r.progress, Reading.foldlM_progress.mpr ⟨r, hr, rfl⟩, Reading.finish_eq_ok_iff.mp h⟩
  · intro h
    obtain ⟨p, hp, h⟩ := Option.bind_eq_some_iff.mp h
    rw [← hstart] at hp
    obtain ⟨r, hr, rfl⟩ := Reading.foldlM_progress.mp hp
    rw [parseAll, hr]
    exact Reading.finish_eq_ok_iff.mpr h

end PatchSearch
