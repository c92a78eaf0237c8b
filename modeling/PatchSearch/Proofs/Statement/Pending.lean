import Mathlib.Data.List.Basic
import PatchSearch.Statement.Reader

namespace PatchSearch

/-- The line or header under way, without the places of its brackets. -/
structure Pending where
  /-- The newest character first. -/
  collected : List Char
  /-- The open round and square brackets, the innermost first. -/
  brackets : List Char
  braces : Nat

namespace Pending

def empty : Pending := ⟨[], [], 0⟩

def push (p : Pending) (cs : List Char) : Pending :=
  { p with collected := cs.reverse ++ p.collected }

def space (p : Pending) : Pending :=
  match p.collected with
  | [] => p
  | c :: cs => if c = ' ' then p else { p with collected := ' ' :: c :: cs }

def inExpression (p : Pending) : Bool :=
  !p.brackets.isEmpty || p.braces > 0 || Reading.expectsOperand (Text.trimEnd p.collected.reverse)

/-- Takes a character along; none if the statement under way ends with it or cannot have it. -/
def mark? (p : Pending) (c : Char) : Option Pending :=
  if c = '(' ∨ c = '[' then some { p.push [c] with brackets := c :: p.brackets }
  else if c = ')' ∨ c = ']' then
    match p.brackets with
    | [] => none
    | b :: bs => if b = Reading.opener c then some { p.push [c] with brackets := bs } else none
  else if c = '{' then
    if p.inExpression then some { p.push [c] with braces := p.braces + 1 } else none
  else if c = '}' then
    if p.braces > 0 then some { p.push [c] with braces := p.braces - 1 } else none
  else if c = ';' then
    if p.brackets = [] ∧ p.braces = 0 then none else some (p.push [c])
  else some (p.push [c])

/-- Takes a lexeme along. -/
def take? (p : Pending) : Lexeme → Option Pending
  | .literal t => some (p.push t)
  | .blank _ | .blockComment _ => some p.space
  | .lineComment _ => some p
  | .mark c => p.mark? c
  | .unclosed _ => none

theorem space_eq_self {p : Pending} (h : p.collected = [] ∨ p.collected.head? = some ' ') :
    p.space = p := by
  unfold space
  split
  next => rfl
  next c cs hc => simp_all

theorem space_eq_push {p : Pending} (h : p.collected ≠ []) (hs : p.collected.head? ≠ some ' ') :
    p.space = p.push [' '] := by
  unfold space
  split
  next hc => exact absurd hc h
  next c cs hc =>
    rw [hc, List.head?_cons, Ne, Option.some.injEq] at hs
    simp [push, hc, hs]

/-- What a character does that stays in the statement under way. -/
inductive Marks (p : Pending) : Char → Pending → Prop
  | opened {c} : c = '(' ∨ c = '[' → Marks p c { p.push [c] with brackets := c :: p.brackets }
  | closed {c bs} : c = ')' ∨ c = ']' → p.brackets = Reading.opener c :: bs →
      Marks p c { p.push [c] with brackets := bs }
  | openedBrace : p.inExpression = true → Marks p '{' { p.push ['{'] with braces := p.braces + 1 }
  | closedBrace : p.braces > 0 → Marks p '}' { p.push ['}'] with braces := p.braces - 1 }
  | semicolon : ¬(p.brackets = [] ∧ p.braces = 0) → Marks p ';' (p.push [';'])
  | other {c} : c ∉ ['(', '[', ')', ']', '{', '}', ';'] → Marks p c (p.push [c])

theorem marks_of_mark? {p q : Pending} {c : Char} (h : p.mark? c = some q) : p.Marks c q := by
  unfold mark? at h
  split at h
  next ho =>
    cases Option.some.inj h
    exact .opened ho
  next ho =>
    split at h
    next hc =>
      split at h
      next => simp at h
      next b bs hb =>
        obtain ⟨rfl, rfl⟩ := Option.ite_some_none_eq_some.mp h
        exact .closed hc hb
    next hc =>
      split at h
      next hb =>
        subst hb
        obtain ⟨hin, rfl⟩ := Option.ite_some_none_eq_some.mp h
        exact .openedBrace hin
      next hb =>
        split at h
        next he =>
          subst he
          obtain ⟨hz, rfl⟩ := Option.ite_some_none_eq_some.mp h
          exact .closedBrace hz
        next he =>
          split at h
          next hs =>
            subst hs
            obtain ⟨hz, hq⟩ := Option.ite_none_left_eq_some.mp h
            cases Option.some.inj hq
            exact .semicolon hz
          next hs =>
            cases Option.some.inj h
            exact .other (by simp_all)

theorem mark?_collected {p q : Pending} {c : Char} (h : p.mark? c = some q) :
    q.collected = c :: p.collected := by
  cases marks_of_mark? h <;> rfl

end Pending

namespace Reading

def pending (r : Reading) : Pending := ⟨r.collected, r.brackets.map Prod.fst, r.braces⟩

@[simp] theorem pending_inExpression (r : Reading) : r.pending.inExpression = r.inExpression := by
  simp [pending, Pending.inExpression, inExpression]

/-- Reading is between two statements. -/
def Idle (r : Reading) : Prop := r.pending = .empty

theorem idle_iff {r : Reading} : r.Idle ↔ r.collected = [] ∧ r.brackets = [] ∧ r.braces = 0 := by
  simp [Idle, pending, Pending.empty]

/-- What reading one lexeme can do. -/
inductive Step (r : Reading) : Lexeme → Reading → Prop
  | keep {x s} : r.pending.take? x = some s.pending → s.items = r.items → s.outer = r.outer →
      Step r x s
  | line {s} : r.brackets = [] → r.braces = 0 →
      s.items = .simple (String.ofList (Text.trim (r.collected.reverse ++ [';']))) :: r.items →
      s.outer = r.outer → s.Idle → Step r (.mark ';') s
  | opening {s} : r.inExpression = false → s.items = [] →
      s.outer = ⟨r.items, String.ofList r.text, r.offset⟩ :: r.outer → s.Idle → Step r (.mark '{') s
  | closing {s o} : r.braces = 0 → r.text = [] → r.outer = o :: s.outer →
      s.items = .block o.header r.items.reverse :: o.before → s.pending = r.pending →
      Step r (.mark '}') s

theorem space_pending (r : Reading) (x : Lexeme) : (r.space x).pending = r.pending.space := by
  unfold space Pending.space
  cases hc : r.collected with
  | nil => simp [pending, skip, hc]
  | cons c cs => by_cases h : c = ' ' <;> simp [pending, skip, hc, h]

theorem space_items (r : Reading) (x : Lexeme) : (r.space x).items = r.items := by
  unfold space
  split
  next => rfl
  next => split <;> rfl

theorem space_outer (r : Reading) (x : Lexeme) : (r.space x).outer = r.outer := by
  unfold space
  split
  next => rfl
  next => split <;> rfl

theorem closeBracket_step {r s : Reading} {c : Char} (hc : c = ')' ∨ c = ']')
    (h : r.closeBracket c = .ok s) : Step r (.mark c) s := by
  have ho : ¬(c = '(' ∨ c = '[') := by rcases hc with rfl | rfl <;> decide
  unfold closeBracket at h
  split at h
  next => simp at h
  next b place bs hb =>
    split at h
    next he =>
      cases Except.ok.inj h
      refine .keep ?_ rfl rfl
      simp [Pending.take?, Pending.mark?, pending, ho, hc, hb, he, Pending.push, push, Lexeme.text, skip]
    next => simp at h

theorem openBrace_step (r : Reading) : Step r (.mark '{') r.openBrace := by
  unfold openBrace
  split
  next h =>
    refine .keep ?_ rfl rfl
    have hp : r.pending.inExpression = true := by rwa [pending_inExpression]
    simp [Pending.take?, Pending.mark?, hp]
    rfl
  next h =>
    have hn : r.inExpression = false := by simpa using h
    refine .opening hn rfl rfl (idle_iff.mpr ⟨rfl, ?_, ?_⟩) <;> simp_all [inExpression, skip]

theorem closeBrace_step {r s : Reading} (h : r.closeBrace = .ok s) : Step r (.mark '}') s := by
  unfold closeBrace at h
  split at h
  next hb =>
    cases Except.ok.inj h
    refine .keep ?_ rfl rfl
    simp [Pending.take?, Pending.mark?, pending, hb, Pending.push, push, Lexeme.text, skip]
  next hb =>
    split at h
    next => simp at h
    next o os ho =>
      unfold noTrailing at h
      split at h
      next ht =>
        cases Except.ok.inj h
        exact .closing (by omega) ht ho rfl rfl
      next => simp [bind, Except.bind] at h

theorem semicolon_step (r : Reading) : Step r (.mark ';') r.semicolon := by
  unfold semicolon
  split
  next h =>
    obtain ⟨hb, hz⟩ : r.brackets = [] ∧ r.braces = 0 := by simpa using h
    refine .line hb hz ?_ rfl (idle_iff.mpr ⟨rfl, hb, hz⟩)
    simp [text, push, Lexeme.text, skip]
  next h =>
    refine .keep ?_ rfl rfl
    simp_all [Pending.take?, Pending.mark?, pending, Pending.push, push, Lexeme.text, skip]

theorem mark_step {r s : Reading} {c : Char} (h : r.mark c = .ok s) : Step r (.mark c) s := by
  unfold mark at h
  split at h
  next ho =>
    cases Except.ok.inj h
    refine .keep ?_ rfl rfl
    simp [Pending.take?, Pending.mark?, pending, ho, Pending.push, push, Lexeme.text, skip]
  next ho =>
    split at h
    next hc => exact closeBracket_step hc h
    next hc =>
      split at h
      next hb => cases Except.ok.inj h; subst hb; exact r.openBrace_step
      next hb =>
        split at h
        next he => subst he; exact closeBrace_step h
        next he =>
          split at h
          next hs => cases Except.ok.inj h; subst hs; exact r.semicolon_step
          next hs =>
            cases Except.ok.inj h
            refine .keep ?_ rfl rfl
            simp [Pending.take?, Pending.mark?, pending, ho, hc, hb, he, hs, Pending.push, push,
              Lexeme.text, skip]

/-- Every successful reading of a lexeme is one of the four steps. -/
theorem step_of_ok {r s : Reading} {x : Lexeme} (h : r.step x = .ok s) : Step r x s := by
  cases x with
  | literal t =>
    cases Except.ok.inj h
    exact .keep rfl rfl rfl
  | blank c =>
    cases Except.ok.inj h
    exact .keep (congrArg some (r.space_pending _).symm) (r.space_items _) (r.space_outer _)
  | blockComment t =>
    cases Except.ok.inj h
    exact .keep (congrArg some (r.space_pending _).symm) (r.space_items _) (r.space_outer _)
  | lineComment t =>
    cases Except.ok.inj h
    exact .keep rfl rfl rfl
  | mark c => exact mark_step h
  | unclosed t => simp [step] at h

theorem closeBracket_of_pending {r : Reading} {c : Char} {bs : List Char}
    (h : r.pending.brackets = opener c :: bs) :
    ∃ s, r.closeBracket c = .ok s ∧ s.pending = { r.pending.push [c] with brackets := bs } ∧
      s.items = r.items ∧ s.outer = r.outer := by
  obtain ⟨⟨b, place⟩, rest, hr, hb, rfl⟩ := List.map_eq_cons_iff.mp h
  refine ⟨{ r.push (.mark c) with brackets := rest }, ?_, rfl, rfl, rfl⟩
  rw [closeBracket, hr]
  exact if_pos hb

theorem openBrace_of_inExpression {r : Reading} (h : r.inExpression = true) :
    r.openBrace = { r.push (.mark '{') with braces := r.braces + 1 } :=
  if_pos h

theorem closeBrace_of_braces {r : Reading} (h : r.braces > 0) :
    r.closeBrace = .ok { r.push (.mark '}') with braces := r.braces - 1 } :=
  if_pos h

theorem semicolon_of_open {r : Reading} (h : ¬(r.pending.brackets = [] ∧ r.pending.braces = 0)) :
    r.semicolon = r.push (.mark ';') := by
  have hopen : ¬(r.brackets.isEmpty && decide (r.braces = 0)) = true := by
    intro hc
    apply h
    simpa [pending] using hc
  exact if_neg hopen

/-- A character that stays in the statement under way is pushed, whatever it does to the brackets. -/
theorem mark_ok_of_mark? {r : Reading} {c : Char} {p : Pending} (h : r.pending.mark? c = some p) :
    ∃ s, r.mark c = .ok s ∧ s.pending = p ∧ s.items = r.items ∧ s.outer = r.outer := by
  cases Pending.marks_of_mark? h with
  | opened ho => exact ⟨_, if_pos ho, rfl, rfl, rfl⟩
  | closed hc hb =>
    have hmark : r.mark c = r.closeBracket c := by rcases hc with rfl | rfl <;> rfl
    rw [hmark]
    exact closeBracket_of_pending hb
  | openedBrace hin =>
    rw [pending_inExpression] at hin
    exact ⟨_, congrArg Except.ok (openBrace_of_inExpression hin), rfl, rfl, rfl⟩
  | closedBrace hz => exact ⟨_, closeBrace_of_braces hz, rfl, rfl, rfl⟩
  | semicolon hz => exact ⟨_, congrArg Except.ok (semicolon_of_open hz), rfl, rfl, rfl⟩
  | other hc =>
    refine ⟨r.push (.mark c), ?_, rfl, rfl, rfl⟩
    simp only [List.mem_cons, List.not_mem_nil, or_false, not_or] at hc
    simp [mark, hc]

/-- What stays in the statement under way can be read. -/
theorem step_ok_of_take? {r : Reading} {x : Lexeme} {p : Pending} (h : r.pending.take? x = some p) :
    ∃ s, r.step x = .ok s ∧ s.pending = p ∧ s.items = r.items ∧ s.outer = r.outer := by
  cases x with
  | literal t => exact ⟨_, rfl, Option.some.inj h, rfl, rfl⟩
  | lineComment t => exact ⟨_, rfl, Option.some.inj h, rfl, rfl⟩
  | blank c =>
    exact ⟨_, rfl, (r.space_pending _).trans (Option.some.inj h), r.space_items _, r.space_outer _⟩
  | blockComment t =>
    exact ⟨_, rfl, (r.space_pending _).trans (Option.some.inj h), r.space_items _, r.space_outer _⟩
  | mark c => exact mark_ok_of_mark? h
  | unclosed t => simp [Pending.take?] at h

/-- A semicolon ends a line outside brackets and braces. -/
theorem semicolon_ok {r : Reading} (hb : r.pending.brackets = []) (hz : r.pending.braces = 0) :
    ∃ s, r.step (.mark ';') = .ok s ∧ s.Idle ∧ s.outer = r.outer ∧
      s.items = .simple (String.ofList (Text.trim (r.collected.reverse ++ [';']))) :: r.items := by
  have hb' : r.brackets = [] := by simpa [pending] using hb
  have hz' : r.braces = 0 := hz
  refine ⟨r.semicolon, rfl, ?_, ?_, ?_⟩ <;>
    simp [semicolon, idle_iff, hb', hz', push, Lexeme.text, skip, text]

/-- A brace outside expressions opens a block. -/
theorem openBrace_ok {r : Reading} (h : r.pending.inExpression = false) :
    ∃ s, r.step (.mark '{') = .ok s ∧ s.Idle ∧ s.items = [] ∧
      s.outer = ⟨r.items, String.ofList r.text, r.offset⟩ :: r.outer := by
  rw [pending_inExpression] at h
  have hi : r.brackets = [] ∧ r.braces = 0 := by simp_all [inExpression]
  refine ⟨r.openBrace, rfl, ?_, ?_, ?_⟩ <;> simp [openBrace, h, idle_iff, hi, skip]

/-- A brace closes a block wherever no text is under way. -/
theorem closeBrace_of_text {r : Reading} {o : Opening} {os : List Opening} (hz : r.braces = 0)
    (ht : r.text = []) (ho : r.outer = o :: os) :
    r.closeBrace = .ok { r.skip (.mark '}') with
      items := .block o.header r.items.reverse :: o.before
      outer := os } := by
  simp only [closeBrace, hz, ho, noTrailing, ht, Nat.lt_irrefl, if_false, if_true]
  rfl

/-- Between two statements a brace closes the innermost block. -/
theorem closeBrace_ok {r : Reading} {o : Opening} {os : List Opening} (h : r.Idle)
    (ho : r.outer = o :: os) :
    ∃ s, r.step (.mark '}') = .ok s ∧ s.Idle ∧ s.outer = os ∧
      s.items = .block o.header r.items.reverse :: o.before := by
  obtain ⟨hc, hb, hz⟩ := idle_iff.mp h
  have ht : r.text = [] := by simp [text, hc, Text.trim, Text.trimEnd]
  refine ⟨_, closeBrace_of_text hz ht ho, ?_, rfl, rfl⟩
  exact idle_iff.mpr ⟨hc, hb, hz⟩

end Reading

end PatchSearch
