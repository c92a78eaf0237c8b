import PatchSearch.Proofs.Statement.Seams

namespace PatchSearch

/-- A text between two quotes of one kind. -/
def Lexeme.Enclosed (cs : List Char) : Prop :=
  ∃ quote inside, IsQuote quote ∧ cs = quote :: (inside ++ [quote])

open Lexeme (Enclosed IsQuote)

namespace Text

variable {cs : List Char}

theorem trimEnd_enclosed (h : Enclosed cs) (front back : List Char) :
    trimEnd (front ++ (cs ++ back)) = front ++ (cs ++ trimEnd back) := by
  obtain ⟨quote, inside, hq, rfl⟩ := h
  induction back using List.reverseRecOn with
  | nil =>
    rw [show trimEnd [] = [] from rfl]
    refine trimEnd_of_last fun c hc => ?_
    obtain rfl : quote = c := by simpa [List.getLast?_append, List.getLast?_cons] using hc
    exact Lexeme.isBlank_of_isQuote hq
  | append_singleton back c ih =>
    rw [← List.append_assoc _ back, ← List.append_assoc front]
    cases hc : isBlank c with
    | true => rw [trimEnd_append_blank hc, trimEnd_append_blank hc, ih]
    | false => rw [trimEnd_append_mark hc, trimEnd_append_mark hc, List.append_assoc, List.append_assoc]

theorem trim_enclosed (h : Enclosed cs) (front back : List Char) :
    trim (front ++ (cs ++ back)) = front.dropWhile isBlank ++ (cs ++ trimEnd back) := by
  have hfirst : (front ++ (cs ++ back)).dropWhile isBlank = front.dropWhile isBlank ++ (cs ++ back) := by
    obtain ⟨quote, inside, hq, rfl⟩ := h
    rw [List.dropWhile_append]
    split
    next hf => simp [List.isEmpty_iff.mp hf, Lexeme.isBlank_of_isQuote hq]
    next => rfl
  rw [trim, hfirst, trimEnd_enclosed h]

end Text

theorem suffix_append_cons_iff {p front back : List Char} {c : Char} (h : c ∉ p) :
    p <:+ front ++ c :: back ↔ p <:+ back := by
  have hne : ∀ ds, p ≠ ds ++ c :: back := by
    rintro ds rfl
    simp at h
  induction front with
  | nil => exact List.suffix_cons_iff.trans (or_iff_right (hne []))
  | cons d front ih => exact List.suffix_cons_iff.trans ((or_iff_right (hne (d :: front))).trans ih)

/-- Whether a brace continues an expression is decided after the last quote. -/
theorem Reading.expectsOperand_quote {quote : Char} (h : IsQuote quote) (front back : List Char) :
    expectsOperand (front ++ quote :: back) = expectsOperand ('\x22' :: back) := by
  have hsuffix : ∀ p : List Char, '\x22' ∉ p → '\x27' ∉ p →
      p.isSuffixOf (front ++ quote :: back) = p.isSuffixOf ('\x22' :: back) := by
    intro p hd hs
    have hp : quote ∉ p := by rcases h with rfl | rfl <;> assumption
    have hempty : p <:+ [] ++ '\x22' :: back ↔ p <:+ back := suffix_append_cons_iff hd
    rw [Bool.eq_iff_iff, List.isSuffixOf_iff_suffix, List.isSuffixOf_iff_suffix,
      suffix_append_cons_iff hp]
    exact hempty.symm
  have hreturn : ∀ ds : List Char, quote ∈ ds → (ds == "return".toList) = false := by
    intro ds hm
    rw [beq_eq_false_iff_ne]
    rintro rfl
    rcases h with rfl | rfl <;> simp at hm
  have hreturn' : ('\x22' :: back == "return".toList) = false := rfl
  rw [expectsOperand, expectsOperand, hreturn _ (by simp), hreturn']
  rw [hsuffix _ (by decide) (by decide), hsuffix _ (by decide) (by decide),
    hsuffix _ (by decide) (by decide), hsuffix _ (by decide) (by decide),
    hsuffix _ (by decide) (by decide)]

namespace Pending

variable {p : Pending} {front cs ds : List Char}

/-- The text under way with more text before it. -/
def after (p : Pending) (cs : List Char) : Pending :=
  { p with collected := p.collected ++ cs.reverse }

theorem push_after : (p.after cs).push ds = (p.push ds).after cs := by
  simp [push, after]

theorem text_after (h : Enclosed cs) : (p.after (front ++ cs)).text =
    front.dropWhile Text.isBlank ++ (cs ++ Text.trimEnd p.collected.reverse) := by
  rw [← Text.trim_enclosed h]
  simp [text, after]

theorem text_after_ne_nil (h : Enclosed cs) : (p.after (front ++ cs)).text ≠ [] := by
  rw [text_after h]
  obtain ⟨quote, inside, _, rfl⟩ := h
  simp

theorem space_after (h : Enclosed cs) : (p.after (front ++ cs)).space =
    (if p.collected = [] then p.push [' '] else p.space).after (front ++ cs) := by
  obtain ⟨quote, inside, hq, rfl⟩ := h
  have hspace : quote ≠ ' ' := by rcases hq with rfl | rfl <;> decide
  cases hc : p.collected with
  | nil => simp [space, after, push, hc, hspace]
  | cons c collected => by_cases h : c = ' ' <;> simp [space, after, hc, h]

theorem inExpression_after (h : Enclosed cs) :
    (p.after (front ++ cs)).inExpression = (p.after ['\x22', '\x22']).inExpression := by
  have hquotes : Enclosed ['\x22', '\x22'] := ⟨'\x22', [], Or.inl rfl, rfl⟩
  have hhead : ∀ front cs, Enclosed cs →
      Reading.expectsOperand (Text.trimEnd (p.after (front ++ cs)).collected.reverse) =
        Reading.expectsOperand ('\x22' :: Text.trimEnd p.collected.reverse) := by
    intro front cs h
    have hcollected : (p.after (front ++ cs)).collected.reverse =
        front ++ (cs ++ p.collected.reverse) := by simp [after]
    rw [hcollected, Text.trimEnd_enclosed h]
    obtain ⟨quote, inside, hq, rfl⟩ := h
    simpa using Reading.expectsOperand_quote hq (front ++ quote :: inside)
      (Text.trimEnd p.collected.reverse)
  rw [inExpression, inExpression, hhead front cs h]
  rw [← hhead [] _ hquotes]
  rfl

theorem mark?_after {c : Char} (hc : c ≠ '{') : (p.after cs).mark? c = (p.mark? c).map (·.after cs) := by
  obtain ⟨collected, brackets, braces⟩ := p
  cases brackets <;> simp only [mark?, after, push] <;> grind

/-- What reading does with a lexeme does not depend on the literals that the text under way has before
it. -/
theorem exists_take?_after (p : Pending) (x : Lexeme) : ∃ r : Option Pending, ∀ front cs, Enclosed cs →
    (p.after (front ++ cs)).take? x = r.map (·.after (front ++ cs)) := by
  cases x with
  | literal t => exact ⟨some (p.push t), fun _ _ _ => congrArg some push_after⟩
  | blank => exact ⟨some _, fun _ _ h => congrArg some (space_after h)⟩
  | blockComment => exact ⟨some _, fun _ _ h => congrArg some (space_after h)⟩
  | lineComment => exact ⟨some p, fun _ _ _ => rfl⟩
  | unclosed => exact ⟨none, fun _ _ _ => rfl⟩
  | mark c =>
    by_cases hc : c = '{'
    · subst hc
      cases hin : (p.after ['\x22', '\x22']).inExpression with
      | false =>
        refine ⟨none, fun front cs h => take?_openBrace.mpr ?_⟩
        rw [inExpression_after h, hin]
      | true =>
        refine ⟨some { p.push ['{'] with braces := p.braces + 1 }, fun front cs h => ?_⟩
        have htaken : (p.after (front ++ cs)).take? (.mark '{') =
            some { (p.after (front ++ cs)).push ['{'] with braces := p.braces + 1 } := by
          have hin' : (p.after (front ++ cs)).inExpression = true := by rw [inExpression_after h, hin]
          simp [take?, mark?, hin']
          rfl
        rw [htaken, push_after]
        rfl
    · exact ⟨p.mark? c, fun _ _ _ => mark?_after hc⟩

end Pending

namespace Statement

/-- Statements with a gap in one line or header. -/
inductive Gap where
  | ofLine (before : List Statement) (front back : List Char) (after : List Statement)
  | ofHeader (before : List Statement) (front back : List Char) (body after : List Statement)
  | inBody (before : List Statement) (header : String) (body : Gap) (after : List Statement)

namespace Gap

/-- The statements with a text in the gap. -/
def fill (cs : List Char) : Gap → List Statement
  | ofLine before front back after =>
    before ++ .simple (String.ofList (front ++ (cs ++ back))) :: after
  | ofHeader before front back body after =>
    before ++ .block (String.ofList (front ++ (cs ++ back))) body :: after
  | inBody before header body after => before ++ .block header (body.fill cs) :: after

def append (g : Gap) (ss : List Statement) : Gap :=
  match g with
  | ofLine before front back after => ofLine before front back (after ++ ss)
  | ofHeader before front back body after => ofHeader before front back body (after ++ ss)
  | inBody before header body after => inBody before header body (after ++ ss)

theorem fill_append (g : Gap) (ss : List Statement) (cs : List Char) :
    (g.append ss).fill cs = g.fill cs ++ ss := by
  cases g <;> simp [append, fill]

end Gap

/-- How deep the lines and blocks of statements stand, in pre-order. -/
def nesting (ss : List Statement) (depth : Nat) : List (Nat × Bool) :=
  (outlineAll depth ss).map fun row => (row.depth, row.isBlock)

theorem nesting_append (ss ts : List Statement) (depth : Nat) :
    nesting (ss ++ ts) depth = nesting ss depth ++ nesting ts depth := by
  induction ss with
  | nil => rfl
  | cons s ss ih =>
    rw [nesting, nesting] at ih ⊢
    simp [outlineAll, ih]

theorem nesting_simple (text : String) (ss : List Statement) (depth : Nat) :
    nesting (.simple text :: ss) depth = (depth, false) :: nesting ss depth := rfl

theorem nesting_block (header : String) (body ss : List Statement) (depth : Nat) :
    nesting (.block header body :: ss) depth =
      (depth, true) :: (nesting body (depth + 1) ++ nesting ss depth) := by
  simp [nesting, outlineAll, outline]

/-- The text in a gap does not change how statements are nested. -/
theorem Gap.nesting_fill (g : Gap) (cs ds : List Char) (depth : Nat) :
    nesting (g.fill cs) depth = nesting (g.fill ds) depth := by
  induction g generalizing depth with
  | ofLine => rw [fill, fill, nesting_append, nesting_append, nesting_simple, nesting_simple]
  | ofHeader => rw [fill, fill, nesting_append, nesting_append, nesting_block, nesting_block]
  | inBody before header body after ih =>
    rw [fill, fill, nesting_append, nesting_append, nesting_block, nesting_block, ih]

end Statement

namespace Nest

/-- Statements inside of open blocks, with a gap: in the innermost block, before the header of an open
block, or in that header. -/
inductive Gap where
  | innermost (gap : Statement.Gap) (outer : List (List Statement × String))
  | ofItems (items : List Statement) (inner : List (List Statement × String)) (gap : Statement.Gap)
      (header : String) (outer : List (List Statement × String))
  | ofHeader (items : List Statement) (inner : List (List Statement × String))
      (before : List Statement) (front back : List Char) (outer : List (List Statement × String))

namespace Gap

def fill (cs : List Char) : Gap → Nest
  | innermost gap outer => ⟨(gap.fill cs).reverse, outer⟩
  | ofItems items inner gap header outer => ⟨items, inner ++ ((gap.fill cs).reverse, header) :: outer⟩
  | ofHeader items inner before front back outer =>
    ⟨items, inner ++ (before, String.ofList (front ++ (cs ++ back))) :: outer⟩

theorem exists_add (g : Gap) (s : Statement) : ∃ g' : Gap, ∀ cs, (g.fill cs).add s = g'.fill cs := by
  cases g with
  | innermost gap outer =>
    exact ⟨innermost (gap.append [s]) outer, fun cs => by simp [fill, add, Statement.Gap.fill_append]⟩
  | ofItems items inner gap h outer => exact ⟨ofItems (s :: items) inner gap h outer, fun _ => rfl⟩
  | ofHeader items inner before front back outer =>
    exact ⟨ofHeader (s :: items) inner before front back outer, fun _ => rfl⟩

theorem exists_enter (g : Gap) (h : String) : ∃ g' : Gap, ∀ cs, (g.fill cs).enter h = g'.fill cs := by
  cases g with
  | innermost gap outer => exact ⟨ofItems [] [] gap h outer, fun _ => rfl⟩
  | ofItems items inner gap h' outer => exact ⟨ofItems [] ((items, h) :: inner) gap h' outer, fun _ => rfl⟩
  | ofHeader items inner before front back outer =>
    exact ⟨ofHeader [] ((items, h) :: inner) before front back outer, fun _ => rfl⟩

/-- Closing a block keeps the gap: a gap in its body or header is one in the statement that it becomes. -/
theorem exists_leave? (g : Gap) :
    ∃ r : Option Gap, ∀ cs, (g.fill cs).leave? = r.map (·.fill cs) := by
  cases g with
  | innermost gap outer =>
    cases outer with
    | nil => exact ⟨none, fun _ => rfl⟩
    | cons o outer =>
      exact ⟨some (innermost (.inBody o.1.reverse o.2 gap []) outer),
        fun cs => by simp [fill, leave?, Statement.Gap.fill]⟩
  | ofItems items inner gap h outer =>
    cases inner with
    | nil =>
      exact ⟨some (innermost (gap.append [.block h items.reverse]) outer),
        fun cs => by simp [fill, leave?, Statement.Gap.fill_append]⟩
    | cons o inner =>
      exact ⟨some (ofItems (.block o.2 items.reverse :: o.1) inner gap h outer), fun _ => rfl⟩
  | ofHeader items inner before front back outer =>
    cases inner with
    | nil =>
      exact ⟨some (innermost (.ofHeader before.reverse front back items.reverse []) outer),
        fun cs => by simp [fill, leave?, Statement.Gap.fill]⟩
    | cons o inner =>
      exact ⟨some (ofHeader (.block o.2 items.reverse :: o.1) inner before front back outer), fun _ => rfl⟩

end Gap

end Nest

namespace Progress

/-- How far a text has been read, with a gap: in what has been read, or in the text under way. -/
inductive Gap where
  | inNest (nest : Nest.Gap) (pending : Pending)
  | inText (nest : Nest) (front : List Char) (back : Pending)

namespace Gap

def fill (cs : List Char) : Gap → Progress
  | inNest nest pending => ⟨nest.fill cs, pending⟩
  | inText nest front back => ⟨nest, back.after (front ++ cs)⟩

theorem exists_turn_inNest (nest : Nest.Gap) (p : Pending) (c : Char) : ∃ r : Option Gap, ∀ cs,
    (fill cs (inNest nest p)).turn? c = r.map (·.fill cs) := by
  unfold turn?
  split
  next =>
    obtain ⟨g, hg⟩ := nest.exists_add (.simple (String.ofList (p.push [';']).text))
    exact ⟨some (inNest g .empty), fun cs => congrArg (fun n => some (Progress.mk n .empty)) (hg cs)⟩
  next =>
    obtain ⟨g, hg⟩ := nest.exists_enter (String.ofList p.text)
    exact ⟨some (inNest g .empty), fun cs => congrArg (fun n => some (Progress.mk n .empty)) (hg cs)⟩
  next =>
    obtain ⟨r, hr⟩ := nest.exists_leave?
    by_cases ht : p.text = []
    · refine ⟨r.map (inNest · p), fun cs => ?_⟩
      simp only [fill, ht, if_true, hr, Option.map_map]
      rfl
    · exact ⟨none, fun cs => if_neg ht⟩
  next => exact ⟨none, fun _ => rfl⟩

/-- The gap goes into the line that ends or into the header of the block that is opened. -/
theorem exists_turn_inText (nest : Nest) (front : List Char) (p : Pending) (c : Char) :
    ∃ r : Option Gap, ∀ cs, Enclosed cs →
      (fill cs (inText nest front p)).turn? c = r.map (·.fill cs) := by
  unfold turn?
  split
  next =>
    refine ⟨some (inNest (.innermost (.ofLine nest.items.reverse (front.dropWhile Text.isBlank)
      (Text.trimEnd (p.push [';']).collected.reverse) []) nest.outer) .empty), fun cs h => ?_⟩
    simp only [fill, Pending.push_after, Pending.text_after h]
    simp [Nest.add, Nest.Gap.fill, Statement.Gap.fill]
  next =>
    refine ⟨some (inNest (.ofHeader [] [] nest.items (front.dropWhile Text.isBlank)
      (Text.trimEnd p.collected.reverse) nest.outer) .empty), fun cs h => ?_⟩
    simp only [fill, Pending.text_after h]
    rfl
  next => exact ⟨none, fun cs h => if_neg (Pending.text_after_ne_nil h)⟩
  next => exact ⟨none, fun _ _ => rfl⟩

theorem exists_turn (g : Gap) (c : Char) : ∃ r : Option Gap, ∀ cs, Enclosed cs →
    (g.fill cs).turn? c = r.map (·.fill cs) := by
  cases g with
  | inNest nest p =>
    obtain ⟨r, hr⟩ := exists_turn_inNest nest p c
    exact ⟨r, fun cs _ => hr cs⟩
  | inText nest front p => exact exists_turn_inText nest front p c

/-- A lexeme is taken along whatever is in the gap, or never. -/
theorem exists_take_or_none (g : Gap) (x : Lexeme) :
    (∃ g' : Gap, ∀ cs, Enclosed cs → (g.fill cs).step? x = some (g'.fill cs)) ∨
      ∀ cs, Enclosed cs → (g.fill cs).pending.take? x = none := by
  cases g with
  | inNest nest p =>
    cases ht : p.take? x with
    | some q => exact Or.inl ⟨inNest nest q, fun cs _ => step?_of_take? ht⟩
    | none => exact Or.inr fun cs _ => ht
  | inText nest front p =>
    obtain ⟨r, hr⟩ := p.exists_take?_after x
    cases r with
    | some q => exact Or.inl ⟨inText nest front q, fun cs h => step?_of_take? (hr front cs h)⟩
    | none => exact Or.inr fun cs h => hr front cs h

/-- Reading one lexeme keeps the gap, whatever text between quotes is in it. -/
theorem exists_step (g : Gap) (x : Lexeme) : ∃ r : Option Gap, ∀ cs, Enclosed cs →
    (g.fill cs).step? x = r.map (·.fill cs) := by
  rcases g.exists_take_or_none x with ⟨g', hg⟩ | hnone
  · exact ⟨some g', hg⟩
  · by_cases hx : ∃ c, x = .mark c
    · obtain ⟨c, rfl⟩ := hx
      obtain ⟨r, hr⟩ := g.exists_turn c
      exact ⟨r, fun cs h => (step?_of_turn? (hnone cs h)).trans (hr cs h)⟩
    · exact ⟨none, fun cs h => step?_eq_none (hnone cs h) hx⟩

theorem exists_run (g : Gap) (xs : List Lexeme) : ∃ r : Option Gap, ∀ cs, Enclosed cs →
    xs.foldlM step? (g.fill cs) = r.map (·.fill cs) := by
  -- Each step moves the gap on, and whether it fails does not depend on the text in the gap.
  induction xs generalizing g with
  | nil => exact ⟨some g, fun _ _ => rfl⟩
  | cons x xs ih =>
    obtain ⟨r, hr⟩ := g.exists_step x
    cases r with
    | none => exact ⟨none, fun cs h => by rw [List.foldlM_cons, hr cs h]; rfl⟩
    | some g' =>
      obtain ⟨r', hr'⟩ := ih g'
      exact ⟨r', fun cs h => by rw [List.foldlM_cons, hr cs h, ← hr' cs h]; rfl⟩

/-- At the end of a text the gap is in one of its statements. -/
theorem exists_result (g : Gap) : ∃ r : Option Statement.Gap, ∀ cs, Enclosed cs →
    (g.fill cs).result? = r.map (·.fill cs) := by
  have hopen : ∀ (p : Progress), p.nest.outer ≠ [] → p.result? = none :=
    fun p ho => if_neg fun h => ho h.2.2.2
  cases g with
  | inText nest front p => exact ⟨none, fun cs h => if_neg fun hp => Pending.text_after_ne_nil h hp.2.2.1⟩
  | inNest nest p =>
    cases nest with
    | ofItems => exact ⟨none, fun cs _ => hopen _ (by simp [fill, Nest.Gap.fill])⟩
    | ofHeader => exact ⟨none, fun cs _ => hopen _ (by simp [fill, Nest.Gap.fill])⟩
    | innermost gap outer =>
      by_cases hp : p.brackets = [] ∧ p.braces = 0 ∧ p.text = [] ∧ outer = []
      · refine ⟨some gap, fun cs _ => (if_pos hp).trans ?_⟩
        simp [fill, Nest.Gap.fill]
      · exact ⟨none, fun cs _ => if_neg hp⟩

end Gap

end Progress

/-- A literal is enclosed in its quotes. -/
theorem Lexeme.Reads.enclosed {literal rest : List Char} (h : (Lexeme.literal literal).Reads rest) :
    Enclosed literal := by
  obtain ⟨c, cs, hn⟩ := h
  cases hn with
  | literal hq hc =>
    obtain ⟨inside, hinside⟩ := List.getLast?_eq_some_iff.mp (closeLiteral?_getLast hc)
    exact ⟨c, inside, hq, by rw [hinside]⟩

/-- Characters that stand for themselves make up a literal between two quotes. -/
theorem Lexeme.reads_quoted {quote : Char} {contents : List Char} (hq : IsQuote quote)
    (hne : contents ≠ []) (hquote : quote ∉ contents) (hback : '\\' ∉ contents)
    (hline : '\n' ∉ contents) (rest : List Char) :
    (Lexeme.literal (quote :: (contents ++ [quote]))).Reads rest := by
  have hquoted : Quoted quote (contents ++ [quote]) := by
    clear hne
    induction contents with
    | nil => exact .close
    | cons c contents ih =>
      simp only [List.mem_cons, not_or] at hquote hback hline
      exact .plain (Ne.symm hline.1) (Ne.symm hback.1) (Ne.symm hquote.1)
        (ih hquote.2 hback.2 hline.2)
  refine ⟨quote, contents ++ [quote] ++ rest, next_quoted hq hquoted fun hblock => ?_⟩
  obtain ⟨c, contents, rfl⟩ := List.exists_cons_of_ne_nil hne
  obtain ⟨rfl, hblock⟩ := List.cons_prefix_cons.mp hblock
  exact hquote (by rw [(List.cons_prefix_cons.mp hblock).1]; exact List.mem_cons_self)

namespace Progress

/-- Once a literal has been taken along it is in a gap. -/
theorem step?_literal (p : Progress) (cs : List Char) : p.step? (.literal cs) =
    some ((Gap.inText p.nest p.pending.collected.reverse ⟨[], p.pending.brackets, p.pending.braces⟩).fill
      cs) := by
  simp [step?, Pending.take?, Gap.fill, Pending.after, Pending.push]

/-- What is read from lexemes with a literal among them: whether they can be read does not depend on the
literal, and it goes into a gap. -/
theorem exists_gap (xs ys : List Lexeme) : ∃ r : Option Statement.Gap, ∀ cs, Enclosed cs →
    ((xs ++ .literal cs :: ys).foldlM step? start).bind result? = r.map (·.fill cs) := by
  cases hxs : xs.foldlM step? start with
  | none => exact ⟨none, fun cs _ => by rw [List.foldlM_append, hxs]; rfl⟩
  | some p =>
    obtain ⟨r, hr⟩ := (Gap.inText p.nest p.pending.collected.reverse
      ⟨[], p.pending.brackets, p.pending.braces⟩).exists_run ys
    have hrun : ∀ cs, Enclosed cs →
        (xs ++ .literal cs :: ys).foldlM step? start = r.map (·.fill cs) := by
      intro cs h
      rw [List.foldlM_append, hxs, ← hr cs h]
      change (.literal cs :: ys).foldlM step? p = _
      rw [List.foldlM_cons, step?_literal]
      rfl
    cases r with
    | none => exact ⟨none, fun cs h => by rw [hrun cs h]; rfl⟩
    | some g =>
      obtain ⟨r', hr'⟩ := g.exists_result
      exact ⟨r', fun cs h => by rw [hrun cs h, ← hr' cs h]; rfl⟩

end Progress

/-- A literal among the lexemes of a text can be exchanged for another one. -/
theorem lexemes_replace_literal {xs ys : List Lexeme} {literal literal' : List Char} {quote : Char}
    (hj : Joined (xs ++ .literal literal :: ys) []) (hx : ∀ x ∈ xs, x.IsClosed)
    (hfirst : literal.head? = some quote) (hfirst' : literal'.head? = some quote)
    (hreads : ∀ rest, (Lexeme.literal literal').Reads rest) :
    lexemes (xs.flatMap Lexeme.text ++ (literal' ++ ys.flatMap Lexeme.text)) =
      xs ++ .literal literal' :: ys := by
  obtain ⟨hxs, _, hys⟩ := joined_append.mp hj
  obtain ⟨t, rfl⟩ := List.head?_eq_some_iff.mp hfirst
  obtain ⟨t', rfl⟩ := List.head?_eq_some_iff.mp hfirst'
  have hxs' : Joined xs ((.literal (quote :: t') :: ys).flatMap Lexeme.text ++ []) :=
    hxs.congr_head hx rfl
  have hjoined : Joined (xs ++ .literal (quote :: t') :: ys) [] :=
    joined_append.mpr ⟨hxs', hreads _, hys⟩
  simpa [Lexeme.text] using hjoined.lexemes_flatMap

namespace Statement

/-- If a text can be read, it can be read with other characters inside one of its literals, be they
braces, semicolons, comments or blanks. The statements are the same ones with the other literal in the
same line or header. -/
theorem parseAll_replace_literal {text : String} {ss : List Statement} {xs ys : List Lexeme}
    {literal : List Char} (h : parseAll text = .ok ss)
    (hl : lexemes text.toList = xs ++ .literal literal :: ys) :
    ∃ (quote : Char) (inside : List Char) (gap : Gap), IsQuote quote ∧
      literal = quote :: (inside ++ [quote]) ∧ ss = gap.fill literal ∧
      text.toList = xs.flatMap Lexeme.text ++ (literal ++ ys.flatMap Lexeme.text) ∧
      ∀ contents, contents ≠ [] → quote ∉ contents → '\\' ∉ contents → '\n' ∉ contents →
        let literal' := quote :: (contents ++ [quote])
        let text' := xs.flatMap Lexeme.text ++ (literal' ++ ys.flatMap Lexeme.text)
        lexemes text' = xs ++ .literal literal' :: ys ∧
          parseAll (String.ofList text') = .ok (gap.fill literal') ∧
          nesting (gap.fill literal') 0 = nesting ss 0 := by
  have hj := joined_lexemes text.toList
  have htext := flatMap_text_lexemes text.toList
  rw [parseAll_eq_ok_iff, Progress.readAll?] at h
  rw [hl] at h hj htext
  obtain ⟨p, hp, _⟩ := Option.bind_eq_some_iff.mp h
  have hclosed : ∀ x ∈ xs, x.IsClosed := fun x hx =>
    Progress.isClosed_of_foldlM hp x (List.mem_append_left _ hx)
  have henclosed := (joined_append.mp hj).2.1.enclosed
  obtain ⟨r, hr⟩ := Progress.exists_gap xs ys
  obtain ⟨gap, rfl, rfl⟩ := Option.map_eq_some_iff.mp ((hr literal henclosed).symm.trans h)
  obtain ⟨quote, inside, hq, rfl⟩ := henclosed
  refine ⟨quote, inside, gap, hq, rfl, rfl, by simpa [Lexeme.text] using htext.symm, ?_⟩
  intro contents hne hquote hback hline literal' text'
  have hlexemes : lexemes text' = xs ++ .literal literal' :: ys :=
    lexemes_replace_literal hj hclosed rfl rfl (Lexeme.reads_quoted hq hne hquote hback hline)
  refine ⟨hlexemes, ?_, gap.nesting_fill _ _ 0⟩
  rw [parseAll_eq_ok_iff, String.toList_ofList, Progress.readAll?, hlexemes]
  exact hr literal' ⟨quote, contents, hq, rfl⟩

/-- A header whose literal gets a brace, a semicolon and the beginning of a comment inside. -/
theorem parseAll_replace_literal_header :
    let text := "if (s == \"a\") \x7b g('b'); \x7d"
    let text' := "if (s == \"\x7d; = /* \") \x7b g('b'); \x7d"
    ∃ gap : Gap, parseAll text = .ok (gap.fill "\"a\"".toList) ∧
      parseAll text' = .ok (gap.fill "\"\x7d; = /* \"".toList) ∧
      nesting (gap.fill "\"\x7d; = /* \"".toList) 0 = [(0, true), (1, false)] := by
  intro text text'
  have hall : parseAll text = .ok [.block "if (s == \"a\")" [.simple "g('b');"]] := by decide +kernel
  have hl : lexemes text.toList = lexemes "if (s == ".toList ++ .literal "\"a\"".toList ::
      lexemes ") \x7b g('b'); \x7d".toList := by decide +kernel
  obtain ⟨quote, inside, gap, _, hliteral, hgap, _, hreplace⟩ := parseAll_replace_literal hall hl
  obtain ⟨rfl, _⟩ := List.cons.inj hliteral
  obtain ⟨_, hparse, hnesting⟩ :=
    hreplace "\x7d; = /* ".toList (by decide) (by decide) (by decide) (by decide)
  rw [flatMap_text_lexemes, flatMap_text_lexemes] at hparse
  exact ⟨gap, hgap ▸ hall, hparse, hnesting⟩

end Statement

end PatchSearch
