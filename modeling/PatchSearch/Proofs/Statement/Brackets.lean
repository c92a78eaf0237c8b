import PatchSearch.Proofs.Statement.Pieces

namespace PatchSearch

def isRound (c : Char) : Bool :=
  c = '(' || c = ')' || c = '[' || c = ']'

def isCurly (c : Char) : Bool :=
  c = '{' || c = '}'

/-- The opening bracket that a closing one goes with. -/
def opens? (c : Char) : Option Char :=
  if c = ')' then some '(' else if c = ']' then some '[' else if c = '}' then some '{' else none

def Lexeme.bracket? : Lexeme → Option Char
  | .mark c => if isRound c || isCurly c then some c else none
  | _ => none

/-- The brackets of a text outside literals and comments. -/
def brackets (cs : List Char) : List Char :=
  (pieces cs).filterMap Lexeme.bracket?

def bracketOf? : List Char → Option Char
  | [c] => if isRound c || isCurly c then some c else none
  | _ => none

/-- The brackets are those pieces of the cut that are one. -/
theorem Cuts.brackets_eq {cs : List Char} {ps : List (List Char)} (h : Cuts cs ps) :
    brackets cs = ps.filterMap bracketOf? := by
  induction h with
  | nil => simp [brackets, pieces, lexemes]
  | blank hb _ ih => rwa [brackets, pieces_of_next (.blank hb)]
  | lineComment hline hcs _ ih => rwa [brackets, pieces_of_next (next_lineComment hline hcs)]
  | blockComment hi _ ih => rwa [brackets, pieces_of_next (next_blockComment hi _)]
  | @textBlock _ cs _ hi _ ih =>
    have hp := pieces_of_next (next_textBlock hi cs)
    exact (congrArg (List.filterMap Lexeme.bracket?) hp).trans ih
  | @quoted quote inside _ _ hq hi hn _ ih =>
    have hno : bracketOf? (quote :: inside) = none := by
      cases inside with
      | nil => rcases hq with rfl | rfl <;> rfl
      | cons => rfl
    rwa [brackets, pieces_of_next (next_quoted hq hi hn), List.filterMap_cons_none hno]
  | @mark c _ ps hq hb hc _ ih =>
    have hsplit : ([c] :: ps).filterMap bracketOf? = [[c]].filterMap bracketOf? ++ ps.filterMap bracketOf? :=
      List.filterMap_append (l := [[c]])
    rw [brackets, pieces_of_next (.mark hq hc hb), List.filterMap_append, hsplit, ← ih]
    rfl

/-- Reads one bracket after those that are open, the innermost first. -/
def settle (opened : List Char) (c : Char) : Option (List Char) :=
  match opens? c, opened with
  | none, _ => some (c :: opened)
  | some _, [] => none
  | some o, b :: bs => if b = o then some bs else none

/-- Each closing bracket goes with the last one that is open, and none stays open. -/
def Nested (cs : List Char) : Prop :=
  cs.foldlM settle [] = some []

instance : DecidablePred Nested := fun _ => inferInstanceAs (Decidable (_ = _))

/-- Brackets that are open before are not touched unless they are needed. -/
theorem foldlM_settle_append {cs opened left : List Char} (h : cs.foldlM settle opened = some left)
    (outer : List Char) : cs.foldlM settle (opened ++ outer) = some (left ++ outer) := by
  induction cs generalizing opened with
  | nil =>
    cases Option.some.inj h
    rfl
  | cons c cs ih =>
    rw [List.foldlM_cons] at h ⊢
    obtain ⟨mid, hc, h⟩ := Option.bind_eq_some_iff.mp h
    have hc' : settle (opened ++ outer) c = some (mid ++ outer) := by
      unfold settle at hc ⊢
      cases opened <;> grind
    rw [hc']
    exact ih h

theorem foldlM_settle_split {cs ds opened left : List Char}
    (h : (cs ++ ds).foldlM settle opened = some left) :
    ∃ mid, cs.foldlM settle opened = some mid ∧ ds.foldlM settle mid = some left := by
  rw [List.foldlM_append] at h
  exact Option.bind_eq_some_iff.mp h

/-- Reading a bracket does to the brackets of one kind what reading them alone would do. -/
theorem foldlM_settle_filter {kind : Char → Bool} (hk : ∀ b c, opens? c = some b → kind b = kind c)
    {opened left : List Char} {c : Char} (h : settle opened c = some left) :
    ([c].filter kind).foldlM settle (opened.filter kind) = some (left.filter kind) := by
  unfold settle at h
  split at h
  next ho =>
    cases Option.some.inj h
    by_cases hc : kind c
    · simp [hc, settle, ho]
    · simp [hc]
  next => simp at h
  next o b bs ho =>
    split at h
    next hb =>
      cases Option.some.inj h
      subst hb
      by_cases hc : kind c
      · simp [hc, hk b c ho, settle, ho]
      · simp [hc, hk b c ho]
    next => simp at h

theorem settle_subset {opened left : List Char} {c : Char} (h : settle opened c = some left) :
    ∀ d ∈ left, d = c ∨ d ∈ opened := by
  unfold settle at h
  grind

theorem isRound_of_opens? (b c : Char) (h : opens? c = some b) : isRound b = isRound c := by
  unfold opens? at h
  grind [isRound]

theorem isCurly_of_opens? (b c : Char) (h : opens? c = some b) : isCurly b = isCurly c := by
  unfold opens? at h
  grind [isCurly]

namespace Nested

variable {cs ds : List Char}

theorem foldlM (h : Nested cs) (outer : List Char) : cs.foldlM settle outer = some outer :=
  foldlM_settle_append h outer

theorem nil : Nested [] := rfl

theorem append (h : Nested cs) (h' : Nested ds) : Nested (cs ++ ds) := by
  rw [Nested, List.foldlM_append, h]
  exact h'

theorem braced (h : Nested cs) : Nested ('{' :: (cs ++ ['}'])) := by
  have hopen : settle [] '{' = some ['{'] := rfl
  rw [Nested, List.foldlM_cons, hopen]
  change (cs ++ ['}']).foldlM settle ['{'] = some []
  rw [List.foldlM_append, h.foldlM ['{']]
  rfl

end Nested

/-- Brackets that can be read after some others are nested if each kind of them is nested. -/
theorem foldlM_settle_of_kinds {cs opened left outer : List Char}
    (h : cs.foldlM settle (opened ++ outer) = some left)
    (hr : (cs.filter isRound).foldlM settle (opened.filter isRound) = some [])
    (hc : (cs.filter isCurly).foldlM settle (opened.filter isCurly) = some [])
    (hcs : ∀ c ∈ opened ++ cs, isRound c || isCurly c) : cs.foldlM settle opened = some [] := by
  induction cs generalizing opened with
  | nil =>
    cases opened with
    | nil => rfl
    | cons b bs =>
      have hb := hcs b (by simp)
      by_cases hk : isRound b <;> simp_all
  | cons c cs ih =>
    rw [List.foldlM_cons] at h ⊢
    obtain ⟨mid, hm, h⟩ := Option.bind_eq_some_iff.mp h
    obtain ⟨inner, hi, rfl⟩ : ∃ inner, settle opened c = some inner ∧ mid = inner ++ outer := by
      have hk := hcs c (by simp)
      cases ho : opens? c with
      | none => exact ⟨c :: opened, by simp [settle, ho], by simpa [settle, ho] using hm.symm⟩
      | some o =>
        cases opened with
        | nil => by_cases hround : isRound c <;> simp_all [settle]
        | cons b bs =>
          have hb : b = o ∧ bs ++ outer = mid := by simpa [settle, ho] using hm
          exact ⟨bs, by simp [settle, ho, hb.1], hb.2.symm⟩
    have hir := foldlM_settle_filter isRound_of_opens? hi
    have hic := foldlM_settle_filter isCurly_of_opens? hi
    rw [← List.singleton_append, List.filter_append, List.foldlM_append, hir] at hr
    rw [← List.singleton_append, List.filter_append, List.foldlM_append, hic] at hc
    rw [hi]
    refine ih h hr hc fun d hd => hcs d ?_
    rcases List.mem_append.mp hd with hd | hd
    · rcases settle_subset hi d hd with rfl | hd <;> simp [*]
    · simp [hd]

/-- A character that stays in a statement under way does to the open round and square brackets, and to
the number of open braces, what reading it as a bracket would do. -/
theorem Pending.mark?_settle {p q : Pending} {c : Char} (h : p.mark? c = some q) :
    ([c].filter isRound).foldlM settle p.brackets = some q.brackets ∧
      ([c].filter isCurly).foldlM settle (List.replicate p.braces '{') =
        some (List.replicate q.braces '{') := by
  cases marks_of_mark? h with
  | opened ho => rcases ho with rfl | rfl <;> exact ⟨rfl, rfl⟩
  | closed hc hb => rcases hc with rfl | rfl <;> exact ⟨by rw [hb]; rfl, rfl⟩
  | openedBrace => exact ⟨rfl, rfl⟩
  | closedBrace hz =>
    obtain ⟨n, hn⟩ := Nat.exists_eq_succ_of_ne_zero (Nat.ne_of_gt hz)
    refine ⟨rfl, ?_⟩
    rw [hn, List.replicate_succ]
    rfl
  | semicolon => exact ⟨rfl, rfl⟩
  | other hc =>
    simp only [List.mem_cons, List.not_mem_nil, or_false, not_or] at hc
    simp [isRound, isCurly, hc, Pending.push]

namespace Lexeme

theorem filterMap_bracket?_concat {xs : List Lexeme} {x : Lexeme} (h : x.bracket? = none) :
    (xs ++ [x]).filterMap bracket? = xs.filterMap bracket? := by
  rw [List.filterMap_append, List.filterMap_cons_none h, List.filterMap_nil, List.append_nil]

theorem filter_bracket?_mark {kind : Char → Bool} {c : Char}
    (hk : kind c = true → isRound c || isCurly c) :
    ([mark c].filterMap bracket?).filter kind = [c].filter kind := by
  by_cases hb : isRound c || isCurly c <;> simp_all [bracket?, List.filter_cons]

theorem filterMap_bracket?_pieces (xs : List Lexeme) :
    (xs.filter isPiece).filterMap bracket? = xs.filterMap bracket? := by
  rw [List.filterMap_filter]
  congr
  funext x
  cases x <;> rfl

end Lexeme

/-- The brackets of a draft are the ones that are counted as open beside it. -/
theorem Draft.settle {xs : List Lexeme} {p : Pending} (h : Draft xs p) :
    ((xs.filterMap Lexeme.bracket?).filter isRound).foldlM PatchSearch.settle [] = some p.brackets ∧
      ((xs.filterMap Lexeme.bracket?).filter isCurly).foldlM PatchSearch.settle [] =
        some (List.replicate p.braces '{') := by
  induction h with
  | nil => exact ⟨rfl, rfl⟩
  | space _ _ _ ih =>
    rw [Lexeme.filterMap_bracket?_concat rfl]
    exact ih
  | @solid xs p x q _ hs ht ih =>
    rcases hs.word with ⟨t, rfl⟩ | ⟨c, rfl⟩
    · cases Option.some.inj ht
      rw [Lexeme.filterMap_bracket?_concat rfl]
      exact ih
    · obtain ⟨hr, hc⟩ := Pending.mark?_settle ht
      rw [List.filterMap_append, List.filter_append, List.filter_append, List.foldlM_append,
        List.foldlM_append, ih.1, ih.2, Lexeme.filter_bracket?_mark (by simp +contextual),
        Lexeme.filter_bracket?_mark (by simp +contextual)]
      exact ⟨hr, hc⟩

/-- Round and square brackets are nested among themselves, and braces are. -/
structure NestedByKind (cs : List Char) : Prop where
  round : Nested (cs.filter isRound)
  curly : Nested (cs.filter isCurly)

theorem brackets_isBracket (cs : List Char) : ∀ c ∈ brackets cs, isRound c || isCurly c := by
  intro c hc
  obtain ⟨x, _, hx⟩ := List.mem_filterMap.mp hc
  cases x with
  | mark d =>
    simp only [Lexeme.bracket?] at hx
    split at hx <;> simp_all
  | _ => simp [Lexeme.bracket?] at hx

theorem NestedByKind.nested {cs outer left : List Char} (h : NestedByKind (brackets cs))
    (hr : (brackets cs).foldlM settle outer = some left) : Nested (brackets cs) := by
  have hr' : (brackets cs).foldlM settle ([] ++ outer) = some left := hr
  exact foldlM_settle_of_kinds hr' h.round h.curly (brackets_isBracket cs)

/-- Between two statements no bracket and no brace of the draft is open. -/
theorem Draft.nestedByKind {xs : List Lexeme} {p : Pending} {rest : List Char} (h : Draft xs p)
    (hj : Joined xs rest) (hb : p.brackets = []) (hz : p.braces = 0) :
    NestedByKind (brackets p.collected.reverse) := by
  rw [brackets, pieces, h.lexemes_collected hj, Lexeme.filterMap_bracket?_pieces]
  have hs := h.settle
  rw [hb, hz] at hs
  exact ⟨hs.1, hs.2⟩

theorem IsLine.nestedByKind {text : List Char} (h : IsLine text) : NestedByKind (brackets text) := by
  obtain ⟨xs, p, hd, hj, hb, hz, rfl⟩ := h
  have hp : brackets (p.collected.reverse ++ [';']) = brackets p.collected.reverse := by
    rw [brackets, ← hd.trim_line, hd.pieces_line hj, Lexeme.filterMap_bracket?_concat rfl, brackets]
  rw [hp]
  exact hd.nestedByKind hj hb hz

theorem IsHeader.nestedByKind {text : List Char} (h : IsHeader text) :
    NestedByKind (brackets text) := by
  obtain ⟨xs, p, hd, hj, hp, _, rfl⟩ := h
  have hn : p.brackets = [] ∧ p.braces = 0 := by simp_all [Pending.inExpression]
  exact hd.nestedByKind hj hn.1 hn.2

namespace Statement

theorem mem_outlineAll {row : Row} {depth : Nat} {ss : List Statement} :
    row ∈ outlineAll depth ss ↔ ∃ s ∈ ss, row ∈ s.outline depth := by
  induction ss with
  | nil => simp [outlineAll]
  | cons s ss ih => simp [outlineAll, ih]

theorem Readable.nestedByKind {s : Statement} (h : s.Readable) {depth : Nat} :
    ∀ row ∈ s.outline depth, NestedByKind (brackets row.text.toList) := by
  induction h generalizing depth with
  | simple hl =>
    intro row hrow
    cases List.mem_singleton.mp hrow
    exact hl.nestedByKind
  | block hh _ ih =>
    intro row hrow
    rcases List.mem_cons.mp hrow with rfl | hrow
    · exact hh.nestedByKind
    · obtain ⟨s, hs, hrow⟩ := mem_outlineAll.mp hrow
      exact ih s hs row hrow

/-- The brackets of a statement with its braces. -/
def brackets (s : Statement) : List Char :=
  s.pieces.filterMap Lexeme.bracket?

def bracketsAll (ss : List Statement) : List Char :=
  (piecesAll ss).filterMap Lexeme.bracket?

theorem brackets_block (header : String) (body : List Statement) :
    (Statement.block header body).brackets =
      PatchSearch.brackets header.toList ++ '{' :: (bracketsAll body ++ ['}']) := by
  simp [brackets, pieces, bracketsAll, PatchSearch.brackets, Lexeme.bracket?, isRound, isCurly]

theorem bracketsAll_cons (s : Statement) (ss : List Statement) :
    bracketsAll (s :: ss) = s.brackets ++ bracketsAll ss := by
  simp [brackets, bracketsAll, piecesAll]

end Statement

theorem Nested.filter_braced {cs : List Char} {kind : Char → Bool} (hk : kind '{' = kind '}')
    (h : Nested (cs.filter kind)) : Nested (('{' :: (cs ++ ['}'])).filter kind) := by
  by_cases ho : kind '{'
  · simpa [ho, ← hk] using h.braced
  · simpa [ho, ← hk] using h

namespace Statement

mutual

/-- If every line and header is nested then so is the statement, whatever kinds of brackets are looked
at. -/
theorem nested_brackets {kind : Char → Bool} (hk : kind '{' = kind '}') {depth : Nat} :
    (s : Statement) → (∀ row ∈ s.outline depth, Nested ((PatchSearch.brackets row.text.toList).filter kind)) →
      Nested (s.brackets.filter kind)
  | .simple text, h => h ⟨depth, false, text⟩ (List.mem_singleton.mpr rfl)
  | .block header body, h => by
    have hh := h ⟨depth, true, header⟩ (List.mem_cons_self ..)
    have hb := nested_bracketsAll hk body fun row hrow => h row (List.mem_cons_of_mem _ hrow)
    rw [brackets_block, List.filter_append]
    exact hh.append (hb.filter_braced hk)

theorem nested_bracketsAll {kind : Char → Bool} (hk : kind '{' = kind '}') {depth : Nat} :
    (ss : List Statement) →
      (∀ row ∈ outlineAll depth ss, Nested ((PatchSearch.brackets row.text.toList).filter kind)) →
      Nested ((bracketsAll ss).filter kind)
  | [], _ => Nested.nil
  | s :: ss, h => by
    have hs := nested_brackets hk s fun row hrow => h row (List.mem_append_left _ hrow)
    have hss := nested_bracketsAll hk ss fun row hrow => h row (List.mem_append_right _ hrow)
    rw [bracketsAll_cons, List.filter_append]
    exact hs.append hss

end

mutual

/-- If the brackets of a statement can be read somewhere, those of each of its lines and headers can. -/
theorem nested_outline {depth : Nat} {outer left : List Char} :
    (s : Statement) → (∀ row ∈ s.outline depth, NestedByKind (PatchSearch.brackets row.text.toList)) →
      s.brackets.foldlM settle outer = some left →
      ∀ row ∈ s.outline depth, Nested (PatchSearch.brackets row.text.toList)
  | .simple text, hk, h => by
    intro row hrow
    cases List.mem_singleton.mp hrow
    exact (hk _ hrow).nested h
  | .block header body, hk, h => by
    intro row hrow
    rw [brackets_block] at h
    obtain ⟨mid, hh, h⟩ := foldlM_settle_split h
    rcases List.mem_cons.mp hrow with rfl | hrow
    · exact (hk _ (List.mem_cons_self ..)).nested hh
    · have hbraced : (bracketsAll body ++ ['}']).foldlM settle ('{' :: mid) = some left := h
      obtain ⟨_, hb, _⟩ := foldlM_settle_split hbraced
      exact nested_outlineAll body (fun r hr => hk r (List.mem_cons_of_mem _ hr)) hb row hrow

theorem nested_outlineAll {depth : Nat} {outer left : List Char} :
    (ss : List Statement) →
      (∀ row ∈ outlineAll depth ss, NestedByKind (PatchSearch.brackets row.text.toList)) →
      (bracketsAll ss).foldlM settle outer = some left →
      ∀ row ∈ outlineAll depth ss, Nested (PatchSearch.brackets row.text.toList)
  | [], _, _ => by simp [outlineAll]
  | s :: ss, hk, h => by
    intro row hrow
    rw [bracketsAll_cons] at h
    obtain ⟨_, hs, hss⟩ := foldlM_settle_split h
    rcases List.mem_append.mp hrow with hrow | hrow
    · exact nested_outline s (fun r hr => hk r (List.mem_append_left _ hr)) hs row hrow
    · exact nested_outlineAll ss (fun r hr => hk r (List.mem_append_right _ hr)) hss row hrow

end

/-- The brackets among the pieces of a text that can be read: the round and square ones are nested, and
so are the braces, in the whole text as in each line and header. All of them are nested together exactly
if they are in each line and header: the braces of blocks never cross another bracket. -/
theorem nested_of_parseAll {text : String} {items : List Statement} (h : parseAll text = .ok items) :
    (∃ ps, Cuts text.toList ps ∧ PatchSearch.brackets text.toList = ps.filterMap bracketOf?) ∧
      NestedByKind (PatchSearch.brackets text.toList) ∧
      (∀ row ∈ outlineAll 0 items, NestedByKind (PatchSearch.brackets row.text.toList)) ∧
      (Nested (PatchSearch.brackets text.toList) ↔
        ∀ row ∈ outlineAll 0 items, Nested (PatchSearch.brackets row.text.toList)) := by
  have hcut := (cuts_of_parseAll h _).mpr rfl
  have hrows : ∀ row ∈ outlineAll 0 items, NestedByKind (PatchSearch.brackets row.text.toList) := by
    intro row hrow
    obtain ⟨s, hs, hrow⟩ := mem_outlineAll.mp hrow
    exact (readable_of_parseAll h s hs).nestedByKind row hrow
  have htext : PatchSearch.brackets text.toList = bracketsAll items := by
    rw [PatchSearch.brackets, pieces_of_parseAll h, bracketsAll]
  rw [htext]
  refine ⟨⟨_, hcut, htext.symm.trans hcut.brackets_eq⟩, ⟨?_, ?_⟩, hrows,
    fun hn => nested_outlineAll items hrows hn, fun hall => ?_⟩
  · exact nested_bracketsAll rfl items fun row hrow => (hrows row hrow).round
  · exact nested_bracketsAll rfl items fun row hrow => (hrows row hrow).curly
  · have hn : Nested ((bracketsAll items).filter fun _ => true) := by
      refine nested_bracketsAll rfl items fun row (hrow : row ∈ outlineAll 0 items) => ?_
      rw [List.filter_true]
      exact hall row hrow
    rwa [List.filter_true] at hn

/-- A lambda in a call, in a loop with a bracket in a literal. -/
theorem nested_of_parseAll_lambda :
    let text := "for (i : a[0]) \x7b run(() -> \x7b e('('); \x7d); \x7d"
    let items := [.block "for (i : a[0])" [.simple "run(() -> \x7b e('('); \x7d);"]]
    parseAll text = .ok items ∧ NestedByKind (PatchSearch.brackets text.toList) ∧
      (Nested (PatchSearch.brackets text.toList) ↔
        ∀ row ∈ outlineAll 0 items, Nested (PatchSearch.brackets row.text.toList)) ∧
      PatchSearch.brackets text.toList = "([])\x7b(()\x7b()\x7d)\x7d".toList := by
  intro text items
  have hall : parseAll text = .ok items := by decide +kernel
  have hn := nested_of_parseAll hall
  exact ⟨hall, hn.2.1, hn.2.2.2, by decide +kernel⟩

/-- The braces of an expression are only counted, so they can cross its other brackets. -/
theorem parseAll_crossing_braces :
    parseAll "f(\x7b)\x7d;" = .ok [.simple "f(\x7b)\x7d;"] ∧
      ¬Nested (PatchSearch.brackets "f(\x7b)\x7d;".toList) := by
  decide +kernel

end Statement

end PatchSearch
