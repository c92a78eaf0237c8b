import Mathlib.Data.List.Basic
import PatchSearch.Statement.Lexeme

namespace PatchSearch

namespace Text

theorem cutAt?_append_self (pat rest : List Char) : cutAt? pat (pat ++ rest) = some ([], rest) := by
  cases h : pat ++ rest with
  | nil =>
    obtain ⟨rfl, rfl⟩ := List.append_eq_nil_iff.mp h
    rfl
  | cons c cs =>
    have hp : pat.isPrefixOf (c :: cs) = true := by
      rw [← h]
      exact List.isPrefixOf_iff_prefix.mpr (List.prefix_append pat rest)
    rw [cutAt?, if_pos hp, ← h, List.drop_left]

theorem cutAt?_isSome_of_infix {pat cs : List Char} (h : pat <:+: cs) :
    (cutAt? pat cs).isSome = true := by
  induction cs with
  | nil => rw [List.infix_nil.mp h]; rfl
  | cons c cs ih =>
    rw [cutAt?]
    split
    next => rfl
    next hn =>
      rcases List.infix_cons_iff.mp h with hpre | hi
      · exact absurd (List.isPrefixOf_iff_prefix.mpr hpre) hn
      · rw [Option.isSome_map]
        exact ih hi

/-- The first occurrence of `pat` in a text is the one right after `before`. -/
def Precedes (before pat : List Char) : Prop :=
  ¬pat <:+: before ++ pat.dropLast

theorem cutAt?_of_precedes {before pat : List Char} (h : Precedes before pat) (hp : pat ≠ [])
    (rest : List Char) : cutAt? pat (before ++ (pat ++ rest)) = some (before, rest) := by
  have hlen := List.length_pos_iff.mpr hp
  induction before with
  | nil => exact cutAt?_append_self pat rest
  | cons c cs ih =>
    have hn : ¬pat.isPrefixOf (c :: (cs ++ (pat ++ rest))) = true := by
      intro hpre
      have hsplit := List.dropLast_append_getLast hp
      have hlong : pat <+: (c :: cs ++ pat.dropLast) ++ ([pat.getLast hp] ++ rest) := by
        rw [List.append_assoc, ← List.append_assoc pat.dropLast, hsplit]
        exact List.isPrefixOf_iff_prefix.mp hpre
      have hshort : pat <+: c :: cs ++ pat.dropLast :=
        List.prefix_of_prefix_length_le hlong (List.prefix_append _ _)
          (by simp only [List.length_append, List.length_cons, List.length_dropLast]; omega)
      exact h hshort.isInfix
    have hcs : Precedes cs pat := fun hi => h (hi.trans (List.suffix_cons c _).isInfix)
    rw [List.cons_append, cutAt?, if_neg hn, ih hcs]
    rfl

theorem precedes_of_cutAt? {pat cs before after : List Char} (hp : pat ≠ [])
    (h : cutAt? pat cs = some (before, after)) : Precedes before pat := by
  have hlen := List.length_pos_iff.mpr hp
  induction cs generalizing before after with
  | nil => simp [cutAt?, hp] at h
  | cons c cs ih =>
    rw [cutAt?] at h
    split at h
    next =>
      obtain ⟨rfl, rfl⟩ := Prod.mk.inj (Option.some.inj h)
      intro hi
      have hle := hi.length_le
      rw [List.nil_append, List.length_dropLast] at hle
      omega
    next hn =>
      obtain ⟨⟨b, a⟩, hc, he⟩ := Option.map_eq_some_iff.mp h
      obtain ⟨rfl, rfl⟩ := Prod.mk.inj he
      intro hi
      rcases List.infix_cons_iff.mp hi with hpre | hi
      · refine hn (List.isPrefixOf_iff_prefix.mpr ?_)
        have hlast : b ++ pat.dropLast <+: b ++ pat :=
          (List.prefix_append_right_inj b).mpr (List.dropLast_prefix pat)
        rw [cutAt?_eq_append hc]
        exact hpre.trans ((List.prefix_cons_inj c).mpr (hlast.trans (List.prefix_append _ a)))
      · exact ih hc hi

end Text

namespace Lexeme

/-- Quotes that open a literal. -/
def IsQuote (c : Char) : Prop := c = '\x22' ∨ c = '\x27'

/-- A quoted literal after its first quote. A backslash takes the next character along, and no line ends
inside. -/
inductive Quoted (quote : Char) : List Char → Prop
  | close : Quoted quote [quote]
  | escape {c cs} : c ≠ '\n' → Quoted quote cs → Quoted quote ('\\' :: c :: cs)
  | plain {c cs} : c ≠ '\n' → c ≠ '\\' → c ≠ quote → Quoted quote cs → Quoted quote (c :: cs)

theorem quoted_of_closeQuote? {quote : Char} {cs inside rest : List Char}
    (h : closeQuote? quote cs = some (inside, rest)) : Quoted quote inside := by
  fun_induction closeQuote? quote cs generalizing inside rest with
  | case1 => simp at h
  | case2 =>
    obtain ⟨rfl, rfl⟩ := Prod.mk.inj (Option.some.inj h)
    exact .close
  | case3 => simp at h
  | case4 => simp at h
  | case5 => simp at h
  | case6 d cs hd _ ih =>
    obtain ⟨⟨i, r⟩, hi, he⟩ := Option.map_eq_some_iff.mp h
    obtain ⟨rfl, rfl⟩ := Prod.mk.inj he
    exact .escape hd (ih hi)
  | case7 =>
    obtain ⟨rfl, rfl⟩ := Prod.mk.inj (Option.some.inj h)
    exact .close
  | case8 c d cs hc hb hn ih =>
    obtain ⟨⟨i, r⟩, hi, he⟩ := Option.map_eq_some_iff.mp h
    obtain ⟨rfl, rfl⟩ := Prod.mk.inj he
    exact .plain hc hb hn (ih hi)

theorem Quoted.getLast {quote : Char} {inside : List Char} (h : Quoted quote inside) :
    inside.getLast? = some quote := by
  induction h with
  | close => rfl
  | escape _ _ ih => simp [List.getLast?_cons, ih]
  | plain _ _ _ _ ih => simp [List.getLast?_cons, ih]

/-- A quoted literal ends where it does whatever follows it. -/
theorem Quoted.closeQuote? {quote : Char} {inside : List Char} (h : Quoted quote inside)
    (hq : IsQuote quote) (rest : List Char) :
    closeQuote? quote (inside ++ rest) = some (inside, rest) := by
  have hline : quote ≠ '\n' := by rcases hq with rfl | rfl <;> decide
  have hback : quote ≠ '\\' := by rcases hq with rfl | rfl <;> decide
  induction h with
  | close => cases rest <;> simp [Lexeme.closeQuote?, hline, hback]
  | escape hc _ ih => simp [Lexeme.closeQuote?, hc, ih]
  | plain hc hb hn h ih => cases h <;> simp_all [Lexeme.closeQuote?]

/-- What reading one lexeme can give. -/
inductive Next : Char → List Char → Lexeme → List Char → Prop
  | literal {c cs inside rest} : IsQuote c → closeLiteral? c cs = some (inside, rest) →
      Next c cs (.literal (c :: inside)) rest
  | openLiteral {c cs} : IsQuote c → closeLiteral? c cs = none → Next c cs (.unclosed (c :: cs)) []
  | lineComment {cs} : cs.head? = some '/' →
      Next '/' cs (.lineComment ('/' :: cs.takeWhile (· ≠ '\n'))) (cs.dropWhile (· ≠ '\n'))
  | blockComment {cs inside rest} : cs.head? = some '*' →
      Text.cutAt? ['*', '/'] (cs.drop 1) = some (inside, rest) →
      Next '/' cs (.blockComment ('/' :: (cs.take 1 ++ inside ++ ['*', '/']))) rest
  | openComment {cs} : cs.head? = some '*' → Text.cutAt? ['*', '/'] (cs.drop 1) = none →
      Next '/' cs (.unclosed ('/' :: cs)) []
  | blank {c cs} : Text.isBlank c = true → Next c cs (.blank c) cs
  | mark {c cs} : ¬IsQuote c → (c = '/' → cs.head? ≠ some '/' ∧ cs.head? ≠ some '*') →
      Text.isBlank c = false → Next c cs (.mark c) cs

theorem next_spec (c : Char) (cs : List Char) : Next c cs (next c cs).1 (next c cs).2 := by
  unfold next
  split
  next hq =>
    split
    next h => exact .literal hq h
    next h => exact .openLiteral hq h
  next hq =>
    split
    next h =>
      obtain ⟨rfl, hh⟩ := h
      exact .lineComment hh
    next hl =>
      split
      next h =>
        obtain ⟨rfl, hh⟩ := h
        split
        next hc => exact .blockComment hh hc
        next hc => exact .openComment hh hc
      next hb =>
        split
        next h => exact .blank h
        next h =>
          exact .mark hq (fun hc => ⟨fun hh => hl ⟨hc, hh⟩, fun hh => hb ⟨hc, hh⟩⟩)
            (by simpa using h)

theorem not_isQuote_of_isBlank {c : Char} (h : Text.isBlank c = true) : ¬IsQuote c := by
  rintro (rfl | rfl) <;> exact absurd h (by decide)

theorem Next.eq {c : Char} {cs rest : List Char} {x : Lexeme} (h : Next c cs x rest) :
    next c cs = (x, rest) := by
  cases h with
  | literal hq h =>
    have hq' : c = '\x22' ∨ c = '\x27' := hq
    simp only [next, if_pos hq', h]
  | openLiteral hq h =>
    have hq' : c = '\x22' ∨ c = '\x27' := hq
    simp only [next, if_pos hq', h]
  | lineComment h => simp [next, h]
  | blockComment h hc =>
    rw [List.drop_one] at hc
    simp [next, h, hc]
  | openComment h hc =>
    rw [List.drop_one] at hc
    simp [next, h, hc]
  | blank h =>
    have hs : c ≠ '/' := by rintro rfl; exact absurd h (by decide)
    have hq : ¬(c = '\x22' ∨ c = '\x27') := not_isQuote_of_isBlank h
    simp only [next, if_neg hq, hs, false_and, if_false, h, if_true]
  | mark hq hs hb =>
    have hl : ¬(c = '/' ∧ cs.head? = some '/') := fun h => (hs h.1).1 h.2
    have hc : ¬(c = '/' ∧ cs.head? = some '*') := fun h => (hs h.1).2 h.2
    have hq' : ¬(c = '\x22' ∨ c = '\x27') := hq
    simp only [next, if_neg hq', if_neg hl, if_neg hc, hb, Bool.false_eq_true, if_false]

/-- Text that begins with the lexeme and goes on with `rest` is read so. -/
def Reads (x : Lexeme) (rest : List Char) : Prop :=
  ∃ c cs, Next c cs x rest

/-- Lexemes that stay in a statement with all their characters. -/
def IsKept : Lexeme → Prop
  | literal _ | mark _ => True
  | blank c => c = ' '
  | lineComment _ | blockComment _ | unclosed _ => False

/-- Lexemes that are program text; blanks and comments are not. -/
def isPiece : Lexeme → Bool
  | literal _ | mark _ | unclosed _ => true
  | blank _ | lineComment _ | blockComment _ => false

@[simp] theorem isPiece_mark (c : Char) : (mark c).isPiece = true := rfl

@[simp] theorem isPiece_blank (c : Char) : (blank c).isPiece = false := rfl

/-- A lexeme ends where it does also if `d` is the character after it. -/
def EndsBefore : Lexeme → Option Char → Prop
  | literal t, d => t = ['\x22', '\x22'] → d ≠ some '\x22'
  | mark c, d => c = '/' → d ≠ some '/' ∧ d ≠ some '*'
  | _, _ => True

theorem Reads.lexemes {x : Lexeme} {rest : List Char} (h : x.Reads rest) :
    lexemes (x.text ++ rest) = x :: lexemes rest := by
  obtain ⟨c, cs, hn⟩ := h
  have ht := text_next_append c cs
  rw [hn.eq] at ht
  rw [ht, PatchSearch.lexemes, hn.eq]

theorem Reads.text_ne_nil {x : Lexeme} {rest : List Char} (h : x.Reads rest) : x.text ≠ [] := by
  obtain ⟨c, cs, hn⟩ := h
  have ht := text_next_ne_nil c cs
  rwa [hn.eq] at ht

/-- A literal without its first quote ends in a quote, and is a single quote or no text block. -/
theorem closeLiteral?_cases {quote : Char} {cs inside rest : List Char}
    (h : closeLiteral? quote cs = some (inside, rest)) :
    (quote = '\x22' ∧ ∃ i, inside = '\x22' :: '\x22' :: (i ++ textBlockQuotes) ∧
      ∃ body, Text.cutAt? textBlockQuotes body = some (i, rest)) ∨
    (¬textBlockQuotes.isPrefixOf (quote :: (inside ++ rest)) = true ∧
      closeQuote? quote cs = some (inside, rest)) := by
  have happ := closeLiteral?_eq_append h
  unfold closeLiteral? at h
  split at h
  next hp =>
    obtain ⟨⟨i, r⟩, hi, he⟩ := Option.map_eq_some_iff.mp h
    obtain ⟨rfl, rfl⟩ := Prod.mk.inj he
    obtain ⟨tail, ht⟩ := List.isPrefixOf_iff_prefix.mp hp
    obtain ⟨rfl, rfl⟩ := List.cons.inj ht
    exact Or.inl ⟨rfl, i, rfl, _, hi⟩
  next hp => exact Or.inr ⟨by rwa [happ], h⟩

theorem Reads.endsBefore {x : Lexeme} {rest : List Char} (h : x.Reads rest) :
    x.EndsBefore rest.head? := by
  obtain ⟨c, cs, hn⟩ := h
  cases hn with
  | literal hq h =>
    intro ht hd
    obtain ⟨rfl, rfl⟩ := List.cons.inj ht
    rcases closeLiteral?_cases h with ⟨_, i, hi, _⟩ | ⟨hp, _⟩
    · simp at hi
    · obtain ⟨tail, rfl⟩ : ∃ tail, rest = '\x22' :: tail := by
        cases rest with
        | nil => simp at hd
        | cons d tail => exact ⟨tail, by simpa using hd⟩
      exact hp rfl
  | mark _ hs _ => exact hs
  | _ => trivial

theorem closeLiteral?_append {quote : Char} (hq : IsQuote quote) {cs inside rest rest' : List Char}
    (h : closeLiteral? quote cs = some (inside, rest))
    (he : (literal (quote :: inside)).EndsBefore rest'.head?) :
    closeLiteral? quote (inside ++ rest') = some (inside, rest') := by
  rcases closeLiteral?_cases h with ⟨rfl, i, rfl, body, hb⟩ | ⟨hp, hc⟩
  · have hi : Text.Precedes i textBlockQuotes := Text.precedes_of_cutAt? (List.cons_ne_nil _ _) hb
    have hcut := Text.cutAt?_of_precedes hi (List.cons_ne_nil _ _) rest'
    have hpre : textBlockQuotes.isPrefixOf ('\x22' :: ('\x22' :: '\x22' :: (i ++ textBlockQuotes) ++ rest')) =
        true := rfl
    rw [closeLiteral?, if_pos hpre]
    simp [hcut]
  · have hquoted := quoted_of_closeQuote? hc
    have hlast := hquoted.getLast
    have hn : ¬textBlockQuotes.isPrefixOf (quote :: (inside ++ rest')) = true := by
      intro hpre
      cases inside with
      | nil => simp at hlast
      | cons d ds =>
        cases ds with
        | nil =>
          cases rest' with
          | nil => simp [textBlockQuotes] at hpre
          | cons e es =>
            obtain ⟨rfl, rfl, rfl⟩ : '\x22' = quote ∧ '\x22' = d ∧ '\x22' = e := by
              simpa [textBlockQuotes] using hpre
            exact he rfl rfl
        | cons e es => exact hp (by simpa [textBlockQuotes] using hpre)
    rw [closeLiteral?, if_neg hn]
    exact hquoted.closeQuote? hq rest'

/-- Whether a kept lexeme is read depends on the text after it only through its first character. -/
theorem Reads.congr {x : Lexeme} {rest rest' : List Char} (h : x.Reads rest) (hk : x.IsKept)
    (he : x.EndsBefore rest'.head?) : x.Reads rest' := by
  obtain ⟨c, cs, hn⟩ := h
  cases hn with
  | @literal _ _ inside _ hq hc =>
    exact ⟨c, inside ++ rest', .literal hq (closeLiteral?_append hq hc he)⟩
  | blank hb => exact ⟨c, rest', .blank hb⟩
  | mark hq _ hb => exact ⟨c, rest', .mark hq he hb⟩
  | lineComment => exact hk.elim
  | blockComment => exact hk.elim
  | openLiteral => exact hk.elim
  | openComment => exact hk.elim

/-- A blank, or the end of the text, ends whatever it follows. -/
theorem endsBefore_of_blank {d : Option Char} (h : ∀ c ∈ d, Text.isBlank c = true) (x : Lexeme) :
    x.EndsBefore d := by
  have hn : ∀ c, Text.isBlank c = false → d ≠ some c := by
    intro c hc hd
    rw [h c hd] at hc
    exact absurd hc (by decide)
  cases x with
  | literal t => exact fun _ => hn _ rfl
  | mark c => exact fun _ => ⟨hn _ rfl, hn _ rfl⟩
  | _ => trivial

end Lexeme

/-- The program text in a text: each literal and each other mark, without blanks and comments. -/
def pieces (cs : List Char) : List Lexeme :=
  (lexemes cs).filter Lexeme.isPiece

/-- Each lexeme is read before the next one, and the last one before `rest`. -/
def Joined : List Lexeme → List Char → Prop
  | [], _ => True
  | x :: xs, rest => x.Reads (xs.flatMap Lexeme.text ++ rest) ∧ Joined xs rest

theorem joined_append {xs ys : List Lexeme} {rest : List Char} :
    Joined (xs ++ ys) rest ↔ Joined xs (ys.flatMap Lexeme.text ++ rest) ∧ Joined ys rest := by
  induction xs with
  | nil => simp [Joined]
  | cons x xs ih =>
    simp only [List.cons_append, Joined, List.flatMap_append, List.append_assoc, ih, and_assoc]

theorem joined_singleton {x : Lexeme} {rest : List Char} : Joined [x] rest ↔ x.Reads rest := by
  simp [Joined]

/-- Joined lexemes are read again from the text that they make up. -/
theorem Joined.lexemes {xs : List Lexeme} {rest : List Char} (h : Joined xs rest) :
    lexemes (xs.flatMap Lexeme.text ++ rest) = xs ++ lexemes rest := by
  induction xs with
  | nil => rfl
  | cons x xs ih => rw [List.flatMap_cons, List.append_assoc, h.1.lexemes, ih h.2, List.cons_append]

/-- Kept lexemes stay joined in front of any text before which the last of them ends. -/
theorem Joined.congr {xs : List Lexeme} {rest rest' : List Char} (h : Joined xs rest)
    (hk : ∀ x ∈ xs, x.IsKept) (he : ∀ x ∈ xs.getLast?, x.EndsBefore rest'.head?) :
    Joined xs rest' := by
  induction xs with
  | nil => trivial
  | cons x xs ih =>
    have hx := hk x (List.mem_cons_self ..)
    cases xs with
    | nil => exact ⟨h.1.congr hx (by simpa using he), trivial⟩
    | cons y ys =>
      have hlast : ∀ z ∈ (y :: ys).getLast?, z.EndsBefore rest'.head? := by
        simpa [List.getLast?_cons_cons] using he
      refine ⟨h.1.congr hx ?_, ih h.2 (fun z hz => hk z (List.mem_cons_of_mem x hz)) hlast⟩
      have hends := h.1.endsBefore
      have hne := h.2.1.text_ne_nil
      cases ht : y.text with
      | nil => exact absurd ht hne
      | cons c cs => simpa [ht] using hends

end PatchSearch
