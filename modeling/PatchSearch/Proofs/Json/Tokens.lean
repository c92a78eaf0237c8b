import Mathlib.Data.List.Basic
import PatchSearch.Json.Reader
import PatchSearch.Json.Writer

namespace PatchSearch.Json

/-- The unit that a character is read back as: sixteen bits for a control character without a letter. -/
def unitOf (c : Char) : TextUnit :=
  if c.toNat < 0x20 ∧ c ∉ ['\x08', '\x09', '\x0a', '\x0c', '\x0d'] then .unit c.toNat else .char c

theorem fourHex_of_lt : ∀ n < 0x20,
    fourHex n = ['0', '0', Nat.digitChar (n / 16), Nat.digitChar (n % 16)] ∧
      fourHex? '0' '0' (Nat.digitChar (n / 16)) (Nat.digitChar (n % 16)) = some n := by
  decide

theorem units?_letter {l c : Char} (h : escaped? l = some c) (cs : List Char) :
    units? ('\\' :: l :: cs) = (units? cs).map fun (us, rest) => (.char c :: us, rest) := by
  have hu : l ≠ 'u' := by
    rintro rfl
    have hnone : escaped? 'u' = none := by decide
    rw [hnone] at h
    cases h
  rw [units?, h]
  · cases units? cs <;> rfl
  · rintro _ _ _ _ _ rfl
    exact absurd rfl hu

theorem units?_hex {n : Nat} (h : n < 0x20) (cs : List Char) :
    units? ('\\' :: 'u' :: (fourHex n ++ cs)) =
      (units? cs).map fun (us, rest) => (.unit n :: us, rest) := by
  obtain ⟨hdigits, hvalue⟩ := fourHex_of_lt n h
  simp only [hdigits, List.cons_append, List.nil_append, units?, hvalue]
  cases units? cs <;> rfl

theorem units?_plain {c : Char} (hq : c ≠ '\x22') (hb : c ≠ '\\') (h : ¬c.toNat < 0x20)
    (cs : List Char) :
    units? (c :: cs) = (units? cs).map fun (us, rest) => (.char c :: us, rest) := by
  rw [units?, if_neg hq, if_neg (by simp [hb, h])]
  · cases units? cs <;> rfl
  · rintro _ _ _ _ _ rfl
    exact absurd rfl hb
  · rintro _ _ rfl
    exact absurd rfl hb

theorem units?_escape (c : Char) (cs : List Char) :
    units? (escape c ++ cs) = (units? cs).map fun (us, rest) => (unitOf c :: us, rest) := by
  unfold escape
  split
  next h =>
    have hu : unitOf c = .char c := by rcases h with rfl | rfl <;> rfl
    rw [hu]
    exact units?_letter (by rcases h with rfl | rfl <;> rfl) cs
  split
  next h => subst h; exact units?_letter rfl cs
  split
  next h => subst h; exact units?_letter rfl cs
  split
  next h => subst h; exact units?_letter rfl cs
  split
  next h => subst h; exact units?_letter rfl cs
  split
  next h => subst h; exact units?_letter rfl cs
  split
  next h8 h9 ha hc hd h =>
    have hu : unitOf c = .unit c.toNat := by simp [unitOf, h8, h9, ha, hc, hd, h]
    rw [hu, List.append_assoc]
    exact units?_hex h cs
  next hq _ _ _ _ _ h =>
    have hu : unitOf c = .char c := by simp [unitOf, h]
    simp only [not_or] at hq
    rw [hu]
    exact units?_plain hq.1 hq.2 h cs

theorem units?_flatMap_escape (cs rest : List Char) :
    units? (cs.flatMap escape ++ '\x22' :: rest) = some (cs.map unitOf, rest) := by
  induction cs with
  | nil => rw [List.flatMap_nil, List.nil_append, units?] <;> simp
  | cons c cs ih =>
    rw [List.flatMap_cons, List.append_assoc, units?_escape, ih]
    rfl

theorem decodeUnits?_map_unitOf (cs : List Char) : decodeUnits? (cs.map unitOf) = some cs := by
  induction cs with
  | nil => rfl
  | cons c cs ih =>
    rw [List.map_cons, unitOf]
    split
    next h =>
      have hlt : c.toNat < 0xd800 := by omega
      unfold decodeUnits?
      simp only [if_pos (Or.inl hlt), ih, Char.ofNat_toNat, Option.map_some]
    next => rw [decodeUnits?, ih]; rfl

/-- The text does not go on like a number. -/
def EndsNumber (cs : List Char) : Prop :=
  ∀ c ∈ cs.head?, digit? c = none ∧ c ≠ '.' ∧ c ≠ 'e' ∧ c ≠ 'E'

theorem endsNumber_cons {c : Char} (h : c ∈ [',', ']', '}']) (cs : List Char) :
    EndsNumber (c :: cs) := by
  intro d hd
  obtain rfl := Option.some.inj hd
  simp only [List.mem_cons, List.not_mem_nil, or_false] at h
  rcases h with rfl | rfl | rfl <;> decide

/-- The value of a digit. -/
def valueOfDigit (c : Char) : Nat := c.toNat - '0'.toNat

theorem digit?_of_isDigit {c : Char} (h : c.isDigit = true) : digit? c = some (valueOfDigit c) := by
  have hle : '0' ≤ c ∧ c ≤ '9' := by
    rw [Char.isDigit, Bool.and_eq_true, decide_eq_true_eq, decide_eq_true_eq] at h
    exact h
  rw [digit?, if_pos hle]
  rfl

theorem digits_append {ds rest : List Char} (h : ∀ c ∈ ds, c.isDigit = true) (hrest : EndsNumber rest) :
    digits (ds ++ rest) = (ds.map valueOfDigit, rest) := by
  induction ds with
  | nil =>
    cases rest with
    | nil => rfl
    | cons c rest => simp [digits, (hrest c rfl).1]
  | cons c ds ih =>
    rw [List.forall_mem_cons] at h
    simp [digits, digit?_of_isDigit h.1, ih h.2]

theorem absorb_append {n m d : Nat} {ds : List Nat} (h : absorb n ds = (m, 0))
    (hle : m * 10 + d ≤ maxWord) : absorb n (ds ++ [d]) = (m * 10 + d, 0) := by
  induction ds generalizing n with
  | nil =>
    obtain rfl : n = m := (Prod.mk.inj h).1
    rw [List.nil_append, absorb, if_pos hle]
    rfl
  | cons a ds ih =>
    rw [absorb] at h
    split at h
    next ha => rw [List.cons_append, absorb, if_pos ha, ih h]
    next => cases (Prod.mk.inj h).2

theorem absorb_toDigits {n : Nat} (h : n ≤ maxWord) :
    absorb 0 ((Nat.toDigits 10 n).map valueOfDigit) = (n, 0) := by
  induction n using Nat.strongRecOn with
  | ind n ih =>
    have hdigit : ∀ d < 10, valueOfDigit d.digitChar = d := by decide
    by_cases hn : n < 10
    · rw [Nat.toDigits_of_lt_base hn, List.map_singleton, hdigit n hn, absorb, if_pos (by omega),
        absorb]
      simp
    · have hd : n / 10 * 10 + n % 10 = n := by omega
      rw [Nat.toDigits_of_base_le (by omega) (by omega), List.map_append, List.map_singleton,
        hdigit _ (Nat.mod_lt _ (by omega)),
        absorb_append (ih (n / 10) (by omega) (by omega)) (by omega), hd]

/-- A positive number begins with a digit other than zero. -/
theorem exists_toDigits {n : Nat} (h : 0 < n) : ∃ c cs, Nat.toDigits 10 n = c :: cs ∧ c ≠ '0' := by
  induction n using Nat.strongRecOn with
  | ind n ih =>
    by_cases hn : n < 10
    · exact ⟨n.digitChar, [], Nat.toDigits_of_lt_base hn, by rw [Ne, Nat.digitChar_eq_zero]; omega⟩
    · obtain ⟨c, cs, hcs, hc⟩ := ih (n / 10) (by omega) (by omega)
      exact ⟨c, _, by rw [Nat.toDigits_of_base_le (by omega) (by omega), hcs, List.cons_append], hc⟩

theorem fraction?_of_ends {rest : List Char} (h : EndsNumber rest) :
    fraction? rest = some ([], rest) := by
  unfold fraction?
  split
  next r => exact absurd rfl (h '.' rfl).2.1
  next => rfl

theorem exponent?_of_ends {rest : List Char} (h : EndsNumber rest) :
    exponent? rest = some (none, rest) := by
  unfold exponent?
  split
  next => rfl
  next c r =>
    obtain ⟨_, _, he, hE⟩ := h c rfl
    rw [if_neg (by simp [he, hE])]

/-- What is written for a whole number is read as its digits. -/
theorem numeral?_toDigits (n : Nat) {rest : List Char} (h : EndsNumber rest) :
    numeral? false (Nat.toDigits 10 n ++ rest) =
      some (⟨false, (Nat.toDigits 10 n).map valueOfDigit, [], none⟩, rest) := by
  have hdigits : ∀ c ∈ Nat.toDigits 10 n, c.isDigit = true :=
    fun c hc => Nat.isDigit_of_mem_toDigits (by omega) (by omega) hc
  have hread := digits_append hdigits h
  unfold numeral?
  rcases Nat.eq_zero_or_pos n with rfl | hn
  · simp [Nat.toDigits_zero, fraction?_of_ends h, exponent?_of_ends h, valueOfDigit]
  · obtain ⟨c, cs, hcs, hc⟩ := exists_toDigits hn
    rw [hcs] at hread ⊢
    rw [List.cons_append] at hread ⊢
    split
    next he => exact absurd (List.cons.inj he).1 hc
    next => simp [hread, fraction?_of_ends h, exponent?_of_ends h]

theorem value_toDigits {n : Nat} (h : n ≤ maxWord) :
    (⟨false, (Nat.toDigits 10 n).map valueOfDigit, [], none⟩ : Numeral).value = .integer n := by
  simp [Numeral.value, absorb_toDigits h]

mutual

/-- The value is made of texts, whole numbers without a sign of at most 64 bits, and nothing. -/
def Plain : Json → Prop
  | .null => True
  | .integer n => 0 ≤ n ∧ n ≤ maxWord
  | .string _ => True
  | .array items => PlainItems items
  | .object fields => PlainFields fields
  | _ => False

def PlainItems : List Json → Prop
  | [] => True
  | j :: js => j.Plain ∧ PlainItems js

def PlainFields : List (String × Json) → Prop
  | [] => True
  | (_, j) :: fields => j.Plain ∧ PlainFields fields

end

mutual

/-- The tokens of a value on one line. -/
def tokens : Json → List Token
  | .string s => [.text s]
  | .array items => .beginArray :: (tokensOfItems items ++ [.endArray])
  | .object fields => .beginObject :: (tokensOfFields fields ++ [.endObject])
  | j => [.scalar j]

def tokensOfItems : List Json → List Token
  | [] => []
  | j :: js => j.tokens ++ tokensOfLaterItems js

def tokensOfLaterItems : List Json → List Token
  | [] => []
  | j :: js => .comma :: (j.tokens ++ tokensOfLaterItems js)

def tokensOfFields : List (String × Json) → List Token
  | [] => []
  | (name, j) :: fields => .text name :: .colon :: (j.tokens ++ tokensOfLaterFields fields)

def tokensOfLaterFields : List (String × Json) → List Token
  | [] => []
  | (name, j) :: fields =>
    .comma :: .text name :: .colon :: (j.tokens ++ tokensOfLaterFields fields)

end

/-- The text is cut into these tokens. -/
def Lexes (cs : List Char) (ts : List Token) : Prop :=
  ∀ length, cs.length ≤ length → tokensWithin? length cs = some ts

theorem lexes_nil : Lexes [] [] := by
  intro length _
  cases length <;> rfl

theorem Lexes.cons {c : Char} {cs rest : List Char} {t : Token} {ts : List Token}
    (hc : isSpace c = false) (ht : token? c cs = some (t, rest)) (hlen : rest.length ≤ cs.length)
    (h : Lexes rest ts) : Lexes (c :: cs) (t :: ts) := by
  intro length hle
  cases length with
  | zero => simp at hle
  | succ length =>
    rw [List.length_cons] at hle
    rw [tokensWithin?, hc, if_neg Bool.false_ne_true, ht]
    have hrest := h length (by omega)
    simp [hrest]

theorem Lexes.tokens? {cs : List Char} {ts : List Token} (h : Lexes cs ts) :
    tokens? cs = some ts :=
  h cs.length (Nat.le_refl _)

theorem lexes_mark {c : Char} {t : Token} {cs : List Char} {ts : List Token}
    (hc : isSpace c = false) (ht : token? c cs = some (t, cs)) (h : Lexes cs ts) :
    Lexes (c :: cs) (t :: ts) :=
  h.cons hc ht (Nat.le_refl _)

theorem lexes_quote (s : String) {cs : List Char} {ts : List Token} (h : Lexes cs ts) :
    Lexes (quote s ++ cs) (.text s :: ts) := by
  rw [quote, List.cons_append, List.append_assoc, List.singleton_append]
  refine h.cons (by decide) ?_ (by simp; omega)
  have hunits := units?_flatMap_escape s.toList cs
  simp [token?, hunits, decodeUnits?_map_unitOf]

theorem token?_of_isDigit {c : Char} (h : c.isDigit = true) (cs : List Char) :
    isSpace c = false ∧ token? c cs =
      (numeral? false (c :: cs)).map fun (n, rest) => (.scalar n.value, rest) := by
  have hne : ∀ d : Char, d.isDigit = false → c ≠ d := by
    rintro d hd rfl
    rw [h] at hd
    cases hd
  constructor
  · simp [isSpace, hne ' ' rfl, hne '\n' rfl, hne '\t' rfl, hne '\r' rfl]
  · simp only [token?, hne '[' rfl, hne ']' rfl, hne '\x7b' rfl, hne '\x7d' rfl, hne ',' rfl,
      hne ':' rfl, hne '\x22' rfl, hne 't' rfl, hne 'f' rfl, hne 'n' rfl, hne '-' rfl, if_false]

theorem lexes_natural {n : Nat} (hn : n ≤ maxWord) {cs : List Char} {ts : List Token}
    (hcs : EndsNumber cs) (h : Lexes cs ts) :
    Lexes (writeInteger n ++ cs) (.scalar (.integer n) :: ts) := by
  have hread := numeral?_toDigits n hcs
  have hdigits : ∀ c ∈ Nat.toDigits 10 n, c.isDigit = true :=
    fun c hc => Nat.isDigit_of_mem_toDigits (by omega) (by omega) hc
  have hwrite : writeInteger n = Nat.toDigits 10 n := by
    rw [writeInteger, if_neg (by omega), Int.natAbs_natCast]
  obtain ⟨c, ds, hds⟩ := List.exists_cons_of_ne_nil (Nat.toDigits_ne_nil (n := n) (b := 10))
  rw [hwrite]
  rw [hds] at hdigits
  have hc := token?_of_isDigit (hdigits c List.mem_cons_self) (ds ++ cs)
  rw [← List.cons_append, ← hds, hread] at hc
  rw [hds, List.cons_append]
  refine h.cons hc.1 (hc.2.trans ?_) (by simp)
  simp only [Option.map_some, value_toDigits hn]

theorem lexes_null {cs : List Char} {ts : List Token} (h : Lexes cs ts) :
    Lexes (['n', 'u', 'l', 'l'] ++ cs) (.scalar .null :: ts) := by
  have hword : token? 'n' (['u', 'l', 'l'] ++ cs) = some (.scalar .null, cs) := rfl
  exact h.cons (by decide) hword (by simp; omega)

mutual

theorem lexes_compact : (j : Json) → j.Plain → ∀ {cs ts}, EndsNumber cs → Lexes cs ts →
    Lexes (compact j ++ cs) (j.tokens ++ ts)
  | .null, _, cs, ts, _, h => by
    rw [compact]
    · exact lexes_null h
    · simp
    · simp
  | .integer n, hj, cs, ts, hcs, h => by
    obtain ⟨n, rfl⟩ := Int.eq_ofNat_of_zero_le hj.1
    have hn := hj.2
    rw [compact]
    · exact lexes_natural (by omega) hcs h
    · simp
    · simp
  | .string s, _, cs, ts, _, h => by
    rw [compact]
    · exact lexes_quote s h
    · simp
    · simp
  | .array items, hj, cs, ts, _, h => by
    have hend : Lexes (']' :: cs) (.endArray :: ts) := lexes_mark (by decide) rfl h
    have hitems := lexes_compactItems items hj hend
    simp only [compact, tokens, List.cons_append, List.append_assoc, List.nil_append]
    exact lexes_mark (by decide) rfl hitems
  | .object fields, hj, cs, ts, _, h => by
    have hend : Lexes ('}' :: cs) (.endObject :: ts) := lexes_mark (by decide) rfl h
    have hfields := lexes_compactFields fields hj hend
    simp only [compact, tokens, List.cons_append, List.append_assoc, List.nil_append]
    exact lexes_mark (by decide) rfl hfields
  | .bool _, hj, _, _, _, _ | .real _, hj, _, _, _, _ | .single _, hj, _, _, _, _
  | .unreadable, hj, _, _, _, _ => hj.elim

theorem lexes_compactItems : (js : List Json) → PlainItems js → ∀ {cs ts},
    Lexes (']' :: cs) (.endArray :: ts) →
    Lexes (compactItems js ++ ']' :: cs) (tokensOfItems js ++ .endArray :: ts)
  | [], _, cs, ts, h => h
  | [j], hj, cs, ts, h => by
    simp only [compactItems, tokensOfItems, tokensOfLaterItems, List.append_nil]
    exact lexes_compact j hj.1 (endsNumber_cons (by simp) cs) h
  | j :: k :: js, hj, cs, ts, h => by
    have hrest := lexes_compactItems (k :: js) hj.2 h
    have hcomma := lexes_mark (c := ',') (t := .comma) (by decide) rfl hrest
    simp only [compactItems, tokensOfItems, tokensOfLaterItems, List.append_assoc,
      List.cons_append] at hcomma ⊢
    exact lexes_compact j hj.1 (endsNumber_cons (by simp) _) hcomma

theorem lexes_compactFields : (fs : List (String × Json)) → PlainFields fs → ∀ {cs ts},
    Lexes ('\x7d' :: cs) (.endObject :: ts) →
    Lexes (compactFields fs ++ '\x7d' :: cs) (tokensOfFields fs ++ .endObject :: ts)
  | [], _, cs, ts, h => h
  | [(name, j)], hj, cs, ts, h => by
    have hvalue := lexes_compact j hj.1 (endsNumber_cons (by simp) cs) h
    simp only [compactFields, tokensOfFields, tokensOfLaterFields, List.append_nil,
      List.append_assoc, List.cons_append]
    exact lexes_quote name (lexes_mark (by decide) rfl hvalue)
  | (name, j) :: f :: fs, hj, cs, ts, h => by
    have hrest := lexes_compactFields (f :: fs) hj.2 h
    have hcomma := lexes_mark (c := ',') (t := .comma) (by decide) rfl hrest
    have hvalue := lexes_compact j hj.1 (endsNumber_cons (by simp) _) hcomma
    simp only [compactFields, tokensOfFields, tokensOfLaterFields, List.append_assoc,
      List.cons_append] at hvalue ⊢
    exact lexes_quote name (lexes_mark (by decide) rfl hvalue)

end

theorem tokens_ne_endArray (j : Json) (ts us : List Token) : .endArray :: ts ≠ j.tokens ++ us := by
  cases j <;> simp [tokens]

mutual

/-- No value's tokens are the beginning of another's. -/
theorem tokens_append_inj : (j k : Json) → ∀ {ts us}, j.tokens ++ ts = k.tokens ++ us →
    j = k ∧ ts = us
  | .array js, k, ts, us, h => by
    cases k with
    | array ks =>
      simp only [tokens, List.cons_append, List.append_assoc, List.nil_append,
        List.cons.injEq, true_and] at h
      obtain ⟨rfl, hrest⟩ := tokensOfItems_append_inj js ks h
      exact ⟨rfl, hrest⟩
    | _ => simp [tokens] at h
  | .object fs, k, ts, us, h => by
    cases k with
    | object gs =>
      simp only [tokens, List.cons_append, List.append_assoc, List.nil_append,
        List.cons.injEq, true_and] at h
      obtain ⟨rfl, hrest⟩ := tokensOfFields_append_inj fs gs h
      exact ⟨rfl, hrest⟩
    | _ => simp [tokens] at h
  | .null, k, _, _, h | .bool _, k, _, _, h | .integer _, k, _, _, h | .real _, k, _, _, h
  | .single _, k, _, _, h | .string _, k, _, _, h | .unreadable, k, _, _, h => by
    cases k <;> simp_all [tokens]

theorem tokensOfItems_append_inj : (js ks : List Json) → ∀ {ts us},
    tokensOfItems js ++ .endArray :: ts = tokensOfItems ks ++ .endArray :: us → js = ks ∧ ts = us
  | [], [], _, _, h => ⟨rfl, (List.cons.inj h).2⟩
  | [], k :: ks, _, _, h => by
    rw [tokensOfItems, tokensOfItems, List.append_assoc] at h
    exact absurd h (tokens_ne_endArray k _ _)
  | j :: js, [], _, _, h => by
    rw [tokensOfItems, tokensOfItems, List.append_assoc] at h
    exact absurd h.symm (tokens_ne_endArray j _ _)
  | j :: js, k :: ks, _, _, h => by
    rw [tokensOfItems, tokensOfItems, List.append_assoc, List.append_assoc] at h
    obtain ⟨rfl, hlater⟩ := tokens_append_inj j k h
    obtain ⟨rfl, hrest⟩ := tokensOfLaterItems_append_inj js ks hlater
    exact ⟨rfl, hrest⟩

theorem tokensOfLaterItems_append_inj : (js ks : List Json) → ∀ {ts us},
    tokensOfLaterItems js ++ .endArray :: ts = tokensOfLaterItems ks ++ .endArray :: us →
    js = ks ∧ ts = us
  | [], [], _, _, h => ⟨rfl, (List.cons.inj h).2⟩
  | [], k :: ks, _, _, h => by cases (List.cons.inj h).1
  | j :: js, [], _, _, h => by cases (List.cons.inj h).1
  | j :: js, k :: ks, _, _, h => by
    simp only [tokensOfLaterItems, List.cons_append, List.append_assoc, List.cons.injEq,
      true_and] at h
    obtain ⟨rfl, hlater⟩ := tokens_append_inj j k h
    obtain ⟨rfl, hrest⟩ := tokensOfLaterItems_append_inj js ks hlater
    exact ⟨rfl, hrest⟩

theorem tokensOfFields_append_inj : (fs gs : List (String × Json)) → ∀ {ts us},
    tokensOfFields fs ++ .endObject :: ts = tokensOfFields gs ++ .endObject :: us →
    fs = gs ∧ ts = us
  | [], [], _, _, h => ⟨rfl, (List.cons.inj h).2⟩
  | [], (_, _) :: _, _, _, h => by cases (List.cons.inj h).1
  | (_, _) :: _, [], _, _, h => by cases (List.cons.inj h).1
  | (name, j) :: fs, (other, k) :: gs, _, _, h => by
    simp only [tokensOfFields, List.cons_append, List.append_assoc, List.cons.injEq,
      Token.text.injEq, true_and] at h
    obtain ⟨rfl, h⟩ := h
    obtain ⟨rfl, hlater⟩ := tokens_append_inj j k h
    obtain ⟨rfl, hrest⟩ := tokensOfLaterFields_append_inj fs gs hlater
    exact ⟨rfl, hrest⟩

theorem tokensOfLaterFields_append_inj : (fs gs : List (String × Json)) → ∀ {ts us},
    tokensOfLaterFields fs ++ .endObject :: ts = tokensOfLaterFields gs ++ .endObject :: us →
    fs = gs ∧ ts = us
  | [], [], _, _, h => ⟨rfl, (List.cons.inj h).2⟩
  | [], (_, _) :: _, _, _, h => by cases (List.cons.inj h).1
  | (_, _) :: _, [], _, _, h => by cases (List.cons.inj h).1
  | (name, j) :: fs, (other, k) :: gs, _, _, h => by
    simp only [tokensOfLaterFields, List.cons_append, List.append_assoc, List.cons.injEq,
      Token.text.injEq, true_and] at h
    obtain ⟨rfl, h⟩ := h
    obtain ⟨rfl, hlater⟩ := tokens_append_inj j k h
    obtain ⟨rfl, hrest⟩ := tokensOfLaterFields_append_inj fs gs hlater
    exact ⟨rfl, hrest⟩

end

theorem tokens?_write {j : Json} (h : j.Plain) : tokens? j.write.toList = some j.tokens := by
  have hends : EndsNumber [] := fun c hc => by cases hc
  have hlex := lexes_compact j h hends lexes_nil
  rw [List.append_nil, List.append_nil] at hlex
  rw [write, String.toList_ofList]
  exact hlex.tokens?

/-- Different plain values have different texts. -/
theorem write_inj {j k : Json} (hj : j.Plain) (hk : k.Plain) (h : j.write = k.write) : j = k := by
  have ht : some j.tokens = some k.tokens := by rw [← tokens?_write hj, ← tokens?_write hk, h]
  have happend : j.tokens ++ [] = k.tokens ++ [] := by rw [Option.some.inj ht]
  exact (tokens_append_inj j k happend).1

end PatchSearch.Json
