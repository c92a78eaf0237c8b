import Mathlib.Data.List.Chain
import PatchSearch.Proofs.Statement.MethodName
import PatchSearch.Proofs.Statement.Seams

namespace PatchSearch

open Lexeme (IsQuote)

namespace Text

section

variable {cut : Char → Bool}

theorem splitWhen_takeWhile (cs : List Char) : ∃ runs,
    splitWhen cut cs = cs.takeWhile (!cut ·) :: runs ∧
      ∀ run ∈ runs, ∃ c rest, cs.dropWhile (!cut ·) = c :: rest ∧ cut c = true ∧
        run ∈ splitWhen cut rest := by
  induction cs with
  | nil => exact ⟨[], rfl, List.forall_mem_nil _⟩
  | cons c cs ih =>
    cases hc : cut c with
    | true =>
      refine ⟨splitWhen cut cs, by simp [splitWhen, hc], fun run hrun => ?_⟩
      exact ⟨c, cs, by simp [hc], hc, hrun⟩
    | false =>
      obtain ⟨runs, hruns, hlater⟩ := ih
      refine ⟨runs, by simp [splitWhen_cons_of_not_cut hc, hruns, hc], fun run hrun => ?_⟩
      simpa [List.dropWhile_cons, hc] using hlater run hrun

/-- A word stands in a text between characters that end words, or at an end of the text. -/
def HasWord (cut : Char → Bool) (word cs : List Char) : Prop :=
  ∃ front back, cs = front ++ (word ++ back) ∧ (∀ c ∈ front.getLast?, cut c = true) ∧
    ∀ c ∈ back.head?, cut c = true

/-- A word of a text that is made character by character is made of a run between borders. -/
theorem hasWord_map_iff {α : Type} {f : α → Char} {word : List Char} {xs : List α} :
    HasWord cut word (xs.map f) ↔ ∃ front middle back, xs = front ++ (middle ++ back) ∧
      middle.map f = word ∧ (∀ x ∈ front.getLast?, cut (f x) = true) ∧
      ∀ x ∈ back.head?, cut (f x) = true := by
  constructor
  · rintro ⟨front, back, hsplit, hfront, hback⟩
    obtain ⟨xf, rest, rfl, rfl, hrest⟩ := List.map_eq_append_iff.mp hsplit
    obtain ⟨xw, xb, rfl, hw, rfl⟩ := List.map_eq_append_iff.mp hrest
    exact ⟨xf, xw, xb, rfl, hw, by simpa using hfront, by simpa using hback⟩
  · rintro ⟨front, middle, back, rfl, rfl, hfront, hback⟩
    exact ⟨front.map f, back.map f, by simp, by simpa using hfront, by simpa using hback⟩

theorem hasWord_of_mem_splitWhen {word cs : List Char} (h : word ∈ splitWhen cut cs) :
    HasWord cut word cs := by
  obtain ⟨runs, hruns, hlater⟩ := @splitWhen_takeWhile cut cs
  rw [hruns] at h
  have hsplit := List.takeWhile_append_dropWhile (p := (!cut ·)) (l := cs)
  rcases List.mem_cons.mp h with rfl | h
  · refine ⟨[], cs.dropWhile (!cut ·), hsplit.symm, by simp, fun c hc => ?_⟩
    have hstop := List.head?_dropWhile_not (!cut ·) cs
    rw [Option.mem_def.mp hc] at hstop
    simpa using hstop
  · obtain ⟨c, rest, hrest, hc, hmem⟩ := hlater word h
    have hshort : rest.length < cs.length := by
      have hlength := (List.dropWhile_suffix (!cut ·) (l := cs)).length_le
      rw [hrest, List.length_cons] at hlength
      omega
    obtain ⟨front, back, rfl, hfront, hback⟩ := hasWord_of_mem_splitWhen hmem
    refine ⟨cs.takeWhile (!cut ·) ++ c :: front, back, ?_, ?_, hback⟩
    · rw [List.append_assoc, List.cons_append, ← hrest, hsplit]
    · intro d hd
      rw [List.getLast?_append_cons, List.getLast?_cons] at hd
      cases hl : front.getLast? with
      | none =>
        rw [hl] at hd
        cases Option.some.inj hd
        exact hc
      | some e =>
        rw [hl] at hd
        cases Option.some.inj hd
        exact hfront e hl
termination_by cs.length

theorem head_splitWhen_append {word back : List Char} (hw : ∀ c ∈ word, cut c = false)
    (hb : ∀ c ∈ back.head?, cut c = true) : word ∈ splitWhen cut (word ++ back) := by
  obtain ⟨runs, hruns, -⟩ := @splitWhen_takeWhile cut (word ++ back)
  have hstop : back.takeWhile (!cut ·) = [] := by
    cases back with
    | nil => rfl
    | cons c cs => simp [hb c rfl]
  have hword : (word ++ back).takeWhile (!cut ·) = word := by
    rw [List.takeWhile_append_of_pos (by simpa using hw), hstop, List.append_nil]
  rw [hruns, hword]
  exact List.mem_cons_self

/-- A word that stands after other text is none of the first run. -/
theorem mem_tail_splitWhen {word front back : List Char} (hw : ∀ c ∈ word, cut c = false)
    (hb : ∀ c ∈ back.head?, cut c = true) (hne : front ≠ [])
    (hf : ∀ c ∈ front.getLast?, cut c = true) :
    word ∈ (splitWhen cut (front ++ (word ++ back))).tail := by
  induction front with
  | nil => exact absurd rfl hne
  | cons c front ih =>
    cases hc : cut c with
    | true =>
      rw [List.cons_append, splitWhen_cons_of_cut hc, List.tail_cons]
      cases front with
      | nil => exact head_splitWhen_append hw hb
      | cons d front =>
        exact List.mem_of_mem_tail (ih (List.cons_ne_nil _ _) (by simpa [List.getLast?_cons_cons] using hf))
    | false =>
      rw [List.cons_append, splitWhen_cons_of_not_cut hc, List.tail_modifyHead]
      cases front with
      | nil =>
        have hlast := hf c rfl
        rw [hc] at hlast
        cases hlast
      | cons d front =>
        exact ih (List.cons_ne_nil _ _) (by simpa [List.getLast?_cons_cons] using hf)

theorem mem_splitWhen_of_hasWord {word cs : List Char} (hw : ∀ c ∈ word, cut c = false)
    (h : HasWord cut word cs) : word ∈ splitWhen cut cs := by
  obtain ⟨front, back, rfl, hf, hb⟩ := h
  cases front with
  | nil => exact head_splitWhen_append hw hb
  | cons c front => exact List.mem_of_mem_tail (mem_tail_splitWhen hw hb (List.cons_ne_nil _ _) hf)

end

end Text

namespace Header

/-- Round brackets and quotes; between two of them stands what they enclose. -/
def IsDelimiter (c : Char) : Prop :=
  c = '(' ∨ c = ')' ∨ IsQuote c

/-- Whether a lexeme belongs to a literal or to round brackets, with `depth` of them open before it. The
brackets themselves belong to what they enclose. -/
def isCovered (depth : Nat) : Lexeme → Bool
  | .literal _ => true
  | .mark c => c == '(' || c == ')' || decide (0 < depth)
  | _ => decide (0 < depth)

/-- The round brackets that are open after a lexeme. -/
def depthAfter (depth : Nat) : Lexeme → Nat
  | .mark c => if c = '(' then depth + 1 else if c = ')' then depth - 1 else depth
  | _ => depth

/-- The characters of lexemes, each with whether its lexeme is covered. -/
def coverage (depth : Nat) : List Lexeme → List (Char × Bool)
  | [] => []
  | x :: xs => x.text.map (·, isCovered depth x) ++ coverage (depthAfter depth x) xs

/-- The characters that are covered, or those that are not, with a bracket in place of every other
one. -/
def keep (covered : Bool) (ps : List (Char × Bool)) : List Char :=
  ps.map fun p => if p.2 = covered then p.1 else '('

/-- What stands outside of round brackets and literals in a header. -/
def shown (header : String) : List Char :=
  keep false (coverage 0 (lexemes header.toList))

/-- What stands inside round brackets and literals in a header. -/
def covered (header : String) : List Char :=
  keep true (coverage 0 (lexemes header.toList))

/-- Whether one of the words of a text is a type keyword. -/
def hasTypeWord (cs : List Char) : Bool :=
  (Text.splitWhen endsWord cs).any isTypeWord

theorem not_isDelimiter_of_endsWord {c : Char} (h : endsWord c = true) : ¬IsDelimiter c := by
  rintro (rfl | rfl | rfl | rfl) <;> exact absurd h (by decide)

theorem isTypeWord_chars {word : List Char} (h : isTypeWord word = true) :
    word ≠ [] ∧ ∀ c ∈ word, endsWord c = false ∧ ¬IsDelimiter c := by
  have hk : ∀ k ∈ typeKeywords, k.toList ≠ [] ∧ k.toList.any endsWord = false ∧
      '(' ∉ k.toList ∧ ')' ∉ k.toList ∧ '\x22' ∉ k.toList ∧ '\x27' ∉ k.toList := by decide
  obtain ⟨hne, hends, ho, hl, hd, hs⟩ := hk _ (List.contains_iff_mem.mp h)
  rw [String.toList_ofList] at hne hends ho hl hd hs
  refine ⟨hne, fun c hc => ⟨Bool.eq_false_iff.mpr (List.any_eq_false.mp hends c hc), ?_⟩⟩
  rintro (rfl | rfl | rfl | rfl)
  · exact ho hc
  · exact hl hc
  · exact hd hc
  · exact hs hc

theorem hasTypeWord_iff {cs : List Char} : hasTypeWord cs = true ↔
    ∃ word, isTypeWord word = true ∧ Text.HasWord endsWord word cs := by
  rw [hasTypeWord, List.any_eq_true]
  constructor
  · rintro ⟨word, hmem, hword⟩
    exact ⟨word, hword, Text.hasWord_of_mem_splitWhen hmem⟩
  · rintro ⟨word, hword, h⟩
    exact ⟨word, Text.mem_splitWhen_of_hasWord (fun c hc => ((isTypeWord_chars hword).2 c hc).1) h, hword⟩

theorem map_fst_coverage (depth : Nat) (xs : List Lexeme) :
    (coverage depth xs).map Prod.fst = xs.flatMap Lexeme.text := by
  induction xs generalizing depth with
  | nil => rfl
  | cons x xs ih => simp [coverage, ih, Function.comp_def]

/-- Neighbours are both covered or both not, unless the one that is covered is a delimiter. -/
def Meets (p q : Char × Bool) : Prop :=
  p.2 = q.2 ∨ IsDelimiter p.1 ∨ IsDelimiter q.1

/-- A character next to a place with `depth` open brackets is covered if some are open there, or it is a
delimiter. -/
def Settled (depth : Nat) (p : Char × Bool) : Prop :=
  p.2 = decide (0 < depth) ∨ IsDelimiter p.1

theorem Settled.meets {depth : Nat} {p q : Char × Bool} (hp : Settled depth p)
    (hq : Settled depth q) : Meets p q := by
  rcases hp with hp | hp
  · rcases hq with hq | hq
    · exact .inl (hp.trans hq.symm)
    · exact .inr (.inr hq)
  · exact .inr (.inl hp)

theorem settled_first {x : Lexeme} {rest : List Char} (h : x.Reads rest) (depth : Nat) :
    ∀ c ∈ x.text.head?, Settled depth (c, isCovered depth x) := by
  obtain ⟨d, cs, hn⟩ := h
  intro c hc
  cases hn with
  | literal hq =>
    cases Option.some.inj hc
    exact .inr (.inr (.inr hq))
  | mark =>
    cases Option.some.inj hc
    by_cases ho : d = '('
    · exact .inr (.inl ho)
    · by_cases hl : d = ')'
      · exact .inr (.inr (.inl hl))
      · exact .inl (by simp [isCovered, ho, hl])
  | _ => exact .inl rfl

theorem settled_last {x : Lexeme} {rest : List Char} (h : x.Reads rest) (depth : Nat) :
    ∀ c ∈ x.text.getLast?, Settled (depthAfter depth x) (c, isCovered depth x) := by
  obtain ⟨d, cs, hn⟩ := h
  intro c hc
  cases hn with
  | literal hq hread =>
    rw [Lexeme.text, List.getLast?_cons, Lexeme.closeLiteral?_getLast hread] at hc
    cases Option.some.inj hc
    exact .inr (.inr (.inr hq))
  | mark =>
    cases Option.some.inj hc
    by_cases ho : d = '('
    · exact .inr (.inl ho)
    · by_cases hl : d = ')'
      · exact .inr (.inr (.inl hl))
      · exact .inl (by simp [isCovered, depthAfter, ho, hl])
  | _ => exact .inl rfl

theorem settled_head_coverage {xs : List Lexeme} (h : Joined xs []) (depth : Nat) :
    ∀ p ∈ (coverage depth xs).head?, Settled depth p := by
  cases xs with
  | nil => exact fun p hp => absurd hp (Option.not_mem_none p)
  | cons x xs =>
    obtain ⟨c, cs, hx⟩ := List.exists_cons_of_ne_nil h.1.text_ne_nil
    intro p hp
    rw [coverage, hx] at hp
    cases Option.some.inj hp
    exact settled_first h.1 depth c (by rw [hx]; rfl)

theorem isChain_coverage {xs : List Lexeme} (h : Joined xs []) (depth : Nat) :
    (coverage depth xs).IsChain Meets := by
  induction xs generalizing depth with
  | nil => exact .nil
  | cons x xs ih =>
    refine List.isChain_append.mpr ⟨?_, ih h.2 _, fun p hp q hq => ?_⟩
    · exact List.isChain_map_of_isChain _ (fun _ _ _ => .inl rfl) (List.isChain_isInfix x.text)
    · rw [List.getLast?_map, Option.mem_def, Option.map_eq_some_iff] at hp
      obtain ⟨c, hc, rfl⟩ := hp
      exact (settled_last h.1 depth c hc).meets (settled_head_coverage h.2 _ q hq)

theorem Meets.eq {p q : Char × Bool} (h : Meets p q) (hp : ¬IsDelimiter p.1)
    (hq : ¬IsDelimiter q.1) : p.2 = q.2 :=
  h.resolve_right fun hd => hd.elim hp hq

/-- No run without delimiters goes from what is covered to what is not. -/
theorem eq_of_isChain {p : Char × Bool} {ps : List (Char × Bool)} (h : (p :: ps).IsChain Meets)
    (hd : ∀ q ∈ p :: ps, ¬IsDelimiter q.1) : ∀ q ∈ p :: ps, q.2 = p.2 := by
  induction ps generalizing p with
  | nil => simp
  | cons q ps ih =>
    have hpq := (List.isChain_cons_cons.mp h).1.eq (hd p List.mem_cons_self)
      (hd q (List.mem_cons_of_mem p List.mem_cons_self))
    have hrest := ih (List.isChain_cons_cons.mp h).2 fun r hr => hd r (List.mem_cons_of_mem p hr)
    refine List.forall_mem_cons.mpr ⟨rfl, fun r hr => ?_⟩
    rw [hrest r hr, hpq]

theorem hasWord_keep {ps : List (Char × Bool)} {word : List Char} (hps : ps.IsChain Meets)
    (hword : isTypeWord word = true) (h : Text.HasWord endsWord word (ps.map Prod.fst)) :
    ∃ covered, Text.HasWord endsWord word (keep covered ps) := by
  obtain ⟨front, middle, back, rfl, rfl, hfront, hback⟩ := Text.hasWord_map_iff.mp h
  obtain ⟨hne, hchars⟩ := isTypeWord_chars hword
  cases middle with
  | nil => exact absurd rfl hne
  | cons p middle =>
    obtain ⟨-, hchain, hleft⟩ := List.isChain_append.mp hps
    obtain ⟨hchain, -, hright⟩ := List.isChain_append.mp hchain
    have hinside : ∀ q ∈ p :: middle, ¬IsDelimiter q.1 := fun q hq =>
      (hchars q.1 (List.mem_map_of_mem hq)).2
    have hsame := eq_of_isChain hchain hinside
    refine ⟨p.2, Text.hasWord_map_iff.mpr ⟨front, p :: middle, back, rfl, ?_, ?_, ?_⟩⟩
    · exact List.map_congr_left fun q hq => if_pos (hsame q hq)
    · intro q hq
      have hflag := (hleft q hq p rfl).eq (not_isDelimiter_of_endsWord (hfront q hq))
        (hinside p List.mem_cons_self)
      rw [if_pos hflag]
      exact hfront q hq
    · intro q hq
      have hlast := List.getLast?_eq_some_getLast (List.cons_ne_nil p middle)
      have hflag := (hright _ hlast q hq).eq (hinside _ (List.getLast_mem _))
        (not_isDelimiter_of_endsWord (hback q hq))
      rw [if_pos (hflag.symm.trans (hsame _ (List.getLast_mem _)))]
      exact hback q hq

/-- A character that is no bracket was kept. -/
theorem map_fst_of_keep {covered : Bool} {ps : List (Char × Bool)} {cs : List Char}
    (h : keep covered ps = cs) (hcs : ∀ c ∈ cs, ¬IsDelimiter c) : ps.map Prod.fst = cs := by
  rw [← h]
  refine List.map_congr_left fun q hq => ?_
  have hkept := hcs (if q.2 = covered then q.1 else '(') (h ▸ List.mem_map_of_mem hq)
  split at hkept
  next hflag => rw [if_pos hflag]
  next => exact absurd (.inl rfl) hkept

theorem endsWord_of_keep {covered : Bool} {q : Char × Bool}
    (h : endsWord (if q.2 = covered then q.1 else '(') = true) : endsWord q.1 = true := by
  split at h
  next => exact h
  next => exact absurd (.inl rfl) (not_isDelimiter_of_endsWord h)

theorem hasWord_of_keep {covered : Bool} {ps : List (Char × Bool)} {word : List Char}
    (hword : isTypeWord word = true) (h : Text.HasWord endsWord word (keep covered ps)) :
    Text.HasWord endsWord word (ps.map Prod.fst) := by
  obtain ⟨front, middle, back, rfl, hmiddle, hfront, hback⟩ := Text.hasWord_map_iff.mp h
  have hkept := map_fst_of_keep hmiddle fun c hc => ((isTypeWord_chars hword).2 c hc).2
  exact Text.hasWord_map_iff.mpr ⟨front, middle, back, rfl, hkept,
    fun q hq => endsWord_of_keep (hfront q hq), fun q hq => endsWord_of_keep (hback q hq)⟩

/-- A header holds a type keyword exactly if one stands outside of its round brackets and literals, or one
stands inside them. -/
theorem isTypeHeader_eq_parts (header : String) :
    isTypeHeader header = (hasTypeWord (shown header) || hasTypeWord (covered header)) := by
  have hchain := isChain_coverage (joined_lexemes header.toList) 0
  have htext : (coverage 0 (lexemes header.toList)).map Prod.fst = header.toList := by
    rw [map_fst_coverage, flatMap_text_lexemes]
  have hheader : isTypeHeader header = hasTypeWord header.toList := rfl
  rw [hheader, Bool.eq_iff_iff, Bool.or_eq_true, hasTypeWord_iff, hasTypeWord_iff, hasTypeWord_iff,
    ← htext]
  constructor
  · rintro ⟨word, hword, h⟩
    obtain ⟨kept, hkept⟩ := hasWord_keep hchain hword h
    cases kept with
    | false => exact .inl ⟨word, hword, hkept⟩
    | true => exact .inr ⟨word, hword, hkept⟩
  · rintro (⟨word, hword, h⟩ | ⟨word, hword, h⟩)
    · exact ⟨word, hword, hasWord_of_keep hword h⟩
    · exact ⟨word, hword, hasWord_of_keep hword h⟩

end Header

end PatchSearch
