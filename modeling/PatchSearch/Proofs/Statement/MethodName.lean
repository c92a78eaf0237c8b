import Mathlib.Data.List.Basic
import PatchSearch.Statement.Header
import PatchSearch.Proofs.Statement.Lexemes
import PatchSearch.Proofs.Statement.Offsets

namespace PatchSearch

namespace Text

/-- First and last code points of runs without a letter or a number that hold all blank characters. -/
def blankRuns : List (Nat × Nat) :=
  [(0x9, 0x20), (0x85, 0xa0), (0x1680, 0x1680), (0x2000, 0x205f), (0x3000, 0x3000)]

theorem exists_blankRun {c : Char} (h : isBlank c = true) :
    ∃ run ∈ blankRuns, run.1 ≤ c.toNat ∧ c.toNat ≤ run.2 := by
  simp only [isBlank, Bool.or_eq_true, Bool.and_eq_true, decide_eq_true_eq, beq_iff_eq] at h
  simp only [blankRuns, List.mem_cons, List.not_mem_nil, or_false, exists_eq_or_imp, exists_eq_left]
  omega

theorem isAlphanumeric_of_isBlank {c : Char} (h : isBlank c = true) : isAlphanumeric c = false := by
  have hapart : ∀ run ∈ alphanumericRuns, ∀ gap ∈ blankRuns, gap.2 < run.1 ∨ run.2 < gap.1 := by
    decide +kernel
  obtain ⟨gap, hgap, hfirst, hlast⟩ := exists_blankRun h
  refine List.any_eq_false.mpr fun run hrun => ?_
  have := hapart run hrun gap hgap
  simp only [Bool.and_eq_true, decide_eq_true_eq]
  omega

section

variable {cut : Char → Bool}

theorem splitWhen_cons_of_cut {c : Char} (h : cut c = true) (cs : List Char) :
    splitWhen cut (c :: cs) = [] :: splitWhen cut cs := by
  rw [splitWhen, if_pos h]

theorem splitWhen_cons_of_not_cut {c : Char} (h : cut c = false) (cs : List Char) :
    splitWhen cut (c :: cs) = (splitWhen cut cs).modifyHead (c :: ·) := by
  rw [splitWhen, if_neg (by simp [h])]
  cases hs : splitWhen cut cs with
  | nil => exact absurd hs (splitWhen_ne_nil cut cs)
  | cons run runs => rfl

/-- The last run of a text goes on with the first run of what follows. -/
theorem exists_splitWhen_append (cut : Char → Bool) (xs : List Char) :
    ∃ runs last, splitWhen cut xs = runs ++ [last] ∧ ∀ ys,
      splitWhen cut (xs ++ ys) = runs ++ (splitWhen cut ys).modifyHead (last ++ ·) := by
  induction xs with
  | nil => exact ⟨[], [], rfl, fun ys => by cases h : splitWhen cut ys <;> simp [h]⟩
  | cons c xs ih =>
    obtain ⟨runs, last, hxs, happend⟩ := ih
    cases hc : cut c with
    | true =>
      refine ⟨[] :: runs, last, by rw [splitWhen_cons_of_cut hc, hxs]; rfl, fun ys => ?_⟩
      rw [List.cons_append, splitWhen_cons_of_cut hc, happend]
      rfl
    | false =>
      cases runs with
      | nil =>
        refine ⟨[], c :: last, by rw [splitWhen_cons_of_not_cut hc, hxs]; rfl, fun ys => ?_⟩
        rw [List.cons_append, splitWhen_cons_of_not_cut hc, happend]
        cases splitWhen cut ys <;> rfl
      | cons run runs =>
        refine ⟨(c :: run) :: runs, last, by rw [splitWhen_cons_of_not_cut hc, hxs]; rfl, fun ys => ?_⟩
        rw [List.cons_append, splitWhen_cons_of_not_cut hc, happend]
        rfl

end

/-- What stands after a character that `w` lacks still ends in `w`. -/
theorem append_eq_append_cons_right {xs w ys zs : List Char} {c : Char} (hc : c ∉ w)
    (h : xs ++ w = ys ++ c :: zs) : ∃ zs', zs = zs' ++ w ∧ xs = ys ++ c :: zs' := by
  rcases List.append_eq_append_iff.mp h with ⟨as, -, hw⟩ | ⟨bs, hx, hb⟩
  · exact absurd (by simp [hw]) hc
  · cases bs with
    | nil => exact absurd (by simp [show w = c :: zs by simpa using hb.symm]) hc
    | cons b bs =>
      obtain ⟨rfl, rfl⟩ := List.cons_eq_cons.mp hb
      exact ⟨bs, rfl, hx⟩

/-- What stands before a character that `ps` lacks still begins with `ps`. -/
theorem append_eq_append_cons_left {ps qs xs ys : List Char} {c : Char} (hc : c ∉ ps)
    (h : ps ++ qs = xs ++ c :: ys) : ∃ xs', xs = ps ++ xs' ∧ qs = xs' ++ c :: ys := by
  rcases List.append_eq_append_iff.mp h with ⟨as, hx, hq⟩ | ⟨bs, rfl, hb⟩
  · exact ⟨as, hx, hq⟩
  · cases bs with
    | nil => exact ⟨[], by simp, hb.symm⟩
    | cons b bs =>
      obtain ⟨rfl, -⟩ := List.cons_eq_cons.mp hb
      exact absurd (by simp) hc

/-- A pattern that ends in its only `c` does not overlap itself: after its first occurrence, every
other one is still whole. -/
theorem cutAt?_of_append {w first rest before after : List Char} {c : Char} (hc : c ∉ w)
    (h : cutAt? (w ++ [c]) (before ++ (w ++ c :: after)) = some (first, rest)) :
    before = first ∨ ∃ between, before = first ++ (w ++ c :: between) ∧
      rest = between ++ (w ++ c :: after) := by
  have hsame : before ++ w ++ c :: after = first ++ w ++ c :: rest := by
    simpa using cutAt?_eq_append h
  rcases List.append_eq_append_iff.mp hsame with ⟨as, hfirst, hafter⟩ | ⟨bs, hbefore, hrest⟩
  · cases as with
    | nil => exact .inl (by simpa using hfirst.symm)
    | cons d as =>
      obtain ⟨rfl, -⟩ := List.cons_eq_cons.mp hafter
      obtain ⟨as', -, rfl⟩ := append_eq_append_cons_right hc hfirst
      refine absurd ⟨before, as' ++ w, ?_⟩ (precedes_of_cutAt? (by simp) h)
      simp
  · cases bs with
    | nil => exact .inl (by simpa using hbefore)
    | cons d bs =>
      obtain ⟨rfl, hrest⟩ := List.cons_eq_cons.mp hrest
      obtain ⟨bs', rfl, rfl⟩ := append_eq_append_cons_right hc hbefore
      exact .inr ⟨bs', by simp, by simpa using hrest⟩

end Text

namespace Header

theorem endsName_append {xs ys : List Char} (h : ys ≠ []) : endsName (xs ++ ys) = endsName ys := by
  rw [endsName, endsName, List.getLast?_append_of_ne_nil xs h]

theorem exists_of_occursAsName {needle seen cs : List Char}
    (h : occursAsName needle seen cs = true) :
    ∃ before after, cs = before ++ needle ++ after ∧ endsName (seen ++ before) = true := by
  fun_induction occursAsName needle seen cs with
  | case1 => simp at h
  | case2 => simp at h
  | case3 seen cs hn before after hcut _ ih =>
    have hcs := Text.cutAt?_eq_append hcut
    rcases Bool.or_eq_true_iff.mp h with hb | ho
    · exact ⟨before, after, hcs, hb⟩
    · obtain ⟨b, a, rfl, hb⟩ := ih ho
      have hne : needle ++ b ≠ [] := by simp [hn]
      refine ⟨before ++ (needle ++ b), a, by simp [hcs], ?_⟩
      rw [← List.append_assoc, endsName_append hne]
      exact hb

theorem occursAsName_of_append {w seen before after : List Char} (hw : '(' ∉ w)
    (hb : endsName (seen ++ before) = true) :
    occursAsName (w ++ ['(']) seen (before ++ (w ++ '(' :: after)) = true := by
  generalize hcs : before ++ (w ++ '(' :: after) = cs
  generalize hneedle : w ++ ['('] = needle
  fun_induction occursAsName needle seen cs generalizing before after with
  | case1 _ _ hn => simp [← hneedle] at hn
  | case2 seen cs hn hcut =>
    refine absurd ⟨before, after, ?_⟩ (Text.not_infix_of_cutAt? hcut)
    simp [← hcs, ← hneedle]
  | case3 seen cs hn first rest hcut _ ih =>
    subst hcs hneedle
    rw [Bool.or_eq_true_iff]
    rcases Text.cutAt?_of_append hw hcut with rfl | ⟨between, rfl, rfl⟩
    · exact .inl hb
    · have hsplit : seen ++ (first ++ (w ++ '(' :: between)) =
          seen ++ first ++ (w ++ ['('] ++ between) := by simp
      rw [hsplit, endsName_append (by simp)] at hb
      exact .inr (ih hb rfl)

/-- The search from the left without overlap meets every occurrence of a name. -/
theorem occursAsName_iff {w cs : List Char} (hw : '(' ∉ w) :
    occursAsName (w ++ ['(']) [] cs = true ↔
      ∃ before after, cs = before ++ (w ++ '(' :: after) ∧ endsName before = true := by
  constructor
  · intro h
    obtain ⟨before, after, rfl, hb⟩ := exists_of_occursAsName h
    exact ⟨before, after, by simp, hb⟩
  · rintro ⟨before, after, rfl, hb⟩
    exact occursAsName_of_append hw hb

/-- What `compact` writes for a text before a letter that comes next, the space between them
included. -/
def lead (begun gap : Bool) : List Char → List Char
  | [] => if gap && begun then [' '] else []
  | c :: cs =>
    if Text.isBlank c then lead begun true cs
    else (if gap && c != '(' && begun then [' '] else []) ++ c :: lead true false cs

theorem compact_cons_of_not_blank {begun gap : Bool} {c : Char} (h : Text.isBlank c = false)
    (cs : List Char) : compact begun gap (c :: cs) =
      (if gap && c != '(' && begun then [' '] else []) ++ c :: compact true false cs := by
  rw [compact, if_neg (by simp [h])]
  split <;> rfl

theorem lead_cons_of_not_blank {begun gap : Bool} {c : Char} (h : Text.isBlank c = false)
    (cs : List Char) : lead begun gap (c :: cs) =
      (if gap && c != '(' && begun then [' '] else []) ++ c :: lead true false cs := by
  rw [lead, if_neg (by simp [h])]

/-- A character of a name. -/
def IsInName (c : Char) : Prop :=
  Text.isBlank c = false ∧ c ≠ '('

theorem compact_append_cons {c : Char} (hc : IsInName c) (begun gap : Bool) (xs ys : List Char) :
    compact begun gap (xs ++ c :: ys) = lead begun gap xs ++ c :: compact true false ys := by
  induction xs generalizing begun gap with
  | nil => simp [compact_cons_of_not_blank hc.1, hc.2, lead]
  | cons d xs ih =>
    rw [List.cons_append, lead]
    split
    next hd => rw [compact, if_pos hd, ih]
    next hd => rw [compact_cons_of_not_blank (by simpa using hd), ih]; simp

/-- A letter in a compacted text is a letter of the text, and what stands before it was written for
what stands before it there. -/
theorem exists_of_compact_eq {c : Char} (hc : IsInName c) {begun gap : Bool} {cs xs ys : List Char}
    (h : compact begun gap cs = xs ++ c :: ys) :
    ∃ front back, cs = front ++ c :: back ∧ xs = lead begun gap front ∧
      ys = compact true false back := by
  induction cs generalizing begun gap xs with
  | nil => simp [compact] at h
  | cons d cs ih =>
    cases hd : Text.isBlank d with
    | true =>
      rw [compact, if_pos hd] at h
      obtain ⟨front, back, rfl, rfl, rfl⟩ := ih h
      exact ⟨d :: front, back, rfl, by rw [lead, if_pos hd], rfl⟩
    | false =>
      rw [compact_cons_of_not_blank hd] at h
      have hspace : c ∉ (if gap && d != '(' && begun then [' '] else []) := by
        split
        · intro h
          rw [List.mem_singleton.mp h] at hc
          exact absurd hc.1 (by decide)
        · exact List.not_mem_nil
      obtain ⟨xs', rfl, hrest⟩ := Text.append_eq_append_cons_left hspace h
      cases xs' with
      | nil =>
        obtain ⟨rfl, rfl⟩ := List.cons_eq_cons.mp hrest
        exact ⟨[], cs, rfl, by simp [lead, hc.2], rfl⟩
      | cons x xs' =>
        obtain ⟨rfl, htail⟩ := List.cons_eq_cons.mp hrest
        obtain ⟨front, back, rfl, rfl, rfl⟩ := ih htail
        exact ⟨d :: front, back, rfl, (lead_cons_of_not_blank hd front).symm, rfl⟩

theorem lead_ne_nil {gap : Bool} {c : Char} {cs : List Char} : lead true gap (c :: cs) ≠ [] := by
  induction cs generalizing gap c with
  | nil => rw [lead]; split <;> simp [lead]
  | cons d cs ih =>
    rw [lead]
    split
    next => exact ih
    next => simp

theorem joinsName_of_isBlank {c : Char} (h : Text.isBlank c = true) : joinsName c = false := by
  have hu : c ≠ '_' := by rintro rfl; exact absurd h (by decide)
  have hd : c ≠ '.' := by rintro rfl; exact absurd h (by decide)
  simp [joinsName, Text.isAlphanumeric_of_isBlank h, hu, hd]

theorem endsName_singleton (c : Char) : endsName [c] = !joinsName c := rfl

theorem endsName_cons {c : Char} {cs : List Char} (h : cs ≠ []) :
    endsName (c :: cs) = endsName cs := by
  rw [← List.singleton_append, endsName_append h]

/-- Blanks are no part of a name, so a name stands on its own before and after they are written as
one space or left out. -/
theorem endsName_lead (begun gap : Bool) (cs : List Char) :
    endsName (lead begun gap cs) = endsName cs := by
  induction cs generalizing begun gap with
  | nil =>
    rw [lead]
    split
    · rw [endsName_singleton, joinsName_of_isBlank (by decide)]; rfl
    · rfl
  | cons c cs ih =>
    rw [lead]
    split
    next hc =>
      rw [ih]
      cases cs with
      | nil => rw [endsName_singleton, joinsName_of_isBlank hc]; rfl
      | cons d cs => exact (endsName_cons (List.cons_ne_nil d cs)).symm
    next =>
      rw [endsName_append (by simp)]
      cases cs with
      | nil => rfl
      | cons d cs => rw [endsName_cons lead_ne_nil, ih, ← endsName_cons (List.cons_ne_nil d cs)]

/-- After blanks, a compacted text goes on with a space or a parenthesis. -/
theorem not_isInName_of_compact {c : Char} {cs ys : List Char}
    (h : compact true true cs = c :: ys) : ¬IsInName c := by
  induction cs with
  | nil => simp [compact] at h
  | cons d cs ih =>
    cases hd : Text.isBlank d with
    | true =>
      rw [compact, if_pos hd] at h
      exact ih h
    | false =>
      rw [compact_cons_of_not_blank hd] at h
      split at h
      next =>
        obtain ⟨rfl, -⟩ := List.cons_eq_cons.mp h
        exact fun hc => absurd hc.1 (by decide)
      next hs =>
        obtain ⟨rfl, -⟩ := List.cons_eq_cons.mp h
        exact fun hc => hs (by simp [hc.2])

theorem compact_gap {spaces : List Char} (h : ∀ c ∈ spaces, Text.isBlank c = true)
    (begun gap : Bool) (back : List Char) :
    compact begun gap (spaces ++ '(' :: back) = '(' :: compact true false back := by
  induction spaces generalizing gap with
  | nil =>
    rw [List.nil_append, compact_cons_of_not_blank (by decide)]
    simp
  | cons c spaces ih =>
    rw [List.forall_mem_cons] at h
    rw [List.cons_append, compact, if_pos h.1, ih h.2]

theorem exists_gap_of_compact {begun gap : Bool} {cs ys : List Char}
    (h : compact begun gap cs = '(' :: ys) :
    ∃ spaces back, cs = spaces ++ '(' :: back ∧ ∀ c ∈ spaces, Text.isBlank c = true := by
  induction cs generalizing gap with
  | nil => simp [compact] at h
  | cons d cs ih =>
    cases hd : Text.isBlank d with
    | true =>
      rw [compact, if_pos hd] at h
      obtain ⟨spaces, back, rfl, hs⟩ := ih h
      exact ⟨d :: spaces, back, rfl, List.forall_mem_cons.mpr ⟨hd, hs⟩⟩
    | false =>
      rw [compact_cons_of_not_blank hd] at h
      split at h
      next => exact absurd (List.cons_eq_cons.mp h).1 (by decide)
      next =>
        obtain ⟨rfl, -⟩ := List.cons_eq_cons.mp h
        exact ⟨[], cs, rfl, by simp⟩

/-- A text after a letter goes on with the rest of a name, blanks and a parenthesis. -/
theorem compact_eq_name_iff {w cs : List Char} (hw : ∀ c ∈ w, IsInName c) :
    (∃ after, compact true false cs = w ++ '(' :: after) ↔
      ∃ spaces back, cs = w ++ (spaces ++ '(' :: back) ∧ ∀ c ∈ spaces, Text.isBlank c = true := by
  constructor
  · rintro ⟨after, h⟩
    induction w generalizing cs with
    | nil => exact exists_gap_of_compact h
    | cons c w ih =>
      rw [List.forall_mem_cons] at hw
      cases cs with
      | nil => simp [compact] at h
      | cons d cs =>
        cases hd : Text.isBlank d with
        | true =>
          rw [compact, if_pos hd] at h
          exact absurd hw.1 (not_isInName_of_compact h)
        | false =>
          rw [compact_cons_of_not_blank hd] at h
          obtain ⟨rfl, hrest⟩ := List.cons_eq_cons.mp h
          obtain ⟨spaces, back, rfl, hs⟩ := ih hw.2 hrest
          exact ⟨spaces, back, rfl, hs⟩
  · rintro ⟨spaces, back, rfl, hs⟩
    induction w with
    | nil => exact ⟨_, compact_gap hs true false back⟩
    | cons c w ih =>
      rw [List.forall_mem_cons] at hw
      obtain ⟨after, ha⟩ := ih hw.2
      refine ⟨after, ?_⟩
      rw [List.cons_append, compact_cons_of_not_blank hw.1.1, ha]
      rfl

/-- A text introduces the name `w`: only blanks stand between the name and a parenthesis, and no
character before it could be part of the same name. -/
def Introduces (w cs : List Char) : Prop :=
  ∃ front spaces back, cs = front ++ (w ++ (spaces ++ '(' :: back)) ∧
    (∀ c ∈ spaces, Text.isBlank c = true) ∧
    ∀ c ∈ front.getLast?, Text.isAlphanumeric c = false ∧ c ≠ '_' ∧ c ≠ '.'

theorem endsName_iff {cs : List Char} : endsName cs = true ↔
    ∀ c ∈ cs.getLast?, Text.isAlphanumeric c = false ∧ c ≠ '_' ∧ c ≠ '.' := by
  rw [endsName]
  split
  next h => simp [h]
  next c h => simp [h, joinsName, and_assoc]

/-- The compacted text holds a name before a parenthesis exactly where the text itself does. -/
theorem occursAsName_compact_iff {w cs : List Char} (hne : w ≠ []) (hw : ∀ c ∈ w, IsInName c) :
    occursAsName (w ++ ['(']) [] (compact false false cs) = true ↔ Introduces w cs := by
  have hparen : '(' ∉ w := fun h => (hw _ h).2 rfl
  obtain ⟨c, w, rfl⟩ := List.exists_cons_of_ne_nil hne
  obtain ⟨hc, hw⟩ := List.forall_mem_cons.mp hw
  rw [occursAsName_iff hparen]
  constructor
  · rintro ⟨before, after, hcs, hb⟩
    obtain ⟨front, rest, rfl, rfl, hrest⟩ := exists_of_compact_eq hc hcs
    obtain ⟨spaces, back, rfl, hs⟩ := (compact_eq_name_iff hw).mp ⟨after, hrest.symm⟩
    exact ⟨front, spaces, back, rfl, hs, endsName_iff.mp (endsName_lead false false front ▸ hb)⟩
  · rintro ⟨front, spaces, back, rfl, hs, hf⟩
    obtain ⟨after, ha⟩ := (compact_eq_name_iff hw).mpr ⟨spaces, back, rfl, hs⟩
    refine ⟨lead false false front, after, ?_, ?_⟩
    · rw [List.cons_append, compact_append_cons hc, ha]
      rfl
    · rw [endsName_lead]
      exact endsName_iff.mpr hf

/-- Blanks before a parenthesis are left out. -/
theorem compact_append_gap {spaces : List Char} (h : ∀ c ∈ spaces, Text.isBlank c = true)
    (begun gap : Bool) (front back : List Char) :
    compact begun gap (front ++ (spaces ++ '(' :: back)) =
      compact begun gap (front ++ '(' :: back) := by
  induction front generalizing begun gap with
  | nil => exact (compact_gap h begun gap back).trans (compact_gap (by simp) begun gap back).symm
  | cons c front ih => simp only [List.cons_append, compact, ih]

/-- Where a header is cut into words that could be type keywords. -/
def endsWord (c : Char) : Bool :=
  Text.isBlank c || c == '<'

/-- The word that a text ends with; it is empty after a blank or an opening angle bracket. -/
def lastWord (cs : List Char) : List Char :=
  (Text.splitWhen endsWord cs).getLastD []

/-- Whether a word is a type keyword. -/
def isTypeWord (word : List Char) : Bool :=
  typeKeywords.contains (String.ofList word)

theorem isTypeHeader_eq (header : String) :
    isTypeHeader header = (Text.splitWhen endsWord header.toList).any isTypeWord :=
  rfl

theorem isTypeWord_of_mem_parenthesis {word : List Char} (h : '(' ∈ word) :
    isTypeWord word = false := by
  have hk : ∀ k ∈ typeKeywords, '(' ∉ k.toList := by decide
  rw [isTypeWord, Bool.eq_false_iff]
  intro hc
  exact hk _ (List.contains_iff_mem.mp hc) (by simpa using h)

theorem any_isTypeWord_gap {spaces : List Char} (h : ∀ c ∈ spaces, Text.isBlank c = true)
    (cs : List Char) : (Text.splitWhen endsWord (spaces ++ cs)).any isTypeWord =
      (Text.splitWhen endsWord cs).any isTypeWord := by
  induction spaces with
  | nil => rfl
  | cons c spaces ih =>
    rw [List.forall_mem_cons] at h
    have hc : endsWord c = true := by simp [endsWord, h.1]
    rw [List.cons_append, Text.splitWhen_cons_of_cut hc, List.any_cons, ih h.2]
    rfl

/-- The last word before blanks is a word of its own, and joined with a parenthesis it is no keyword;
every other word stays. -/
theorem any_isTypeWord_append_gap {spaces : List Char} (h : ∀ c ∈ spaces, Text.isBlank c = true)
    (front back : List Char) :
    (Text.splitWhen endsWord (front ++ (spaces ++ '(' :: back))).any isTypeWord =
      ((Text.splitWhen endsWord (front ++ '(' :: back)).any isTypeWord ||
        (!spaces.isEmpty && isTypeWord (lastWord front))) := by
  obtain ⟨runs, last, hfront, happend⟩ := Text.exists_splitWhen_append endsWord front
  have hlast : lastWord front = last := by simp [lastWord, hfront]
  obtain ⟨word, words, hback⟩ := List.exists_cons_of_ne_nil (Text.splitWhen_ne_nil endsWord back)
  have hjoined : Text.splitWhen endsWord ('(' :: back) = ('(' :: word) :: words := by
    rw [Text.splitWhen_cons_of_not_cut (by decide), hback]
    rfl
  have hword : isTypeWord ('(' :: word) = false := isTypeWord_of_mem_parenthesis (by simp)
  have hlong : isTypeWord (last ++ '(' :: word) = false := isTypeWord_of_mem_parenthesis (by simp)
  rw [hlast]
  cases spaces with
  | nil => simp
  | cons c spaces =>
    obtain ⟨hc, hspaces⟩ := List.forall_mem_cons.mp h
    have hcut : endsWord c = true := by simp [endsWord, hc]
    have hrest := any_isTypeWord_gap hspaces ('(' :: back)
    rw [List.cons_append, happend, happend, Text.splitWhen_cons_of_cut hcut]
    simp only [List.modifyHead_cons, List.append_nil, List.any_append, List.any_cons, hrest, hjoined,
      hword, hlong, Bool.false_or]
    rw [Bool.or_assoc, Bool.or_comm (words.any isTypeWord)]
    simp

theorem parenthesis_notMem_identifier (name : String) : '(' ∉ identifier name := by
  intro h
  rw [identifier, Text.trim, Text.trimEnd, List.mem_reverse] at h
  have hfirst := List.mem_reverse.mp ((List.dropWhile_suffix _).mem h)
  have hpart := (List.dropWhile_suffix _).mem hfirst
  simpa using List.mem_takeWhile_imp hpart

theorem identifier_append_params (name params : String) :
    identifier (name ++ "(" ++ params) = identifier name := by
  have hparams : (name ++ "(" ++ params).toList = name.toList ++ '(' :: params.toList := by simp
  rw [identifier, identifier, hparams]
  congr 1
  induction name.toList with
  | nil => simp
  | cons c cs ih => rw [List.cons_append, List.takeWhile_cons, List.takeWhile_cons, ih]

theorem declaresMethod_eq (header name : String) : declaresMethod header name =
    (!(identifier name).isEmpty && !isTypeHeader header &&
      occursAsName (identifier name ++ ['(']) [] (compact false false header.toList)) := by
  rw [declaresMethod]
  cases hn : identifier name <;> cases hh : isTypeHeader header <;> simp

section

variable {front spaces : String}

theorem isTypeHeader_gap (hs : Text.isBlankText spaces = true) (back : String) :
    isTypeHeader (front ++ spaces ++ "(" ++ back) = (isTypeHeader (front ++ "(" ++ back) ||
      (!spaces.toList.isEmpty && isTypeWord (lastWord front.toList))) := by
  have hblank : ∀ c ∈ spaces.toList, Text.isBlank c = true := List.all_eq_true.mp hs
  simpa [isTypeHeader_eq] using any_isTypeWord_append_gap hblank front.toList back.toList

/-- Spacing before a parenthesis changes nothing unless a type keyword comes directly before it. -/
theorem declaresMethod_gap (hs : Text.isBlankText spaces = true)
    (hf : isTypeWord (lastWord front.toList) = false) (back name : String) :
    declaresMethod (front ++ spaces ++ "(" ++ back) name =
      declaresMethod (front ++ "(" ++ back) name := by
  have hblank : ∀ c ∈ spaces.toList, Text.isBlank c = true := List.all_eq_true.mp hs
  have htype : isTypeHeader (front ++ spaces ++ "(" ++ back) = isTypeHeader (front ++ "(" ++ back) := by
    rw [isTypeHeader_gap hs, hf, Bool.and_false, Bool.or_false]
  have hcompact : compact false false (front ++ spaces ++ "(" ++ back).toList =
      compact false false (front ++ "(" ++ back).toList := by
    simpa using compact_append_gap hblank false false front.toList back.toList
  rw [declaresMethod_eq, declaresMethod_eq, htype, hcompact]

/-- A method with a type keyword for its name is not found once a blank follows the name. -/
theorem declaresMethod_typeWord_gap (hs : Text.isBlankText spaces = true) (hne : spaces ≠ "")
    (hf : isTypeWord (lastWord front.toList) = true) (back name : String) :
    declaresMethod (front ++ spaces ++ "(" ++ back) name = false := by
  have hlist : spaces.toList.isEmpty = false := by simpa using hne
  rw [declaresMethod_eq, isTypeHeader_gap hs, hf, hlist]
  simp

end

theorem declaresMethod_iff {name : String} (hne : identifier name ≠ [])
    (hblank : (identifier name).any Text.isBlank = false) (header : String) :
    declaresMethod header name = true ↔
      isTypeHeader header = false ∧ Introduces (identifier name) header.toList := by
  have hname : ∀ c ∈ identifier name, IsInName c := fun c hc =>
    ⟨Bool.eq_false_iff.mpr (List.any_eq_false.mp hblank c hc),
      fun h => parenthesis_notMem_identifier name (h ▸ hc)⟩
  rw [← occursAsName_compact_iff hne hname, declaresMethod_eq]
  simp [hne]

/-- After a blank any name stands on its own. -/
theorem introduces_of_blank (front w spaces back : List Char)
    (hs : ∀ c ∈ spaces, Text.isBlank c = true) :
    Introduces w (front ++ ' ' :: (w ++ (spaces ++ '(' :: back))) := by
  refine ⟨front ++ [' '], spaces, back, by simp, hs, ?_⟩
  simp [Text.isAlphanumeric_of_isBlank (c := ' ') (by decide)]

/-- A header declares a method exactly when it declares no type and introduces the whole name.
Spacing before the parenthesis makes no difference, unless a type keyword stands before it, and a
parameter list in the name makes none. -/
theorem declaresMethod_whole_name (header name : String) (hne : identifier name ≠ [])
    (hblank : (identifier name).any Text.isBlank = false) :
    (declaresMethod header name = true ↔
      isTypeHeader header = false ∧ Introduces (identifier name) header.toList) ∧
    (∀ front spaces back : String, Text.isBlankText spaces = true →
      isTypeWord (lastWord front.toList) = false →
      declaresMethod (front ++ spaces ++ "(" ++ back) name =
        declaresMethod (front ++ "(" ++ back) name) ∧
    ∀ params : String, declaresMethod header (name ++ "(" ++ params) = declaresMethod header name := by
  refine ⟨declaresMethod_iff hne hblank header,
    fun front spaces back hs hf => declaresMethod_gap hs hf back name, fun params => ?_⟩
  rw [declaresMethod_eq, declaresMethod_eq, identifier_append_params]

theorem declaresMethod_whole_name_fib :
    declaresMethod "static int fib (int n)" "fib" = true ∧
      declaresMethod "static int fib(int n)" "fib" = true ∧
      declaresMethod "static int fib (int n)" "fib(int)" = true := by
  obtain ⟨hiff, hgap, hparams⟩ := declaresMethod_whole_name "static int fib (int n)" "fib"
    (by decide +kernel) (by decide +kernel)
  have hfib : declaresMethod "static int fib (int n)" "fib" = true :=
    hiff.mpr ⟨by decide +kernel,
      introduces_of_blank "static int".toList "fib".toList [' '] "int n)".toList
        (List.forall_mem_singleton.mpr (by decide))⟩
  have hjoined := hgap "static int fib" " " "int n)" (by decide +kernel) (by decide +kernel)
  exact ⟨hfib, hjoined.symm.trans hfib, (hparams "int)").trans hfib⟩

/-- Spacing makes a difference for a method called `record`. -/
theorem not_declaresMethod_gap_record : ¬∀ front spaces back name : String,
    Text.isBlankText spaces = true → identifier name ≠ [] →
      (identifier name).any Text.isBlank = false →
      declaresMethod (front ++ spaces ++ "(" ++ back) name =
        declaresMethod (front ++ "(" ++ back) name := by
  intro h
  have hne : identifier "record" ≠ [] := by decide +kernel
  have hblank : (identifier "record").any Text.isBlank = false := by decide +kernel
  have hjoined : declaresMethod ("void record" ++ "(" ++ "int x)") "record" = true :=
    (declaresMethod_iff hne hblank _).mpr ⟨by decide +kernel,
      introduces_of_blank "void".toList "record".toList [] "int x)".toList (List.forall_mem_nil _)⟩
  have hsame := h "void record" " " "int x)" "record" (by decide +kernel) hne hblank
  rw [declaresMethod_typeWord_gap (by decide +kernel) (by decide +kernel) (by decide +kernel),
    hjoined] at hsame
  exact Bool.false_ne_true hsame

end Header

end PatchSearch
