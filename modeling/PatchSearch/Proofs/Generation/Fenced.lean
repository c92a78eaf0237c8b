import Mathlib.Data.List.TakeWhile
import PatchSearch.Generation.Fence
import PatchSearch.Proofs.Statement.Lexemes

namespace PatchSearch

namespace Fence

/-- Three backticks, a language name, blanks and the end of the line. -/
def IsOpener (o : List Char) : Prop :=
  ∃ language gap lineEnd, o = marker ++ (language ++ (gap ++ lineEnd)) ∧
    (∀ c ∈ language, isLanguage c = true) ∧ (∀ c ∈ gap, isGap c = true) ∧
    (lineEnd = ['\n'] ∨ lineEnd = ['\r', '\n'])

/-- The text begins with an opener, and three backticks come later. -/
def Opens (cs : List Char) : Prop :=
  ∃ o rest, IsOpener o ∧ cs = o ++ rest ∧ marker <:+: rest

/-- The text is cut into gaps and blocks. No opener that is closed later stands in a gap; a block ends at
the first three backticks after its opener. -/
inductive Fenced : List Char → List (List Char) → Prop
  | gap {g} : (∀ pre suf, g = pre ++ suf → ¬Opens suf) → Fenced g []
  | block {g o b rest bs} : IsOpener o → Text.Precedes b marker →
      (∀ pre suf, g = pre ++ suf → suf ≠ [] → ¬Opens (suf ++ (o ++ (b ++ (marker ++ rest))))) →
      Fenced rest bs → Fenced (g ++ (o ++ (b ++ (marker ++ rest)))) (b :: bs)

theorem marker_ne_nil : marker ≠ [] :=
  List.cons_ne_nil _ _

theorem afterLineEnd?_eq_some_iff {cs rest : List Char} :
    afterLineEnd? cs = some rest ↔ ∃ e, (e = ['\n'] ∨ e = ['\r', '\n']) ∧ cs = e ++ rest := by
  constructor
  · intro h
    unfold afterLineEnd? at h
    split at h
    next => cases h; exact ⟨['\n'], Or.inl rfl, rfl⟩
    next => cases h; exact ⟨['\r', '\n'], Or.inr rfl, rfl⟩
    next => cases h
  · rintro ⟨e, rfl | rfl, rfl⟩ <;> rfl

theorem dropWhile_append_of_head {p : Char → Bool} {xs ys : List Char} (hx : ∀ c ∈ xs, p c = true)
    (hy : ∀ c ∈ ys.head?, p c = false) : (xs ++ ys).dropWhile p = ys := by
  rw [List.dropWhile_append_of_pos hx]
  cases ys with
  | nil => rfl
  | cons c cs => rw [List.dropWhile_cons, hy c rfl]; rfl

theorem isLanguage_of_isGap {c : Char} (h : isGap c = true) : isLanguage c = false := by
  rcases Bool.or_eq_true_iff.mp h with h | h <;> rw [eq_of_beq h] <;> rfl

/-- An opener ends where it does whatever follows. -/
theorem IsOpener.afterOpener? {o : List Char} (h : IsOpener o) (rest : List Char) :
    afterOpener? (o ++ rest) = some rest := by
  obtain ⟨language, gap, lineEnd, rfl, hl, hg, he⟩ := h
  have hpre : marker.isPrefixOf (marker ++ (language ++ (gap ++ lineEnd)) ++ rest) = true := by
    rw [List.append_assoc]
    exact List.isPrefixOf_iff_prefix.mpr (List.prefix_append _ _)
  have hgap : ∀ c ∈ (lineEnd ++ rest).head?, isGap c = false := by
    intro c hc
    rcases he with rfl | rfl <;> cases hc <;> rfl
  have hlanguage : ∀ c ∈ (gap ++ (lineEnd ++ rest)).head?, isLanguage c = false := by
    intro c hc
    cases gap with
    | nil => rcases he with rfl | rfl <;> cases hc <;> rfl
    | cons d ds =>
      obtain rfl : d = c := Option.some.inj hc
      exact isLanguage_of_isGap (hg d (List.mem_cons_self ..))
  have hdrop : (marker ++ (language ++ (gap ++ lineEnd)) ++ rest).drop 3 =
      language ++ (gap ++ (lineEnd ++ rest)) := by
    simp [marker]
  rw [Fence.afterOpener?, if_pos hpre, hdrop, dropWhile_append_of_head hl hlanguage,
    dropWhile_append_of_head hg hgap]
  exact afterLineEnd?_eq_some_iff.mpr ⟨lineEnd, he, rfl⟩

theorem afterOpener?_eq_some_iff {cs rest : List Char} :
    afterOpener? cs = some rest ↔ ∃ o, IsOpener o ∧ cs = o ++ rest := by
  constructor
  · intro h
    unfold afterOpener? at h
    split at h
    next hpre =>
      obtain ⟨tail, rfl⟩ := List.isPrefixOf_iff_prefix.mp hpre
      obtain ⟨e, he, hrest⟩ := afterLineEnd?_eq_some_iff.mp h
      have htail : (marker ++ tail).drop 3 = tail := rfl
      rw [htail] at hrest
      refine ⟨marker ++ (tail.takeWhile isLanguage ++
        ((tail.dropWhile isLanguage).takeWhile isGap ++ e)),
        ⟨_, _, e, rfl, fun c hc => List.mem_takeWhile_imp hc, fun c hc => List.mem_takeWhile_imp hc, he⟩, ?_⟩
      rw [List.append_assoc, List.append_assoc, List.append_assoc, ← hrest, List.takeWhile_append_dropWhile,
        List.takeWhile_append_dropWhile]
    next => cases h
  · rintro ⟨o, ho, rfl⟩
    exact ho.afterOpener? rest

theorem block?_eq_some_iff {cs b rest : List Char} :
    block? cs = some (b, rest) ↔
      ∃ o, IsOpener o ∧ Text.Precedes b marker ∧ cs = o ++ (b ++ (marker ++ rest)) := by
  constructor
  · intro h
    obtain ⟨body, hb, hr⟩ := Option.bind_eq_some_iff.mp h
    obtain ⟨o, ho, rfl⟩ := afterOpener?_eq_some_iff.mp hb
    refine ⟨o, ho, Text.precedes_of_cutAt? marker_ne_nil hr, ?_⟩
    rw [Text.cutAt?_eq_append hr, List.append_assoc]
  · rintro ⟨o, ho, hb, rfl⟩
    rw [block?, ho.afterOpener?]
    exact Text.cutAt?_of_precedes hb marker_ne_nil rest

/-- A block is found at the beginning of a text exactly if an opener stands there that is closed later. -/
theorem block?_eq_none_iff {cs : List Char} : block? cs = none ↔ ¬Opens cs := by
  rw [Option.eq_none_iff_forall_ne_some]
  constructor
  · rintro h ⟨o, rest, ho, rfl, hm⟩
    obtain ⟨r, hr⟩ := Option.isSome_iff_exists.mp (Text.cutAt?_isSome_of_infix hm)
    exact h r (by rw [block?, ho.afterOpener?]; exact hr)
  · rintro h ⟨b, rest⟩ hb
    obtain ⟨o, ho, _, rfl⟩ := block?_eq_some_iff.mp hb
    exact h ⟨o, _, ho, rfl, ⟨b, rest, List.append_assoc ..⟩⟩

theorem blocks_of_not_opens {c : Char} {cs : List Char} (h : ¬Opens (c :: cs)) :
    blocks (c :: cs) = blocks cs := by
  rw [blocks]
  split
  next => rfl
  next hs => exact absurd ((block?_eq_none_iff.mpr h).symm.trans hs) (Option.some_ne_none _).symm

theorem blocks_of_block? {cs b rest : List Char} (h : block? cs = some (b, rest)) :
    blocks cs = b :: blocks rest := by
  cases cs with
  | nil => cases h
  | cons c cs =>
    rw [blocks]
    split
    next hn => exact absurd (hn.symm.trans h) (Option.some_ne_none _).symm
    next hs =>
      obtain ⟨rfl, rfl⟩ := Prod.mk.inj (Option.some.inj (hs.symm.trans h))
      rfl

/-- A character at which nothing opens makes the first gap longer. -/
theorem Fenced.cons {c : Char} {cs : List Char} {bs : List (List Char)} (h : Fenced cs bs)
    (hc : ¬Opens (c :: cs)) : Fenced (c :: cs) bs := by
  cases h with
  | gap hg =>
    refine .gap fun pre suf he => ?_
    rcases List.cons_eq_append_iff.mp he with ⟨rfl, rfl⟩ | ⟨pre', rfl, _⟩
    · exact hc
    · exact hg pre' suf (List.cons.inj he).2
  | @block g o b rest bs ho hb hg hrest =>
    refine Fenced.block (g := c :: g) ho hb (fun pre suf he hne => ?_) hrest
    rcases List.cons_eq_append_iff.mp he with ⟨rfl, rfl⟩ | ⟨pre', rfl, _⟩
    · exact hc
    · exact hg pre' suf (List.cons.inj he).2 hne

theorem fenced_blocks (cs : List Char) : Fenced cs (blocks cs) := by
  fun_induction blocks cs with
  | case1 =>
    refine .gap fun pre suf he => ?_
    obtain ⟨_, rfl⟩ := List.append_eq_nil_iff.mp he.symm
    exact block?_eq_none_iff.mp rfl
  | case2 c cs h ih => exact ih.cons (block?_eq_none_iff.mp h)
  | case3 c cs b rest h _ ih =>
    obtain ⟨o, ho, hb, he⟩ := block?_eq_some_iff.mp h
    rw [he]
    refine Fenced.block (g := []) ho hb (fun pre suf hnil hne => ?_) ih
    exact absurd (List.append_eq_nil_iff.mp hnil.symm).2 hne

theorem Fenced.eq_blocks {cs : List Char} {bs : List (List Char)} (h : Fenced cs bs) :
    bs = blocks cs := by
  induction h with
  | @gap g hg =>
    induction g with
    | nil => rw [blocks]
    | cons c g ih =>
      rw [blocks_of_not_opens (hg [] _ rfl)]
      exact ih fun pre suf he => hg (c :: pre) suf (congrArg _ he)
  | @block g o b rest bs ho hb hg _ ih =>
    induction g with
    | nil => rw [List.nil_append, blocks_of_block? (block?_eq_some_iff.mpr ⟨o, ho, hb, rfl⟩), ih]
    | cons c g ihg =>
      have hc : ¬Opens (c :: (g ++ (o ++ (b ++ (marker ++ rest))))) :=
        hg [] (c :: g) rfl (List.cons_ne_nil c g)
      rw [List.cons_append, blocks_of_not_opens hc]
      exact ihg fun pre suf he hne => hg (c :: pre) suf (congrArg _ he) hne

/-- No three backticks stand in a block, and it does not end with a backtick. -/
theorem plain_of_precedes {b : List Char} (h : Text.Precedes b marker) :
    ¬marker <:+: b ∧ b.getLast? ≠ some '\x60' := by
  refine ⟨fun hi => h (hi.trans (List.prefix_append b _).isInfix), fun hl => ?_⟩
  obtain ⟨front, rfl⟩ := List.getLast?_eq_some_iff.mp hl
  exact h ⟨front, [], by simp [marker]⟩

theorem Fenced.plain {cs : List Char} {bs : List (List Char)} (h : Fenced cs bs) :
    ∀ b ∈ bs, ¬marker <:+: b ∧ b.getLast? ≠ some '\x60' := by
  induction h with
  | gap => exact fun b hb => absurd hb List.not_mem_nil
  | block _ hb _ _ ih =>
    intro b hm
    rcases List.mem_cons.mp hm with rfl | hm
    · exact plain_of_precedes hb
    · exact ih b hm

/-- The code blocks of a text are those of its only cut into gaps, openers, blocks and closing fences; no
fence stands in a block, nor can a block end in the middle of one. -/
theorem blocksOf_eq_iff (r : String) (bs : List String) :
    (blocksOf r = bs ↔ Fenced r.toList (bs.map String.toList)) ∧
      ∀ b ∈ blocksOf r, ¬marker <:+: b.toList ∧ b.toList.getLast? ≠ some '\x60' := by
  have hblocks : (blocksOf r).map String.toList = blocks r.toList := by
    simp [blocksOf]
  refine ⟨⟨?_, fun h => ?_⟩, fun b hb => ?_⟩
  · rintro rfl
    rw [hblocks]
    exact fenced_blocks r.toList
  · have hinj : Function.Injective String.toList := fun _ _ he => String.toList_injective he
    exact List.map_injective_iff.mpr hinj (hblocks.trans h.eq_blocks.symm)
  · refine (fenced_blocks r.toList).plain b.toList ?_
    rw [← hblocks]
    exact List.mem_map_of_mem hb

/-- Four backticks before a language name, two and one in the block, and a closing fence that looks like
the next opener. -/
theorem blocksOf_eq_iff_backticks :
    let r := "no ```c``` yet\n````md \r\n``x`\n```java\n```"
    blocksOf r = ["``x`\n"] ∧ Fenced r.toList ["``x`\n".toList] ∧
      ∀ b ∈ ["``x`\n"], ¬marker <:+: b.toList ∧ b.toList.getLast? ≠ some '\x60' := by
  intro r
  have hr : blocksOf r = ["``x`\n"] := by decide +kernel
  have hplain := (blocksOf_eq_iff r ["``x`\n"]).2
  rw [hr] at hplain
  exact ⟨hr, (blocksOf_eq_iff r ["``x`\n"]).1.mp hr, hplain⟩

end Fence

end PatchSearch
