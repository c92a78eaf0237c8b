import PatchSearch.Generation.Template
import PatchSearch.Proofs.Statement.Lexemes

namespace PatchSearch

namespace Text

/-- The number of places where `pat` stands in a text. -/
def occurrences (pat : List Char) : List Char → Nat
  | [] => 0
  | c :: cs => if pat.isPrefixOf (c :: cs) then occurrences pat cs + 1 else occurrences pat cs

variable {pat cs before rest new : List Char}

theorem occurrences_le_cons (pat : List Char) (c : Char) (cs : List Char) :
    occurrences pat cs ≤ occurrences pat (c :: cs) := by
  rw [occurrences]
  split <;> omega

theorem occurrences_le_append (pat cs ds : List Char) :
    occurrences pat ds ≤ occurrences pat (cs ++ ds) := by
  induction cs with
  | nil => exact Nat.le_refl _
  | cons c cs ih => exact Nat.le_trans ih (occurrences_le_cons pat c _)

theorem occurrences_append_self (hp : pat ≠ []) (rest : List Char) :
    occurrences pat rest + 1 ≤ occurrences pat (pat ++ rest) := by
  obtain ⟨c, cs, rfl⟩ := List.exists_cons_of_ne_nil hp
  have hpre : (c :: cs).isPrefixOf (c :: (cs ++ rest)) = true :=
    List.isPrefixOf_iff_prefix.mpr (List.prefix_append (c :: cs) rest)
  rw [List.cons_append, occurrences, if_pos hpre]
  exact Nat.succ_le_succ (occurrences_le_append _ cs rest)

theorem cutAt?_eq_none (hp : pat ≠ []) (h : occurrences pat cs = 0) : cutAt? pat cs = none := by
  induction cs with
  | nil => rw [cutAt?, if_neg hp]
  | cons c cs ih =>
    rw [occurrences] at h
    split at h
    next => omega
    next hn => rw [cutAt?, if_neg hn, ih h, Option.map_none]

theorem occurs_of_occurrences_pos (h : 0 < occurrences pat cs) : occurs pat cs = true := by
  induction cs with
  | nil => exact absurd h (Nat.lt_irrefl 0)
  | cons c cs ih =>
    rw [occurrences] at h
    rw [occurs, cutAt?]
    split at h
    next hp => rw [if_pos hp]; rfl
    next hn => rw [if_neg hn, Option.isSome_map]; exact ih h

/-- A text is cut where `pat` is known to stand if it stands nowhere before. -/
theorem cutAt?_of_occurrences
    (h : occurrences pat (before ++ (pat ++ rest)) ≤ occurrences pat (pat ++ rest)) :
    cutAt? pat (before ++ (pat ++ rest)) = some (before, rest) := by
  induction before with
  | nil => exact cutAt?_append_self pat rest
  | cons c cs ih =>
    have hle := occurrences_le_append pat cs (pat ++ rest)
    rw [List.cons_append, occurrences] at h
    split at h
    next => omega
    next hn => rw [List.cons_append, cutAt?, if_neg hn, ih h, Option.map_some]

theorem splitAt_of_none (hp : pat ≠ []) (h : cutAt? pat cs = none) : splitAt pat cs = [cs] := by
  rw [splitAt, dif_neg hp]
  split
  next => rfl
  next hs => exact absurd (h.symm.trans hs) (Option.some_ne_none _).symm

theorem splitAt_of_some {after : List Char} (hp : pat ≠ [])
    (h : cutAt? pat cs = some (before, after)) : splitAt pat cs = before :: splitAt pat after := by
  rw [splitAt, dif_neg hp]
  split
  next hn => exact absurd (hn.symm.trans h) (Option.some_ne_none _).symm
  next hs =>
    obtain ⟨rfl, rfl⟩ := Prod.mk.inj (Option.some.inj (hs.symm.trans h))
    rfl

theorem splitAt_ne_nil (pat cs : List Char) : splitAt pat cs ≠ [] := by
  rw [splitAt]
  split
  · exact List.cons_ne_nil _ _
  · split <;> exact List.cons_ne_nil _ _

theorem replaceAll_of_none (hp : pat ≠ []) (h : cutAt? pat cs = none) :
    replaceAll pat new cs = cs := by
  rw [replaceAll, splitAt_of_none hp h, List.intercalate_singleton]

theorem replaceAll_of_some {after : List Char} (hp : pat ≠ [])
    (h : cutAt? pat cs = some (before, after)) :
    replaceAll pat new cs = before ++ new ++ replaceAll pat new after := by
  rw [replaceAll, splitAt_of_some hp h, List.intercalate_cons_of_ne_nil (splitAt_ne_nil pat after),
    replaceAll]

variable {α : Type} [DecidableEq α] {f : α → List Char} {a : α}

theorem count_le_occurrences (hp : f a ≠ []) (xs : List α) :
    xs.count a ≤ occurrences (f a) (xs.flatMap f) := by
  induction xs with
  | nil => exact Nat.zero_le _
  | cons x xs ih =>
    rw [List.flatMap_cons]
    by_cases hx : x = a
    · subst hx
      have := occurrences_append_self hp (xs.flatMap f)
      rw [List.count_cons_self]
      omega
    · rw [List.count_cons_of_ne hx]
      exact Nat.le_trans ih (occurrences_le_append _ _ _)

/-- In a text that is put together from pieces, replacing what one piece stands for replaces that piece
wherever it is, and nothing else if the text does not hold it in other places. -/
theorem replaceAll_flatMap (hp : f a ≠ []) (new : List Char) (xs : List α)
    (h : occurrences (f a) (xs.flatMap f) ≤ xs.count a) :
    replaceAll (f a) new (xs.flatMap f) = xs.flatMap fun x => if x = a then new else f x := by
  have hkeep : ∀ {ys : List α}, a ∉ ys →
      (ys.flatMap fun x => if x = a then new else f x) = ys.flatMap f := by
    intro ys hys
    refine List.flatMap_congr fun x hx => if_neg ?_
    rintro rfl
    exact hys hx
  induction hn : xs.count a generalizing xs with
  | zero =>
    rw [hkeep (List.count_eq_zero.mp hn)]
    exact replaceAll_of_none hp (cutAt?_eq_none hp (by omega))
  | succ n ih =>
    have hm : a ∈ xs := List.count_pos_iff.mp (by omega)
    obtain ⟨ys, zs, rfl, hys⟩ := List.eq_append_cons_of_mem hm
    have hcount : (ys ++ a :: zs).count a = zs.count a + 1 := by
      rw [List.count_append, List.count_eq_zero.mpr hys, List.count_cons_self, Nat.zero_add]
    have htext : (ys ++ a :: zs).flatMap f = ys.flatMap f ++ (f a ++ zs.flatMap f) := by
      rw [List.flatMap_append, List.flatMap_cons]
    rw [htext] at h ⊢
    have hself := occurrences_append_self hp (zs.flatMap f)
    have hbefore := occurrences_le_append (f a) (ys.flatMap f) (f a ++ zs.flatMap f)
    have hrest := count_le_occurrences (f := f) hp zs
    have hcut : cutAt? (f a) (ys.flatMap f ++ (f a ++ zs.flatMap f)) =
        some (ys.flatMap f, zs.flatMap f) := cutAt?_of_occurrences (by omega)
    rw [replaceAll_of_some hp hcut, ih zs (by omega) (by omega), List.flatMap_append, hkeep hys,
      List.flatMap_cons, if_pos rfl, List.append_assoc]

end Text

namespace Tag

theorem mem_all (t : Tag) : t ∈ all := by
  cases t <;> decide

theorem toList_token_ne_nil (t : Tag) : t.token.toList ≠ [] := by
  cases t <;> decide

/-- Tokens do not overlap: in a text that begins with one, another one stands only behind it. -/
theorem occurrences_token (t u : Tag) (rest : List Char) :
    Text.occurrences t.token.toList (u.token.toList ++ rest) =
      if u = t then Text.occurrences t.token.toList rest + 1
      else Text.occurrences t.token.toList rest := by
  cases t <;> cases u <;> rfl

/-- The tag whose token a text begins with, and what follows. -/
def leading? (cs : List Char) : Option (Tag × List Char) :=
  (all.find? fun t => t.token.toList.isPrefixOf cs).map fun t => (t, cs.drop t.token.toList.length)

theorem leading?_eq_append {t : Tag} {cs rest : List Char} (h : leading? cs = some (t, rest)) :
    cs = t.token.toList ++ rest := by
  obtain ⟨u, hu, he⟩ := Option.map_eq_some_iff.mp h
  obtain ⟨rfl, rfl⟩ := Prod.mk.inj he
  have hpre := List.find?_some hu
  exact (List.prefix_iff_eq_append.mp (List.isPrefixOf_iff_prefix.mp hpre)).symm

theorem length_lt_of_leading? {t : Tag} {cs rest : List Char} (h : leading? cs = some (t, rest)) :
    rest.length < cs.length := by
  have hpos := List.length_pos_iff.mpr t.toList_token_ne_nil
  rw [leading?_eq_append h, List.length_append]
  omega

theorem not_prefix_of_leading? {cs : List Char} (h : leading? cs = none) (t : Tag) :
    ¬t.token.toList.isPrefixOf cs = true :=
  List.find?_eq_none.mp (Option.map_eq_none_iff.mp h) t t.mem_all

end Tag

namespace Template

/-- A character of a template, or one of its tags. -/
inductive Part where
  | mark (c : Char)
  | tag (t : Tag)
deriving Repr, DecidableEq

/-- A template cut at every token. -/
def parts (cs : List Char) : List Part :=
  match cs with
  | [] => []
  | c :: cs =>
    match h : Tag.leading? (c :: cs) with
    | none => .mark c :: parts cs
    | some (t, rest) =>
      have : rest.length ≤ cs.length := Nat.le_of_lt_succ (Tag.length_lt_of_leading? h)
      .tag t :: parts rest
termination_by cs.length

/-- What a part stands for when the tags in `done` have their values and the others their tokens. -/
def Part.fill (done : List Tag) (values : Tag.Values) : Part → List Char
  | .mark c => [c]
  | .tag t => if t ∈ done then (values t).toList else t.token.toList

/-- The template with the tags in `done` replaced by their values, all at once. -/
def filled (t : Template) (done : List Tag) (values : Tag.Values) : List Char :=
  (parts t.text.toList).flatMap (Part.fill done values)

/-- The parts of a template make up the template. -/
theorem flatMap_fill_parts (values : Tag.Values) (cs : List Char) :
    (parts cs).flatMap (Part.fill [] values) = cs := by
  fun_induction parts cs with
  | case1 => rfl
  | case2 c cs _ ih => exact congrArg (c :: ·) ih
  | case3 c cs t rest h _ ih =>
    rw [List.flatMap_cons, ih, Tag.leading?_eq_append h]
    rfl

/-- Every place where a token stands is one of the parts. -/
theorem count_parts (t : Tag) (cs : List Char) :
    (parts cs).count (.tag t) = Text.occurrences t.token.toList cs := by
  fun_induction parts cs with
  | case1 => rfl
  | case2 c cs h ih =>
    rw [List.count_cons_of_ne Part.noConfusion, ih, Text.occurrences,
      if_neg (Tag.not_prefix_of_leading? h t)]
  | case3 c cs u rest h _ ih =>
    rw [Tag.leading?_eq_append h, Tag.occurrences_token, ← ih]
    by_cases hu : u = t
    · rw [if_pos hu, hu, List.count_cons_self]
    · rw [if_neg hu, List.count_cons_of_ne fun he => hu (Part.tag.inj he)]

/-- Replacing the tags that come first makes no new token of a tag that is replaced later. -/
def Inert (t : Template) (values : Tag.Values) : Prop :=
  ∀ i : Fin t.tags.length,
    Text.occurrences t.tags[i].token.toList (t.filled (t.tags.take i) values) ≤
      Text.occurrences t.tags[i].token.toList t.text.toList

instance (t : Template) (values : Tag.Values) : Decidable (t.Inert values) :=
  inferInstanceAs (Decidable (∀ _ : Fin t.tags.length, _))

variable {t : Template} {values : Tag.Values}

theorem mem_tags_of_mem_parts {tag : Tag} (h : .tag tag ∈ parts t.text.toList) : tag ∈ t.tags := by
  refine List.mem_filter.mpr ⟨tag.mem_all, ?_⟩
  have hpos : 0 < Text.occurrences tag.token.toList t.text.toList := by
    rw [← count_parts]
    exact List.count_pos_iff.mpr h
  exact Text.occurs_of_occurrences_pos hpos

/-- With some tags replaced already, replacing one tag more gives its value to it and to nothing else, if
there are no new tokens of it. -/
theorem replaceAll_filled {done : List Tag} {tag : Tag} (hdone : tag ∉ done)
    (h : Text.occurrences tag.token.toList (t.filled done values) ≤
      Text.occurrences tag.token.toList t.text.toList) :
    Text.replaceAll tag.token.toList (values tag).toList (t.filled done values) =
      t.filled (done ++ [tag]) values := by
  have hfill : Part.fill done values (.tag tag) = tag.token.toList := if_neg hdone
  have hne : Part.fill done values (.tag tag) ≠ [] := by
    rw [hfill]
    exact tag.toList_token_ne_nil
  have hall := Text.replaceAll_flatMap hne (values tag).toList (parts t.text.toList)
    (by rw [hfill, count_parts]; exact h)
  rw [hfill] at hall
  refine hall.trans (List.flatMap_congr fun x _ => ?_)
  cases x with
  | mark c => rfl
  | tag u =>
    by_cases hu : u = tag
    · subst hu
      simp [Part.fill]
    · simp [Part.fill, hu]

theorem nodup_tags (t : Template) : t.tags.Nodup :=
  List.Pairwise.filter _ (by decide : Tag.all.Nodup)

/-- After any number of tags the text is the template with these tags replaced at once. -/
theorem foldl_replaced (h : t.Inert values) (n : Nat) (hn : n ≤ t.tags.length) :
    (t.tags.take n).foldl (fun text tag => Text.replaced text tag.token (values tag)) t.text =
      String.ofList (t.filled (t.tags.take n) values) := by
  induction n with
  | zero =>
    rw [List.take_zero, filled, flatMap_fill_parts, String.ofList_toList]
    rfl
  | succ n ih =>
    have hfresh : t.tags[n] ∉ t.tags.take n := by
      have hnodup := t.nodup_tags
      rw [← List.take_append_drop n t.tags, List.drop_eq_getElem_cons hn] at hnodup
      exact fun hm => (List.nodup_append.mp hnodup).2.2 _ hm _ (List.mem_cons_self ..) rfl
    rw [List.take_succ_eq_append_getElem hn, List.foldl_append, ih (Nat.le_of_lt hn)]
    rw [List.foldl_cons, List.foldl_nil, Text.replaced, String.toList_ofList,
      replaceAll_filled hfresh (h ⟨n, hn⟩)]

theorem filled_tags (t : Template) (values : Tag.Values) :
    t.filled t.tags values = t.filled Tag.all values := by
  refine List.flatMap_congr fun x hx => ?_
  cases x with
  | mark c => rfl
  | tag u => simp [Part.fill, mem_tags_of_mem_parts hx, u.mem_all]

/-- A prompt is its template with every token replaced by its value, and nothing else changed: what
stands in a value is left as it is, unless it makes a token of a tag that is replaced later. -/
theorem render_eq_filled (h : t.Inert values) :
    t.render values = String.ofList (t.filled Tag.all values) := by
  rw [← filled_tags, render]
  have hall := foldl_replaced h t.tags.length (Nat.le_refl _)
  rwa [List.take_length] at hall

/-- The value of a tag may hold the token of one that was replaced before, or half a token. -/
theorem render_eq_filled_statement :
    let t : Template := ⟨Tag.project.token ++ ": \x7b\x7bCON" ++ Tag.destination.token ++ Tag.error.token⟩
    let values := ((Tag.Values.none.set .destination "a(\x22\x7b\x7bERROR\x7d\x7d\x22);").set .project
      "\x7b\x7bCOUNT").set .context "unused"
    t.Inert values ∧
      t.render values = String.ofList (t.filled Tag.all values) ∧
      t.render values = "\x7b\x7bCOUNT: \x7b\x7bCONa(\x22\x7b\x7bERROR\x7d\x7d\x22);" := by
  intro t values
  have hinert : t.Inert values := by decide +kernel
  exact ⟨hinert, render_eq_filled hinert, by decide +kernel⟩

/-- The program that failed holds the token for the words of the compiler, and they are put into it. -/
theorem not_render_eq_filled_of_token :
    let t : Template := ⟨Tag.previous.token ++ " failed: " ++ Tag.error.token⟩
    let values := (Tag.Values.none.set .previous "log(\x22\x7b\x7bERROR\x7d\x7d\x22);").set .error "no log"
    t.render values = "log(\x22no log\x22); failed: no log" ∧
      String.ofList (t.filled Tag.all values) = "log(\x22\x7b\x7bERROR\x7d\x7d\x22); failed: no log" ∧
      ¬∀ (t : Template) (values : Tag.Values), t.render values = String.ofList (t.filled Tag.all values) := by
  intro t values
  have hrender : t.render values = "log(\x22no log\x22); failed: no log" := by decide +kernel
  have hfilled : String.ofList (t.filled Tag.all values) =
      "log(\x22\x7b\x7bERROR\x7d\x7d\x22); failed: no log" := by decide +kernel
  refine ⟨hrender, hfilled, fun hall => ?_⟩
  have heq := hall t values
  rw [hrender, hfilled] at heq
  exact absurd heq (by decide)

end Template

end PatchSearch
