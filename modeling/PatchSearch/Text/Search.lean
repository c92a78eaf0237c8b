namespace PatchSearch.Text

/-- The text before the first occurrence of `pat` and the text after it. -/
def cutAt? (pat : List Char) : List Char → Option (List Char × List Char)
  | [] => if pat = [] then some ([], []) else none
  | c :: cs =>
    if pat.isPrefixOf (c :: cs) then some ([], (c :: cs).drop pat.length)
    else (cutAt? pat cs).map fun (before, after) => (c :: before, after)

theorem cutAt?_eq_append {pat cs before after : List Char} (h : cutAt? pat cs = some (before, after)) :
    cs = before ++ pat ++ after := by
  induction cs generalizing before after with
  | nil =>
    rw [cutAt?] at h
    split at h <;> simp_all
  | cons c cs ih =>
    rw [cutAt?] at h
    split at h
    next hp =>
      obtain ⟨rfl, rfl⟩ := Prod.mk.inj (Option.some.inj h)
      obtain ⟨rest, hr⟩ := List.isPrefixOf_iff_prefix.mp hp
      simp [← hr]
    next =>
      obtain ⟨⟨b, a⟩, hc, he⟩ := Option.map_eq_some_iff.mp h
      obtain ⟨rfl, rfl⟩ := Prod.mk.inj he
      simp [ih hc]

theorem length_of_cutAt? {pat cs before after : List Char}
    (h : cutAt? pat cs = some (before, after)) :
    after.length + pat.length + before.length = cs.length := by
  rw [cutAt?_eq_append h]
  simp only [List.length_append]
  omega

/-- Whether `pat` occurs in the text. -/
def occurs (pat cs : List Char) : Bool :=
  (cutAt? pat cs).isSome

/-- The pieces between the occurrences of `pat`, taken from the left without overlap. -/
def splitAt (pat cs : List Char) : List (List Char) :=
  if hp : pat = [] then [cs]
  else
    match h : cutAt? pat cs with
    | none => [cs]
    | some (before, after) =>
      have : after.length < cs.length := by
        have := length_of_cutAt? h
        have := List.length_pos_iff.mpr hp
        omega
      before :: splitAt pat after
termination_by cs.length

/-- The text with every occurrence of `pat` replaced by `new`. -/
def replaceAll (pat new cs : List Char) : List Char :=
  new.intercalate (splitAt pat cs)

/-- Whether `pat` occurs in `s`. -/
def contains (s pat : String) : Bool :=
  occurs pat.toList s.toList

/-- `s` with every occurrence of `pat` replaced by `new`. -/
def replaced (s pat new : String) : String :=
  String.ofList (replaceAll pat.toList new.toList s.toList)

end PatchSearch.Text
