namespace PatchSearch.Text

/-- The characters with the Unicode property `White_Space`. -/
def isBlank (c : Char) : Bool :=
  let n := c.toNat
  (9 ≤ n && n ≤ 13) || n == 0x20 || n == 0x85 || n == 0xa0 || n == 0x1680 ||
    (0x2000 ≤ n && n ≤ 0x200a) || n == 0x2028 || n == 0x2029 || n == 0x202f || n == 0x205f ||
    n == 0x3000

/-- What is left without the blanks at the end. -/
def trimEnd (cs : List Char) : List Char :=
  (cs.reverse.dropWhile isBlank).reverse

/-- What is left without the blanks at either end. -/
def trim (cs : List Char) : List Char :=
  trimEnd (cs.dropWhile isBlank)

/-- The runs between the characters of a class; there is always one more run than cuts. -/
def splitWhen (cut : Char → Bool) : List Char → List (List Char)
  | [] => [[]]
  | c :: cs =>
    if cut c then [] :: splitWhen cut cs
    else
      match splitWhen cut cs with
      | [] => [[c]]
      | run :: runs => (c :: run) :: runs

/-- The non-empty runs between blanks. -/
def words (cs : List Char) : List (List Char) :=
  (splitWhen isBlank cs).filter (· ≠ [])

/-- The words of a text with one space between neighbours. -/
def oneLine (s : String) : String :=
  String.ofList ([' '].intercalate (words s.toList))

/-- A text without the blanks at either end. -/
def trimmed (s : String) : String :=
  String.ofList (trim s.toList)

/-- A text without the blanks at its end. -/
def trimmedEnd (s : String) : String :=
  String.ofList (trimEnd s.toList)

def isBlankText (s : String) : Bool :=
  s.toList.all isBlank

theorem splitWhen_ne_nil (cut : Char → Bool) (cs : List Char) : splitWhen cut cs ≠ [] := by
  cases cs with
  | nil => simp [splitWhen]
  | cons c cs => rw [splitWhen]; split; simp; split <;> simp

theorem trimEnd_append_blank {cs : List Char} {c : Char} (h : isBlank c = true) :
    trimEnd (cs ++ [c]) = trimEnd cs := by
  simp [trimEnd, h]

theorem trimEnd_append_mark {cs : List Char} {c : Char} (h : isBlank c = false) :
    trimEnd (cs ++ [c]) = cs ++ [c] := by
  simp [trimEnd, h]

theorem trimEnd_of_last {cs : List Char} (h : ∀ c ∈ cs.getLast?, isBlank c = false) :
    trimEnd cs = cs := by
  cases hc : cs.reverse with
  | nil => simp_all [trimEnd]
  | cons d ds =>
    have hd : isBlank d = false := h d (by simp [← List.head?_reverse, hc])
    simp [trimEnd, hc, hd, ← List.reverse_eq_iff.mp hc]

theorem trim_of_first {cs : List Char} (h : ∀ c ∈ cs.head?, isBlank c = false) :
    trim cs = trimEnd cs := by
  cases cs with
  | nil => rfl
  | cons c cs =>
    have hc : isBlank c = false := h c rfl
    simp [trim, hc]

/-- There is no blank at either end. -/
def IsBordered (cs : List Char) : Prop :=
  (∀ c ∈ cs.head?, isBlank c = false) ∧ ∀ c ∈ cs.getLast?, isBlank c = false

theorem isBlank_of_head?_dropWhile {cs : List Char} {c : Char}
    (h : (cs.dropWhile isBlank).head? = some c) : isBlank c = false := by
  have hnot := List.head?_dropWhile_not isBlank cs
  rw [h] at hnot
  simpa using hnot

theorem isBordered_trim (cs : List Char) : IsBordered (trim cs) := by
  refine ⟨fun c hc => ?_, fun c hc => ?_⟩
  · have hsuffix := List.dropWhile_suffix isBlank (l := (cs.dropWhile isBlank).reverse)
    obtain ⟨rest, hrest⟩ : trim cs <+: cs.dropWhile isBlank := by
      simpa [trim, trimEnd] using List.reverse_prefix.mpr hsuffix
    refine @isBlank_of_head?_dropWhile cs _ ?_
    rw [← hrest, List.head?_append, Option.mem_def.mp hc, Option.some_or]
  · rw [trim, trimEnd, List.getLast?_reverse] at hc
    exact isBlank_of_head?_dropWhile hc

theorem trimmed_of_isBordered {s : String} (h : IsBordered s.toList) : trimmed s = s := by
  rw [trimmed, trim_of_first h.1, trimEnd_of_last h.2, String.ofList_toList]

theorem isBordered_trimmed (s : String) : IsBordered (trimmed s).toList := by
  rw [trimmed, String.toList_ofList]
  exact isBordered_trim _

theorem trim_append_blank {cs : List Char} {c : Char} (h : isBlank c = true) :
    trim (cs ++ [c]) = trim cs := by
  unfold trim
  rw [List.dropWhile_append]
  split
  next he =>
    rw [List.isEmpty_iff.mp he]
    simp [h]
  next => exact trimEnd_append_blank h

end PatchSearch.Text
