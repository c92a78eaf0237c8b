namespace PatchSearch.Text

abbrev Bytes := List UInt8

/-- The bytes of a text. -/
def encode (s : String) : Bytes :=
  s.toUTF8.toList

/-- The text that bytes denote, if they are UTF-8. -/
def decode? (bytes : Bytes) : Option String :=
  String.fromUTF8? bytes.toByteArray

/-- What stands for bytes that are no character. -/
def replacement : Char := Char.ofNat 0xfffd

/-- The values that the second byte of a character can have after the first. -/
def secondBytes (first : Nat) : Nat × Nat :=
  if first = 0xe0 then (0xa0, 0xbf)
  else if first = 0xed then (0x80, 0x9f)
  else if first = 0xf0 then (0x90, 0xbf)
  else if first = 0xf4 then (0x80, 0x8f)
  else (0x80, 0xbf)

/-- The rest of a character of which `missing` bytes are to come and `code` is known. -/
def decodeRest : (missing code : Nat) → Bytes → Char × Bytes
  | 0, code, bytes => (Char.ofNat code, bytes)
  | _ + 1, _, [] => (replacement, [])
  | missing + 1, code, b :: bytes =>
    if 0x80 ≤ b.toNat ∧ b.toNat ≤ 0xbf then
      decodeRest missing (code * 64 + (b.toNat - 0x80)) bytes
    else (replacement, b :: bytes)

/-- The first character of bytes that begin with `b`, and the bytes behind it. -/
def decodeNext (b : UInt8) (bytes : Bytes) : Char × Bytes :=
  let n := b.toNat
  if n < 0x80 then (Char.ofNat n, bytes)
  else if n < 0xc2 ∨ 0xf4 < n then (replacement, bytes)
  else
    match bytes with
    | [] => (replacement, [])
    | c :: rest =>
      let (low, high) := secondBytes n
      if low ≤ c.toNat ∧ c.toNat ≤ high then
        let missing := if n < 0xe0 then 0 else if n < 0xf0 then 1 else 2
        let head := if n < 0xe0 then n - 0xc0 else if n < 0xf0 then n - 0xe0 else n - 0xf0
        decodeRest missing (head * 64 + (c.toNat - 0x80)) rest
      else (replacement, bytes)

theorem length_decodeRest_le (missing code : Nat) (bytes : Bytes) :
    (decodeRest missing code bytes).2.length ≤ bytes.length := by
  fun_induction decodeRest missing code bytes with
  | case1 => simp
  | case2 => simp
  | case3 _ _ _ _ _ ih => simp only [List.length_cons]; omega
  | case4 => simp

theorem length_decodeNext_le (b : UInt8) (bytes : Bytes) :
    (decodeNext b bytes).2.length ≤ bytes.length := by
  unfold decodeNext
  dsimp only
  split
  · simp
  · split
    · simp
    · split
      · simp
      · split
        · exact Nat.le_trans (length_decodeRest_le _ _ _) (by simp)
        · simp

/-- The characters of bytes, with replacement characters where they are no UTF-8. -/
def decodeChars (bytes : Bytes) : List Char :=
  match bytes with
  | [] => []
  | b :: bytes =>
    have := length_decodeNext_le b bytes
    (decodeNext b bytes).1 :: decodeChars (decodeNext b bytes).2
termination_by bytes.length

/-- The text of bytes, with replacement characters where they are no UTF-8. -/
def decodeLossy (bytes : Bytes) : String :=
  String.ofList (decodeChars bytes)

end PatchSearch.Text
