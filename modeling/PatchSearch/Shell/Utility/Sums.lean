import PatchSearch.Shell.Digest
import PatchSearch.Shell.Number
import PatchSearch.Shell.Utility.Lines

namespace PatchSearch.Shell

section Checksums

/-- Compares files with the checksums that a file lists. -/
def checkDigests (c : Call) (a : Arguments) (digest : Text.Bytes → Text.Bytes) : Work Nat := do
  let mut wrong := 0
  let mut missing := 0
  let mut status := 0
  for listPath in Call.inputs a.operands do
    match ← c.read listPath with
    | .error e =>
      c.blame listPath e
      status := 1
    | .ok s =>
      for line in textLines s.finite do
        let sum := String.ofList (line.takeWhile (· ≠ ' '))
        let path := String.ofList (line.drop (sum.length + 2))
        match ← c.read path with
        | .error e =>
          c.blame path e
          if !a.has 'S' then Work.sayLine (path ++ ": FAILED open or read")
          missing := missing + 1
        | .ok content =>
          let same := Digest.hex (digest (Text.toBytes content.finite)) == sum
          if !a.has 'S' && !(same && a.has 'q') then
            Work.sayLine (path ++ (if same then ": OK" else ": FAILED"))
          if !same then wrong := wrong + 1
  let plural (n : Nat) (one many : String) : String := toString n ++ " " ++ if n = 1 then one else many
  if 0 < missing && !a.has 'S' then
    c.warn ("WARNING: " ++ plural missing "listed file could not be read" "listed files could not be read")
  if 0 < wrong && !a.has 'S' then
    c.warn ("WARNING: " ++ plural wrong "computed checksum did NOT match" "computed checksums did NOT match")
  return if wrong + missing = 0 then status else 1

def digestUtility (title : String) (digest : Text.Bytes → Text.Bytes) : Utility := fun c =>
  (OptionForm.mk "bctwz" "" [("check", 'c'), ("binary", 'b'), ("text", 't'), ("tag", 'T'), ("status", 'S'),
      ("quiet", 'q'), ("warn", 'w'), ("zero", 'z')] false).apply c 1 fun a => do
    if a.has 'c' then checkDigests c a digest
    else
      let complete ← c.eachInput a.operands fun path s => do
        let sum := Digest.hex (digest (Text.toBytes s.finite))
        Work.sayLine (if a.has 'T' then title ++ " (" ++ path ++ ") = " ++ sum
          else sum ++ (if a.has 'b' then " *" else "  ") ++ path)
      return if complete then 0 else 1

def cksum : Utility := fun c => do
  let complete ← c.eachInput c.args fun path s => do
    let bytes := Text.toBytes s.finite
    Work.sayLine (toString (Digest.crc bytes) ++ " " ++ toString bytes.length ++
      if c.args = [] then "" else " " ++ path)
  return if complete then 0 else 1

def sum : Utility := fun c => do
  let complete ← c.eachInput c.args fun path s => do
    let bytes := Text.toBytes s.finite
    let digits := (toString (Digest.sum bytes)).toList
    Work.say (List.replicate (5 - digits.length) '0' ++ digits ++ [' '] ++
      padLeft 5 (toString ((bytes.length + 1023) / 1024)).toList ++
      (if c.args = [] then [] else ' ' :: path.toList) ++ ['\n'])
  return if complete then 0 else 1

end Checksums

section Bases

/-- Letters that stand for groups of bits. -/
structure Base where
  letters : List Char
  /-- How many bits a letter stands for, and how many letters a whole group has. -/
  bits : Nat
  group : Nat

def base64Letters : Base :=
  ⟨"ABCDEFGHIJKLMNOPQRSTUVWXYZabcdefghijklmnopqrstuvwxyz0123456789+/".toList, 6, 4⟩

def base32Letters : Base :=
  ⟨"ABCDEFGHIJKLMNOPQRSTUVWXYZ234567".toList, 5, 8⟩

namespace Base

/-- The letters for one group of bytes. -/
def encodeGroup (b : Base) (bytes : Text.Bytes) : List Char :=
  let size := b.bits * b.group / 8
  let n := Digest.word (bytes ++ List.replicate (size - bytes.length) 0)
  let used := (8 * bytes.length + b.bits - 1) / b.bits
  (List.range b.group).map fun i =>
    if i < used then b.letters.getD (n / Nat.pow 2 (b.bits * (b.group - 1 - i)) % Nat.pow 2 b.bits) '=' else '='

def encode (b : Base) (bytes : Text.Bytes) : List Char :=
  (Digest.chunks (b.bits * b.group / 8) bytes).flatMap b.encodeGroup

/-- The bytes that letters stand for, and whether all could be read. -/
def decode (b : Base) (cs : List Char) : Text.Bytes × Bool :=
  let groups := Digest.chunks b.group (cs.filter (· ≠ '\n'))
  let one (st : List Text.Bytes × Bool) (group : List Char) : List Text.Bytes × Bool :=
    let (done, valid) := st
    if !valid then st
    else
      let values := (group.takeWhile (· ≠ '=')).map fun c => b.letters.idxOf? c
      let good := values.takeWhile Option.isSome
      let n := good.foldl (fun n v => n * Nat.pow 2 b.bits + v.getD 0) 0
      let bytes := b.bits * good.length / 8
      let value := n / Nat.pow 2 (b.bits * good.length - 8 * bytes)
      let whole := group.length = b.group && good.length = values.length &&
        (group.drop values.length).all (· == '=')
      (Digest.wordBytes bytes value :: done, whole)
  let (done, valid) := groups.foldl one ([], true)
  (done.reverse.flatten, valid)

end Base

def baseUtility (b : Base) : Utility := fun c =>
  (OptionForm.mk "di" "w" [("decode", 'd'), ("ignore-garbage", 'i'), ("wrap", 'w')] false).apply c 1 fun a => do
    match a.operands with
    | _ :: extra :: _ => c.misuse ("extra operand " ++ inQuotes extra) 1
    | operands =>
      let path := operands.headD "-"
      match ← c.read path with
      | .error e =>
        c.blame path e
        return 1
      | .ok s =>
        let cs := s.finite
        if a.has 'd' then
          let (bytes, valid) := b.decode (if a.has 'i' then cs.filter (b.letters ++ ['=']).contains else cs)
          Work.say (Text.ofBytes bytes)
          if valid then return 0 else c.fail "invalid input" 1
        else
          match natural? ((a.value? 'w').getD "76") with
          | none => c.fail ("invalid wrap size: " ++ inQuotes ((a.value? 'w').getD "")) 1
          | some width =>
            let letters := b.encode (Text.toBytes cs)
            Work.say (if width = 0 then letters else ofLines (Digest.chunks width letters))
            return 0

end Bases

section Dump

/-- How bytes are shown: in which base, or as characters, and how many make a number. -/
structure DumpForm where
  letter : Char
  size : Nat
  /-- Whether the characters follow at the end of the line. -/
  trailing : Bool

namespace DumpForm

def width (f : DumpForm) : Nat :=
  let digits (signed unsigned octal : Nat) : Nat :=
    if f.letter = 'd' then signed else if f.letter = 'u' then unsigned
    else if f.letter = 'o' then octal else if f.letter = 'x' then 2 * f.size else 3
  match f.size with
  | 1 => digits 4 3 3
  | 2 => digits 6 5 6
  | 4 => digits 11 10 11
  | _ => digits 20 20 22

/-- A byte as a character or the escape for it. -/
def characterText (b : UInt8) : List Char :=
  let n := b.toNat
  match n with
  | 0 => ['\\', '0']
  | 7 => ['\\', 'a']
  | 8 => ['\\', 'b']
  | 9 => ['\\', 't']
  | 10 => ['\\', 'n']
  | 11 => ['\\', 'v']
  | 12 => ['\\', 'f']
  | 13 => ['\\', 'r']
  | n =>
    if 32 ≤ n ∧ n < 127 then [Char.ofNat n]
    else
      let ds := Nat.toDigits 8 n
      List.replicate (3 - ds.length) '0' ++ ds

def controlNames : List String :=
  ["nul", "soh", "stx", "etx", "eot", "enq", "ack", "bel", "bs", "ht", "nl", "vt", "ff", "cr", "so", "si",
    "dle", "dc1", "dc2", "dc3", "dc4", "nak", "syn", "etb", "can", "em", "sub", "esc", "fs", "gs", "rs", "us", "sp"]

/-- The text of one number, whose lowest byte comes first. -/
def text (f : DumpForm) (bytes : Text.Bytes) : List Char :=
  let n := Digest.word bytes.reverse
  let filled (base : Nat) : List Char :=
    let ds := Nat.toDigits base n
    List.replicate (f.width - ds.length) '0' ++ ds
  if f.letter = 'c' then characterText (bytes.headD 0)
  else if f.letter = 'a' then
    let n := (bytes.headD 0).toNat % 128
    if n = 127 then "del".toList else ((controlNames[n]?).getD (String.singleton (Char.ofNat n))).toList
  else if f.letter = 'x' then filled 16
  else if f.letter = 'o' then filled 8
  else if f.letter = 'u' then (toString n).toList
  else
    let all := Nat.pow 256 f.size
    if n < all / 2 then (toString n).toList else '-' :: (toString (all - n)).toList

/-- One line of numbers, `perBlock` bytes wide at most, with room that other forms need. -/
def line (f : DumpForm) (perBlock room : Nat) (bytes : Text.Bytes) : List Char :=
  let fields := perBlock / f.size
  let pad := room - fields * (f.width + 1)
  let groups := Digest.chunks f.size bytes
  let cells := ((List.range groups.length).zip groups).flatMap fun (i, group) =>
    let left := fields - i
    let before := pad * left / fields - pad * (left - 1) / fields
    padLeft (before + f.width + 1) (f.text (group ++ List.replicate (f.size - group.length) 0))
  if f.trailing then
    let printable (b : UInt8) : Char := if 32 ≤ b.toNat ∧ b.toNat < 127 then Char.ofNat b.toNat else '.'
    cells ++ List.replicate (room - cells.length) ' ' ++ "  >".toList ++ bytes.map printable ++ ['<']
  else cells

/-- Reads forms as options give them, such as `x1` or `cd2`. -/
def read? : (left : Nat) → List Char → Option (List DumpForm)
  | 0, _ => none
  | _, [] => some []
  | left + 1, c :: cs =>
    if !"acdoux".toList.contains c then none
    else
      let ds := cs.takeWhile Char.isDigit
      let rest := cs.drop ds.length
      let named := match rest with
        | 'C' :: rest => some (1, rest)
        | 'S' :: rest => some (2, rest)
        | 'I' :: rest => some (4, rest)
        | 'L' :: rest => some (8, rest)
        | _ => none
      let (size, rest) :=
        if c = 'a' ∨ c = 'c' then (1, rest)
        else match (String.ofList ds).toNat? with
          | some n => (n, rest)
          | none => named.getD (4, rest)
      let (trailing, rest) := match rest with
        | 'z' :: rest => (true, rest)
        | rest => (false, rest)
      if !([1, 2, 4, 8].contains size) then none
      else (read? left rest).map fun more => ⟨c, size, trailing⟩ :: more

def ofLetter (letter : Char) : List DumpForm :=
  match letter with
  | 'a' => [⟨'a', 1, false⟩]
  | 'b' => [⟨'o', 1, false⟩]
  | 'c' => [⟨'c', 1, false⟩]
  | 'd' => [⟨'u', 2, false⟩]
  | 'i' => [⟨'d', 4, false⟩]
  | 'l' => [⟨'d', 8, false⟩]
  | 'o' => [⟨'o', 2, false⟩]
  | 's' => [⟨'d', 2, false⟩]
  | 'x' => [⟨'x', 2, false⟩]
  | _ => []

end DumpForm

/-- An address in the base that an option asks for. -/
def dumpAddress (base : Char) (n : Nat) : List Char :=
  let (radix, width) := if base = 'd' then (10, 7) else if base = 'x' then (16, 6) else (8, 7)
  let ds := Nat.toDigits radix n
  if base = 'n' then [] else List.replicate (width - ds.length) '0' ++ ds

def od : Utility := fun c =>
  (OptionForm.mk "abcdilosxv" "AjNtwS" [("address-radix", 'A'), ("skip-bytes", 'j'), ("read-bytes", 'N'),
      ("format", 't'), ("output-duplicates", 'v'), ("width", 'w')] false).apply c 1 fun a => do
    let forms? : Option (List (List DumpForm)) := a.options.mapM fun (letter, value) =>
      if letter = 't' then DumpForm.read? (value.length + 1) value.toList else some (DumpForm.ofLetter letter)
    match forms? with
    | none => c.fail ("invalid type string " ++ inQuotes ((a.value? 't').getD "")) 1
    | some forms =>
      let forms := if forms.flatten.isEmpty then DumpForm.ofLetter 'o' else forms.flatten
      let base := ((a.value? 'A').getD "o").toList.headD 'o'
      let number (letter : Char) : Option Nat := (a.value? letter).bind natural?
      let perBlock := max 1 ((number 'w').getD 16)
      let (cs, complete) ← c.readAll a.operands
      let skipped := min ((number 'j').getD 0) cs.length
      let bytes := (Text.toBytes (cs.drop skipped)).take ((number 'N').getD cs.length)
      let room := forms.foldl (fun n f => max n (perBlock / f.size * (f.width + 1))) 0
      let indent := List.replicate (dumpAddress base 0).length ' '
      let lines (offset : Nat) (block : Text.Bytes) : List Char :=
        ((List.range forms.length).zip forms).flatMap fun (i, f) =>
          (if i = 0 then dumpAddress base offset else indent) ++ f.line perBlock room block ++ ['\n']
      let step (st : List (List Char) × Nat × Option Text.Bytes × Bool) (block : Text.Bytes) :
          List (List Char) × Nat × Option Text.Bytes × Bool :=
        let (done, offset, previous, starred) := st
        if previous = some block ∧ !a.has 'v' ∧ block.length = perBlock ∧
            offset + perBlock < skipped + bytes.length then
          (if starred then done else ['*', '\n'] :: done, offset + block.length, previous, true)
        else (lines offset block :: done, offset + block.length, some block, false)
      let (done, offset, _, _) := (Digest.chunks perBlock bytes).foldl step ([], skipped, none, false)
      Work.say done.reverse.flatten
      if base ≠ 'n' ∧ (complete ∨ bytes ≠ []) then Work.say (dumpAddress base offset ++ ['\n'])
      return if complete then 0 else 1

end Dump

def sumUtility? : String → Option Utility
  | "md5sum" => some (digestUtility "MD5" Digest.md5)
  | "sha1sum" => some (digestUtility "SHA1" Digest.sha1)
  | "sha224sum" => some (digestUtility "SHA224" Digest.sha224.digest)
  | "sha256sum" => some (digestUtility "SHA256" Digest.sha256.digest)
  | "sha384sum" => some (digestUtility "SHA384" Digest.sha384.digest)
  | "sha512sum" => some (digestUtility "SHA512" Digest.sha512.digest)
  | "cksum" => some cksum
  | "sum" => some sum
  | "base64" => some (baseUtility base64Letters)
  | "base32" => some (baseUtility base32Letters)
  | "od" => some od
  | _ => none

end PatchSearch.Shell
