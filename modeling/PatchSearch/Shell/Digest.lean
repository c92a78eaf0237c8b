import PatchSearch.Text.Utf8

namespace PatchSearch.Shell.Digest

open Text (Bytes)

/-- Parts of `n` members, the last one perhaps shorter; at most `left` parts. -/
def chunksWithin {α : Type} (n : Nat) : (left : Nat) → List α → List (List α)
  | 0, _ => []
  | _, [] => []
  | left + 1, xs => xs.take n :: chunksWithin n left (xs.drop n)

def chunks {α : Type} (n : Nat) (xs : List α) : List (List α) :=
  chunksWithin n xs.length xs

/-- A word from its bytes, the highest one first. -/
def word (bytes : Bytes) : Nat :=
  bytes.foldl (fun n b => n * 256 + b.toNat) 0

/-- The bytes of a word, the highest one first. -/
def wordBytes (size n : Nat) : Bytes :=
  (List.range size).map fun i => (n / Nat.pow 256 (size - 1 - i)).toUInt8

def turn (width count x : Nat) : Nat :=
  (x / Nat.pow 2 count + x * Nat.pow 2 (width - count)) % Nat.pow 2 width

/-- A message with a mark, zeros up to whole blocks, and its length in bits at the end. -/
def padded (block size : Nat) (lowFirst : Bool) (message : Bytes) : Bytes :=
  let used := (message.length + 1 + size) % block
  let zeros := if used = 0 then 0 else block - used
  let length := wordBytes size (8 * message.length)
  message ++ 0x80 :: (List.replicate zeros 0 ++ if lowFirst then length.reverse else length)

section Md5

def md5Constants : Array Nat :=
  #[0xd76aa478, 0xe8c7b756, 0x242070db, 0xc1bdceee, 0xf57c0faf, 0x4787c62a, 0xa8304613, 0xfd469501,
    0x698098d8, 0x8b44f7af, 0xffff5bb1, 0x895cd7be, 0x6b901122, 0xfd987193, 0xa679438e, 0x49b40821,
    0xf61e2562, 0xc040b340, 0x265e5a51, 0xe9b6c7aa, 0xd62f105d, 0x02441453, 0xd8a1e681, 0xe7d3fbc8,
    0x21e1cde6, 0xc33707d6, 0xf4d50d87, 0x455a14ed, 0xa9e3e905, 0xfcefa3f8, 0x676f02d9, 0x8d2a4c8a,
    0xfffa3942, 0x8771f681, 0x6d9d6122, 0xfde5380c, 0xa4beea44, 0x4bdecfa9, 0xf6bb4b60, 0xbebfbc70,
    0x289b7ec6, 0xeaa127fa, 0xd4ef3085, 0x04881d05, 0xd9d4d039, 0xe6db99e5, 0x1fa27cf8, 0xc4ac5665,
    0xf4292244, 0x432aff97, 0xab9423a7, 0xfc93a039, 0x655b59c3, 0x8f0ccc92, 0xffeff47d, 0x85845dd1,
    0x6fa87e4f, 0xfe2ce6e0, 0xa3014314, 0x4e0811a1, 0xf7537e82, 0xbd3af235, 0x2ad7d2bb, 0xeb86d391]

def md5Turns : Array Nat :=
  #[7, 12, 17, 22, 5, 9, 14, 20, 4, 11, 16, 23, 6, 10, 15, 21]

/-- The bits that are not set. -/
def inverse (width x : Nat) : Nat :=
  Nat.pow 2 width - 1 - x

def md5Block (state : Nat × Nat × Nat × Nat) (block : Bytes) : Nat × Nat × Nat × Nat :=
  let words := ((chunks 4 block).map fun bs => word bs.reverse).toArray
  let all := Nat.pow 2 32
  let step (st : Nat × Nat × Nat × Nat) (i : Nat) : Nat × Nat × Nat × Nat :=
    let (a, b, c, d) := st
    let (f, k) :=
      if i < 16 then ((b &&& c) ||| (inverse 32 b &&& d), i)
      else if i < 32 then ((d &&& b) ||| (inverse 32 d &&& c), (5 * i + 1) % 16)
      else if i < 48 then (b ^^^ c ^^^ d, (3 * i + 5) % 16)
      else (c ^^^ (b ||| inverse 32 d), 7 * i % 16)
    let sum := (a + f + md5Constants.getD i 0 + words.getD k 0) % all
    (d, (b + turn 32 (32 - md5Turns.getD (i / 16 * 4 + i % 4) 0) sum) % all, b, c)
  let (a, b, c, d) := state
  let (a1, b1, c1, d1) := (List.range 64).foldl step state
  ((a + a1) % all, (b + b1) % all, (c + c1) % all, (d + d1) % all)

def md5 (message : Bytes) : Bytes :=
  let (a, b, c, d) := (chunks 64 (padded 64 8 true message)).foldl md5Block
    (0x67452301, 0xefcdab89, 0x98badcfe, 0x10325476)
  [a, b, c, d].flatMap fun w => (wordBytes 4 w).reverse

end Md5

section Sha

/-- Words with each new one made from those before it. -/
def schedule (next : Array Nat → Nat → Nat) (count : Nat) (start : Array Nat) : Array Nat :=
  (List.range (count - start.size)).foldl (fun ws _ => ws.push (next ws ws.size)) start

def sha1Block (state : List Nat) (block : Bytes) : List Nat :=
  let all := Nat.pow 2 32
  let ws := schedule (fun ws i => turn 32 31 (ws.getD (i - 3) 0 ^^^ ws.getD (i - 8) 0 ^^^
    ws.getD (i - 14) 0 ^^^ ws.getD (i - 16) 0)) 80 ((chunks 4 block).map word).toArray
  let step (st : List Nat) (i : Nat) : List Nat :=
    match st with
    | [a, b, c, d, e] =>
      let (f, k) :=
        if i < 20 then ((b &&& c) ||| (inverse 32 b &&& d), 0x5a827999)
        else if i < 40 then (b ^^^ c ^^^ d, 0x6ed9eba1)
        else if i < 60 then ((b &&& c) ||| (b &&& d) ||| (c &&& d), 0x8f1bbcdc)
        else (b ^^^ c ^^^ d, 0xca62c1d6)
      [(turn 32 27 a + f + e + k + ws.getD i 0) % all, a, turn 32 2 b, c, d]
    | st => st
  (state.zip ((List.range 80).foldl step state)).map fun (x, y) => (x + y) % all

def sha1 (message : Bytes) : Bytes :=
  ((chunks 64 (padded 64 8 false message)).foldl sha1Block
    [0x67452301, 0xefcdab89, 0x98badcfe, 0x10325476, 0xc3d2e1f0]).flatMap (wordBytes 4)

/-- The largest number whose power is at most `n`, between `low` and `low + 2 ^ left - 1`. -/
def rootFrom (power n : Nat) : (left low : Nat) → Nat
  | 0, low => low
  | left + 1, low =>
    let middle := low + Nat.pow 2 left
    rootFrom power n left (if Nat.pow middle power ≤ n then middle else low)

/-- The first `width` binary places of a root of a number. -/
def rootPlaces (power width n : Nat) : Nat :=
  rootFrom power (n * Nat.pow 2 (power * width)) (width + 8) 0 % Nat.pow 2 width

def primes : List Nat :=
  (List.range 410).filter fun n => 2 ≤ n && (List.range n).all fun d => d < 2 || n % d != 0

/-- One of a family of checksums that differ in their sizes. -/
structure Sha where
  width : Nat
  rounds : Nat
  /-- How far words are turned, the last number of a line by which they are only moved. -/
  first : Nat × Nat × Nat
  second : Nat × Nat × Nat
  large : Nat × Nat × Nat
  small : Nat × Nat × Nat
  start : List Nat
  /-- How many bytes are kept. -/
  size : Nat

def Sha.block (s : Sha) (constants : Array Nat) (state : List Nat) (block : Bytes) : List Nat :=
  let all := Nat.pow 2 s.width
  let turned (t : Nat × Nat × Nat) (x : Nat) : Nat :=
    turn s.width t.1 x ^^^ turn s.width t.2.1 x ^^^ turn s.width t.2.2 x
  let moved (t : Nat × Nat × Nat) (x : Nat) : Nat :=
    turn s.width t.1 x ^^^ turn s.width t.2.1 x ^^^ x / Nat.pow 2 t.2.2
  let ws := schedule (fun ws i => (moved s.second (ws.getD (i - 2) 0) + ws.getD (i - 7) 0 +
    moved s.first (ws.getD (i - 15) 0) + ws.getD (i - 16) 0) % all) s.rounds
    ((chunks (s.width / 8) block).map word).toArray
  let step (st : List Nat) (i : Nat) : List Nat :=
    match st with
    | [a, b, c, d, e, f, g, h] =>
      let choice := (e &&& f) ^^^ (inverse s.width e &&& g)
      let majority := (a &&& b) ^^^ (a &&& c) ^^^ (b &&& c)
      let one := h + turned s.large e + choice + constants.getD i 0 + ws.getD i 0
      [(one + turned s.small a + majority) % all, a, b, c, (d + one) % all, e, f, g]
    | st => st
  (state.zip ((List.range s.rounds).foldl step state)).map fun (x, y) => (x + y) % all

def Sha.digest (s : Sha) (message : Bytes) : Bytes :=
  let constants := ((primes.take s.rounds).map (rootPlaces 3 s.width)).toArray
  (((chunks (2 * s.width) (padded (2 * s.width) (s.width / 4) false message)).foldl (s.block constants)
    s.start).flatMap (wordBytes (s.width / 8))).take s.size

def sha256 : Sha where
  width := 32
  rounds := 64
  first := (7, 18, 3)
  second := (17, 19, 10)
  large := (6, 11, 25)
  small := (2, 13, 22)
  start := (primes.take 8).map (rootPlaces 2 32)
  size := 32

def sha512 : Sha where
  width := 64
  rounds := 80
  first := (1, 8, 7)
  second := (19, 61, 6)
  large := (14, 18, 41)
  small := (28, 34, 39)
  start := (primes.take 8).map (rootPlaces 2 64)
  size := 64

def sha384 : Sha :=
  { sha512 with start := ((primes.drop 8).take 8).map (rootPlaces 2 64), size := 48 }

def sha224 : Sha :=
  { sha256 with start := ((primes.drop 8).take 8).map fun p => rootPlaces 2 64 p % Nat.pow 2 32, size := 28 }

end Sha

section Sums

/-- The remainder of a text of bits by a polynomial. -/
def crcBytes (bytes : Bytes) (start : Nat) : Nat :=
  let bit (n : Nat) (_ : Nat) : Nat :=
    if Nat.pow 2 31 ≤ n then (n * 2 ^^^ 0x04c11db7) % Nat.pow 2 32 else n * 2
  bytes.foldl (fun n b => (List.range 8).foldl bit (n ^^^ b.toNat * Nat.pow 2 24)) start

/-- The bytes of a number, the lowest one first, without zeros at the end. -/
def lengthBytes : (left : Nat) → Nat → Bytes
  | 0, _ => []
  | left + 1, n => if n = 0 then [] else n.toUInt8 :: lengthBytes left (n / 256)

def crc (message : Bytes) : Nat :=
  inverse 32 (crcBytes (lengthBytes 8 message.length) (crcBytes message 0))

/-- A sum of sixteen bits that is turned before each byte. -/
def sum (message : Bytes) : Nat :=
  message.foldl (fun n b => (turn 16 1 n + b.toNat) % Nat.pow 2 16) 0

end Sums

def hex (bytes : Bytes) : String :=
  String.ofList (bytes.flatMap fun b => [Nat.digitChar (b.toNat / 16), Nat.digitChar (b.toNat % 16)])

end PatchSearch.Shell.Digest
