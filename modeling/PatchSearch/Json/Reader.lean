import PatchSearch.Json.Number

namespace PatchSearch.Json

inductive Token where
  | beginArray
  | endArray
  | beginObject
  | endObject
  | comma
  | colon
  | text (s : String)
  /-- A text with half of a surrogate pair. -/
  | brokenText
  /-- A value without parts that is no text. -/
  | scalar (j : Json)

inductive TextUnit where
  | char (c : Char)
  /-- Sixteen bits written in hexadecimal. -/
  | unit (n : Nat)
deriving Repr, DecidableEq

def hexDigit? (c : Char) : Option Nat :=
  if '0' ≤ c ∧ c ≤ '9' then some (c.toNat - '0'.toNat)
  else if 'a' ≤ c ∧ c ≤ 'f' then some (c.toNat - 'a'.toNat + 10)
  else if 'A' ≤ c ∧ c ≤ 'F' then some (c.toNat - 'A'.toNat + 10)
  else none

def digit? (c : Char) : Option Nat :=
  if '0' ≤ c ∧ c ≤ '9' then some (c.toNat - '0'.toNat) else none

/-- The character that a one-letter escape stands for. -/
def escaped? (c : Char) : Option Char :=
  if c = '\x22' ∨ c = '\\' ∨ c = '/' then some c
  else if c = 'b' then some '\x08'
  else if c = 'f' then some '\x0c'
  else if c = 'n' then some '\x0a'
  else if c = 'r' then some '\x0d'
  else if c = 't' then some '\x09'
  else none

/-- The sixteen bits of four hexadecimal digits. -/
def fourHex? (a b c d : Char) : Option Nat := do
  return (((← hexDigit? a) * 16 + (← hexDigit? b)) * 16 + (← hexDigit? c)) * 16 + (← hexDigit? d)

/-- The units of a text up to its closing quote, and what follows. -/
def units? : List Char → Option (List TextUnit × List Char)
  | [] => none
  | '\\' :: 'u' :: a :: b :: c :: d :: cs => do
    let n ← fourHex? a b c d
    let (us, rest) ← units? cs
    return (.unit n :: us, rest)
  | '\\' :: c :: cs => do
    let e ← escaped? c
    let (us, rest) ← units? cs
    return (.char e :: us, rest)
  | c :: cs =>
    if c = '\x22' then some ([], cs)
    else if c = '\\' ∨ c.toNat < 0x20 then none
    else do
      let (us, rest) ← units? cs
      return (.char c :: us, rest)

/-- The characters of a text. A pair of surrogates is one character, half of a pair is none. -/
def decodeUnits? : List TextUnit → Option (List Char)
  | [] => some []
  | .char c :: us => (decodeUnits? us).map (c :: ·)
  | .unit n :: us =>
    if n < 0xd800 ∨ 0xe000 ≤ n then (decodeUnits? us).map (Char.ofNat n :: ·)
    else
      match us with
      | .unit m :: vs =>
        if n < 0xdc00 ∧ 0xdc00 ≤ m ∧ m < 0xe000 then
          (decodeUnits? vs).map (Char.ofNat (0x10000 + (n - 0xd800) * 0x400 + (m - 0xdc00)) :: ·)
        else none
      | _ => none

def digits : List Char → List Nat × List Char
  | [] => ([], [])
  | c :: cs =>
    match digit? c with
    | some d =>
      let (ds, rest) := digits cs
      (d :: ds, rest)
    | none => ([], c :: cs)

def valueOfDigits (ds : List Nat) : Nat :=
  ds.foldl (fun n d => n * 10 + d) 0

/-- The fraction of a number, and what follows. A point needs a digit behind it. -/
def fraction? (cs : List Char) : Option (List Nat × List Char) :=
  match cs with
  | '.' :: rest =>
    let (ds, after) := digits rest
    if ds = [] then none else some (ds, after)
  | _ => some ([], cs)

def exponent? (cs : List Char) : Option (Option Int × List Char) :=
  match cs with
  | [] => some (none, [])
  | c :: rest =>
    if c = 'e' ∨ c = 'E' then
      let (negative, rest) := match rest with
        | '+' :: r => (false, r)
        | '-' :: r => (true, r)
        | r => (false, r)
      let (ds, after) := digits rest
      if ds = [] then none
      else
        let n : Int := valueOfDigits ds
        some (some (if negative then -n else n), after)
    else some (none, cs)

/-- A number without its sign, and what follows. The first digit is zero only if it stands alone. -/
def numeral? (negative : Bool) (cs : List Char) : Option (Numeral × List Char) := do
  let (whole, rest) ←
    match cs with
    | '0' :: cs => some ([0], cs)
    | cs =>
      let (ds, rest) := digits cs
      if ds = [] then none else some (ds, rest)
  let (fraction, rest) ← fraction? rest
  let (exponent, rest) ← exponent? rest
  return (⟨negative, whole, fraction, exponent⟩, rest)

def dropWord? (word cs : List Char) : Option (List Char) :=
  if word.isPrefixOf cs then some (cs.drop word.length) else none

def isSpace (c : Char) : Bool :=
  c == ' ' || c == '\n' || c == '\t' || c == '\r'

/-- The first token of a text that starts with `c`, and what follows it. -/
def token? (c : Char) (cs : List Char) : Option (Token × List Char) :=
  if c = '[' then some (.beginArray, cs)
  else if c = ']' then some (.endArray, cs)
  else if c = '{' then some (.beginObject, cs)
  else if c = '}' then some (.endObject, cs)
  else if c = ',' then some (.comma, cs)
  else if c = ':' then some (.colon, cs)
  else if c = '\x22' then
    (units? cs).map fun (us, rest) =>
      match decodeUnits? us with
      | some text => (.text (String.ofList text), rest)
      | none => (.brokenText, rest)
  else if c = 't' then (dropWord? ['r', 'u', 'e'] cs).map fun rest => (.scalar (.bool true), rest)
  else if c = 'f' then
    (dropWord? ['a', 'l', 's', 'e'] cs).map fun rest => (.scalar (.bool false), rest)
  else if c = 'n' then (dropWord? ['u', 'l', 'l'] cs).map fun rest => (.scalar .null, rest)
  else if c = '-' then (numeral? true cs).map fun (n, rest) => (.scalar n.value, rest)
  else (numeral? false (c :: cs)).map fun (n, rest) => (.scalar n.value, rest)

/-- The tokens of a text; `length` bounds their number. -/
def tokensWithin? : (length : Nat) → List Char → Option (List Token)
  | _, [] => some []
  | 0, _ :: _ => none
  | length + 1, c :: cs =>
    if isSpace c then tokensWithin? length cs
    else do
      let (t, rest) ← token? c cs
      return t :: (← tokensWithin? length rest)

/-- The tokens of a text. A token has at least one character, so the text's length bounds them. -/
def tokens? (cs : List Char) : Option (List Token) :=
  tokensWithin? cs.length cs

/-- The parts of an array or object that is not closed yet, the newest first. -/
inductive Parts where
  | array (items : List Json)
  | object (fields : List (String × Json)) (key : String)

/-- An array or object that is not closed yet. -/
structure Frame where
  readable : Bool
  parts : Parts

/-- What may come next. -/
inductive Place where
  | value
  /-- A value, or the end of an array that is still empty. -/
  | firstItem
  /-- A key, or the end of an object that is still empty. -/
  | firstKey
  | key
  | colon
  | after (j : Json)

structure Machine where
  place : Place
  stack : List Frame

/-- How many arrays and objects that can be read may stand inside each other. -/
def maxDepth : Nat := 127

/-- The value of an array or object that is closed. -/
def closed (readable : Bool) (j : Json) : Json :=
  if readable then j else .unreadable

namespace Machine

def start : Machine := ⟨.value, []⟩

def descend (m : Machine) (place : Place) (parts : Parts) : Machine :=
  ⟨place, ⟨(m.stack.drop (maxDepth - 1)).isEmpty, parts⟩ :: m.stack⟩

/-- Closes an array or object that is still empty. -/
def closeEmpty (m : Machine) (j : Json) : Option Machine :=
  match m.stack with
  | frame :: outer => some ⟨.after (closed frame.readable j), outer⟩
  | [] => none

/-- Takes a token where a value may stand. -/
def takeValue (m : Machine) : Token → Option Machine
  | .beginArray => some (m.descend .firstItem (.array []))
  | .beginObject => some (m.descend .firstKey (.object [] ""))
  | .text s => some ⟨.after (.string s), m.stack⟩
  | .brokenText => some ⟨.after .unreadable, m.stack⟩
  | .scalar j => some ⟨.after j, m.stack⟩
  | _ => none

/-- Takes a token where a key may stand. -/
def takeKey (m : Machine) (t : Token) : Option Machine :=
  match m.stack, t with
  | ⟨readable, .object fields _⟩ :: outer, .text s =>
    some ⟨.colon, ⟨readable, .object fields s⟩ :: outer⟩
  | ⟨_, .object fields _⟩ :: outer, .brokenText =>
    some ⟨.colon, ⟨false, .object fields ""⟩ :: outer⟩
  | _, _ => none

/-- Takes a token after the complete value `j`. -/
def takeAfter (m : Machine) (j : Json) (t : Token) : Option Machine :=
  match m.stack, t with
  | ⟨readable, .array items⟩ :: outer, .comma =>
    some ⟨.value, ⟨readable, .array (j :: items)⟩ :: outer⟩
  | ⟨readable, .object fields key⟩ :: outer, .comma =>
    some ⟨.key, ⟨readable, .object ((key, j) :: fields) ""⟩ :: outer⟩
  | ⟨readable, .array items⟩ :: outer, .endArray =>
    some ⟨.after (closed readable (.array (j :: items).reverse)), outer⟩
  | ⟨readable, .object fields key⟩ :: outer, .endObject =>
    some ⟨.after (closed readable (.object ((key, j) :: fields).reverse)), outer⟩
  | _, _ => none

def step (m : Machine) (t : Token) : Option Machine :=
  match m.place, t with
  | .value, t => m.takeValue t
  | .firstItem, .endArray => m.closeEmpty (.array [])
  | .firstItem, t => m.takeValue t
  | .firstKey, .endObject => m.closeEmpty (.object [])
  | .firstKey, t => m.takeKey t
  | .key, t => m.takeKey t
  | .colon, .colon => some ⟨.value, m.stack⟩
  | .colon, _ => none
  | .after j, t => m.takeAfter j t

def result? (m : Machine) : Option Json :=
  match m.place, m.stack with
  | .after j, [] => some j
  | _, _ => none

end Machine

def parse? (s : String) : Option Json := do
  (← (← tokens? s.toList).foldlM Machine.step Machine.start).result?

end PatchSearch.Json
