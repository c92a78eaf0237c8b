import PatchSearch.Decimal.Layout
import PatchSearch.Json.Basic

namespace PatchSearch.Json

def fourHex (n : Nat) : List Char :=
  let digits := Nat.toDigits 16 n
  List.replicate (4 - digits.length) '0' ++ digits

def escape (c : Char) : List Char :=
  if c = '\x22' ∨ c = '\\' then ['\\', c]
  else if c = '\x08' then ['\\', 'b']
  else if c = '\x09' then ['\\', 't']
  else if c = '\x0a' then ['\\', 'n']
  else if c = '\x0c' then ['\\', 'f']
  else if c = '\x0d' then ['\\', 'r']
  else if c.toNat < 0x20 then ['\\', 'u'] ++ fourHex c.toNat
  else [c]

def quote (s : String) : List Char :=
  '\x22' :: (s.toList.flatMap escape ++ ['\x22'])

/-- A double; what has no digits is written as nothing. -/
def writeReal (x : Float) : List Char :=
  ((Decimal.double.data? Decimal.plainDouble x.toBits.toNat).getD "null").toList

def writeSingle (x : Decimal.Single) : List Char :=
  ((Decimal.single.data? Decimal.plainSingle x.bits.toNat).getD "null").toList

def writeInteger (n : Int) : List Char :=
  if n < 0 then '-' :: Nat.toDigits 10 n.natAbs else Nat.toDigits 10 n.natAbs

/-- The form of a value that is neither an array nor an object. -/
def writeScalar : Json → List Char
  | .bool true => ['t', 'r', 'u', 'e']
  | .bool false => ['f', 'a', 'l', 's', 'e']
  | .integer n => writeInteger n
  | .real x => writeReal x
  | .single x => writeSingle x
  | .string s => quote s
  | _ => ['n', 'u', 'l', 'l']

mutual

/-- A value on one line, without blanks. -/
def compact : Json → List Char
  | .array items => '[' :: (compactItems items ++ [']'])
  | .object fields => '{' :: (compactFields fields ++ ['}'])
  | j => writeScalar j

def compactItems : List Json → List Char
  | [] => []
  | [j] => compact j
  | j :: js => compact j ++ ',' :: compactItems js

def compactFields : List (String × Json) → List Char
  | [] => []
  | [(name, j)] => quote name ++ ':' :: compact j
  | (name, j) :: fields => quote name ++ ':' :: compact j ++ ',' :: compactFields fields

end

def newline (depth : Nat) : List Char :=
  '\n' :: List.replicate (2 * depth) ' '

mutual

/-- A value with every item and field on a line of its own. -/
def pretty (depth : Nat) : Json → List Char
  | .array [] => ['[', ']']
  | .array (j :: js) => '[' :: (prettyItems (depth + 1) (j :: js) ++ newline depth ++ [']'])
  | .object [] => ['{', '}']
  | .object (f :: fs) => '{' :: (prettyFields (depth + 1) (f :: fs) ++ newline depth ++ ['}'])
  | j => writeScalar j

def prettyItems (depth : Nat) : List Json → List Char
  | [] => []
  | [j] => newline depth ++ pretty depth j
  | j :: js => newline depth ++ pretty depth j ++ ',' :: prettyItems depth js

def prettyFields (depth : Nat) : List (String × Json) → List Char
  | [] => []
  | [(name, j)] => newline depth ++ quote name ++ ':' :: ' ' :: pretty depth j
  | (name, j) :: fields =>
    newline depth ++ quote name ++ ':' :: ' ' :: pretty depth j ++ ',' :: prettyFields depth fields

end

/-- The text of a value on one line. -/
def write (j : Json) : String :=
  String.ofList (compact j)

def writePretty (j : Json) : String :=
  String.ofList (pretty 0 j)

end PatchSearch.Json
