import PatchSearch.Text.Utf8

namespace PatchSearch.Text

/-- One character for each byte. -/
def ofBytes (bytes : Bytes) : List Char :=
  bytes.map fun b => Char.ofNat b.toNat

/-- The bytes of characters that stand for bytes. -/
def toBytes (cs : List Char) : Bytes :=
  cs.map fun c => c.toNat.toUInt8

/-- The bytes of a text as characters. -/
def bytewise (s : String) : String :=
  String.ofList (ofBytes (encode s))

/-- The text whose bytes are given, one character each. -/
def fromBytewise (s : String) : String :=
  decodeLossy (toBytes s.toList)

/-- The order of texts by their first characters that differ. -/
def isAtMost : List Char → List Char → Bool
  | [], _ => true
  | _ :: _, [] => false
  | a :: as, b :: bs => if a = b then isAtMost as bs else a.toNat < b.toNat

end PatchSearch.Text
