import PatchSearch.Decimal.Binary

namespace PatchSearch

/-- A JSON value. Fields keep their order, and a name may occur twice. -/
inductive Json where
  | null
  | bool (b : Bool)
  /-- A whole number of at most 64 bits, with or without a sign. -/
  | integer (n : Int)
  | real (x : Float)
  /-- A number of single precision, which needs fewer digits. -/
  | single (x : Decimal.Single)
  | string (s : String)
  | array (items : List Json)
  | object (fields : List (String × Json))
  /-- A well-formed value that denotes nothing: a number beyond the range of a double, a text with
  half of a surrogate pair, or what nests too deep. It can be skipped but not read. -/
  | unreadable
deriving Inhabited

namespace Json

def natural (n : Nat) : Json := .integer n

/-- The value of a field that may be left out. -/
def nullable : Option Json → Json
  | none => .null
  | some j => j

mutual

def isReadable : Json → Bool
  | .unreadable => false
  | .array items => areReadable items
  | .object fields => fieldsReadable fields
  | _ => true

def areReadable : List Json → Bool
  | [] => true
  | j :: js => j.isReadable && areReadable js

def fieldsReadable : List (String × Json) → Bool
  | [] => true
  | (_, j) :: fields => j.isReadable && fieldsReadable fields

end

/-- An object without the fields that have no value. -/
def compactObject (fields : List (String × Option Json)) : Json :=
  .object (fields.filterMap fun (name, value) => value.map fun j => (name, j))

end Json

end PatchSearch
