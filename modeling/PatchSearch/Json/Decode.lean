import PatchSearch.Json.Reader

namespace PatchSearch.Json

def bool? : Json → Option Bool
  | .bool b => some b
  | _ => none

def string? : Json → Option String
  | .string s => some s
  | _ => none

/-- A whole number without a sign. -/
def nat? : Json → Option Nat
  | .integer n => if 0 ≤ n then some n.toNat else none
  | _ => none

def word? (j : Json) : Option UInt64 :=
  j.nat?.map Nat.toUInt64

/-- A whole number of 64 bits with a sign. -/
def signedWord? : Json → Option Int64
  | .integer n => if n < Nat.pow 2 63 then some (Int64.ofInt n) else none
  | _ => none

/-- A whole number of 32 bits with a sign. -/
def int32? : Json → Option Int32
  | .integer n => if -Nat.pow 2 31 ≤ n ∧ n < Nat.pow 2 31 then some (Int32.ofInt n) else none
  | _ => none

/-- A double; whole numbers are rounded to one. -/
def float? : Json → Option Float
  | .integer n =>
    some (if n < 0 then -n.natAbs.toUInt64.toFloat else n.natAbs.toUInt64.toFloat)
  | .real x => some x
  | _ => none

/-- A single; doubles and whole numbers are rounded to one. -/
def single? : Json → Option Decimal.Single
  | .integer n =>
    let x := Decimal.Single.ofFloat32 n.natAbs.toUInt64.toFloat32
    some (if n < 0 then x.negate else x)
  | .real x => some (.ofFloat32 x.toFloat32)
  | .single x => some x
  | _ => none

def list? {α : Type} (item? : Json → Option α) : Json → Option (List α)
  | .array items => items.mapM item?
  | _ => none

/-- A value that may be null. -/
def option? {α : Type} (value? : Json → Option α) : Json → Option (Option α)
  | .null => some none
  | j => (value? j).map some

/-- One of several names, alone or as the only field of an object without a value. -/
def choice? {α : Type} (ofName : String → Option α) : Json → Option α
  | .string s => ofName s
  | .object [(s, .null)] => ofName s
  | _ => none

/-- The name in a tag field, and the record without that field. In an array the tag comes first. As
the tag may come last, nothing before it can be skipped. -/
def tagged? (tag : String) (j : Json) : Option (String × Json) :=
  if !j.isReadable then none
  else
    match j with
    | .object fields =>
      match fields.filter fun (name, _) => name = tag with
      | [(_, .string s)] => some (s, .object (fields.filter fun (name, _) => name ≠ tag))
      | _ => none
    | .array (.string s :: rest) => some (s, .array rest)
    | _ => none

structure Record where
  /-- Whether the fields stood in an array, where none but the last ones can be left out. -/
  positional : Bool
  fields : List (String × Json)

/-- The record in a value, with the names of its fields in their order. -/
def record? (names : List String) : Json → Option Record
  | .object fields =>
    let known := fields.filter fun (name, _) => names.contains name
    if (known.map Prod.fst).Nodup then some ⟨false, known⟩ else none
  | .array items =>
    if items.length ≤ names.length then some ⟨true, names.zip items⟩ else none
  | _ => none

namespace Record

variable {α : Type}

def required (r : Record) (name : String) (value? : Json → Option α) : Option α := do
  value? (← r.fields.lookup name)

/-- A field with a value for its absence. -/
def defaulted (r : Record) (name : String) (absent : α) (value? : Json → Option α) : Option α :=
  match r.fields.lookup name with
  | some j => value? j
  | none => some absent

/-- A field that may be null, or left out of an object. -/
def optional (r : Record) (name : String) (value? : Json → Option α) : Option (Option α) :=
  match r.fields.lookup name with
  | some j => option? value? j
  | none => if r.positional then none else some none

end Record

theorem sizeOf_lookup_lt {fields : List (String × Json)} {name : String} {j : Json}
    (h : fields.lookup name = some j) : sizeOf j < sizeOf fields := by
  induction fields with
  | nil => simp at h
  | cons f fs ih =>
    obtain ⟨n, k⟩ := f
    rw [List.lookup_cons] at h
    split at h
    next => cases Option.some.inj h; simp; omega
    next => have := ih h; simp; omega

theorem sizeOf_filter_le {fields : List (String × Json)} (p : String × Json → Bool) :
    sizeOf (fields.filter p) ≤ sizeOf fields := by
  induction fields with
  | nil => simp
  | cons f fs ih =>
    rw [List.filter_cons]
    split <;> simp <;> omega

theorem sizeOf_lookup_zip_lt {names : List String} {items : List Json} {name : String} {j : Json}
    (h : (names.zip items).lookup name = some j) : sizeOf j < sizeOf items := by
  induction names generalizing items with
  | nil => simp at h
  | cons n ns ih =>
    cases items with
    | nil => simp at h
    | cons i is =>
      rw [List.zip_cons_cons, List.lookup_cons] at h
      split at h
      next => cases Option.some.inj h; simp; omega
      next => have := ih h; simp; omega

/-- A field is smaller than the record that it stands in. -/
theorem sizeOf_field_lt {names : List String} {j field : Json} {r : Record} {name : String}
    (hr : j.record? names = some r) (hf : r.fields.lookup name = some field) :
    sizeOf field < sizeOf j := by
  cases j with
  | object fields =>
    simp only [record?] at hr
    split at hr
    next =>
      cases Option.some.inj hr
      have h := Nat.lt_of_lt_of_le (sizeOf_lookup_lt hf) (sizeOf_filter_le _)
      simp only [object.sizeOf_spec]
      omega
    next => simp at hr
  | array items =>
    simp only [record?] at hr
    split at hr
    next =>
      cases Option.some.inj hr
      have := sizeOf_lookup_zip_lt hf
      simp only [array.sizeOf_spec]
      omega
    next => simp at hr
  | null | bool | integer | real | single | string | unreadable => simp [record?] at hr

end PatchSearch.Json
