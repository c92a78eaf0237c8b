import PatchSearch.Proofs.Json.Tokens

namespace PatchSearch.Json

mutual

/-- The value as it is read inside so many open arrays and objects. -/
def cut (level : Nat) : Json → Json
  | .array items => closed (level < maxDepth) (.array (cutItems (level + 1) items))
  | .object fields => closed (level < maxDepth) (.object (cutFields (level + 1) fields))
  | j => j

def cutItems (level : Nat) : List Json → List Json
  | [] => []
  | j :: js => j.cut level :: cutItems level js

def cutFields (level : Nat) : List (String × Json) → List (String × Json)
  | [] => []
  | (name, j) :: fields => (name, j.cut level) :: cutFields level fields

end

theorem descend_eq (m : Machine) (place : Place) (parts : Parts) :
    m.descend place parts = ⟨place, ⟨m.stack.length < maxDepth, parts⟩ :: m.stack⟩ := by
  have h : (m.stack.drop (maxDepth - 1)).isEmpty = decide (m.stack.length < maxDepth) := by
    rw [Bool.eq_iff_iff, List.isEmpty_iff, List.drop_eq_nil_iff, decide_eq_true_eq, maxDepth]
    omega
  rw [Machine.descend, h]

/-- A token at the place of a value is taken as one, but for the end of an empty array. -/
theorem step_value {place : Place} (hp : place = .value ∨ place = .firstItem) (stack : List Frame)
    {t : Token} (ht : t ≠ .endArray) :
    Machine.step ⟨place, stack⟩ t = Machine.takeValue ⟨place, stack⟩ t := by
  rcases hp with rfl | rfl
  · rfl
  · cases t with
    | endArray => exact absurd rfl ht
    | _ => rfl

mutual

theorem read_tokens : (j : Json) → ∀ {place : Place}, place = .value ∨ place = .firstItem →
    ∀ (stack : List Frame) (ts : List Token),
      (j.tokens ++ ts).foldlM Machine.step ⟨place, stack⟩ =
        ts.foldlM Machine.step ⟨.after (j.cut stack.length), stack⟩
  | .array items, place, hp, stack, ts => by
    rw [tokens, List.cons_append, List.foldlM_cons, step_value hp stack (by simp),
      Machine.takeValue, descend_eq, List.append_assoc, List.singleton_append, cut]
    exact read_items items _ stack ts
  | .object fields, place, hp, stack, ts => by
    rw [tokens, List.cons_append, List.foldlM_cons, step_value hp stack (by simp),
      Machine.takeValue, descend_eq, List.append_assoc, List.singleton_append, cut]
    exact read_fields fields _ stack ts
  | .null, _, hp, stack, ts | .bool _, _, hp, stack, ts | .integer _, _, hp, stack, ts
  | .real _, _, hp, stack, ts | .single _, _, hp, stack, ts | .string _, _, hp, stack, ts
  | .unreadable, _, hp, stack, ts => by
    rw [tokens, List.singleton_append, List.foldlM_cons, step_value hp stack (by simp)]
    · rfl
    all_goals simp

theorem read_items : (js : List Json) → ∀ (readable : Bool) (stack : List Frame) (ts : List Token),
    (tokensOfItems js ++ .endArray :: ts).foldlM Machine.step
        ⟨.firstItem, ⟨readable, .array []⟩ :: stack⟩ =
      ts.foldlM Machine.step
        ⟨.after (closed readable (.array (cutItems (stack.length + 1) js))), stack⟩
  | [], readable, stack, ts => rfl
  | j :: js, readable, stack, ts => by
    rw [tokensOfItems, List.append_assoc, read_tokens j (.inr rfl)]
    exact read_laterItems js _ readable [] stack ts

theorem read_laterItems : (js : List Json) → ∀ (last : Json) (readable : Bool) (items : List Json)
    (stack : List Frame) (ts : List Token),
    (tokensOfLaterItems js ++ .endArray :: ts).foldlM Machine.step
        ⟨.after last, ⟨readable, .array items⟩ :: stack⟩ =
      ts.foldlM Machine.step ⟨.after (closed readable
        (.array ((last :: items).reverse ++ cutItems (stack.length + 1) js))), stack⟩
  | [], last, readable, items, stack, ts => by rw [cutItems, List.append_nil]; rfl
  | j :: js, last, readable, items, stack, ts => by
    have hcomma : Machine.step ⟨.after last, ⟨readable, .array items⟩ :: stack⟩ .comma =
        some ⟨.value, ⟨readable, .array (last :: items)⟩ :: stack⟩ := rfl
    rw [tokensOfLaterItems, List.cons_append, List.foldlM_cons, hcomma, List.append_assoc]
    refine (read_tokens j (.inl rfl) _ _).trans ((read_laterItems js _ _ _ _ _).trans ?_)
    rw [cutItems, List.reverse_cons, List.append_assoc]
    rfl

theorem read_fields : (fs : List (String × Json)) → ∀ (readable : Bool) (stack : List Frame)
    (ts : List Token),
    (tokensOfFields fs ++ .endObject :: ts).foldlM Machine.step
        ⟨.firstKey, ⟨readable, .object [] ""⟩ :: stack⟩ =
      ts.foldlM Machine.step
        ⟨.after (closed readable (.object (cutFields (stack.length + 1) fs))), stack⟩
  | [], readable, stack, ts => rfl
  | (name, j) :: fs, readable, stack, ts => by
    have hkey : Machine.step ⟨.firstKey, ⟨readable, .object [] ""⟩ :: stack⟩ (.text name) =
        some ⟨.colon, ⟨readable, .object [] name⟩ :: stack⟩ := rfl
    have hcolon : Machine.step ⟨.colon, ⟨readable, .object [] name⟩ :: stack⟩ .colon =
        some ⟨.value, ⟨readable, .object [] name⟩ :: stack⟩ := rfl
    rw [tokensOfFields, List.cons_append, List.cons_append, List.foldlM_cons, hkey,
      Option.bind_eq_bind, Option.bind_some, List.foldlM_cons, hcolon, List.append_assoc]
    exact (read_tokens j (.inl rfl) _ _).trans (read_laterFields fs name _ readable [] stack ts)

theorem read_laterFields : (fs : List (String × Json)) → ∀ (key : String) (last : Json)
    (readable : Bool) (fields : List (String × Json)) (stack : List Frame) (ts : List Token),
    (tokensOfLaterFields fs ++ .endObject :: ts).foldlM Machine.step
        ⟨.after last, ⟨readable, .object fields key⟩ :: stack⟩ =
      ts.foldlM Machine.step ⟨.after (closed readable
        (.object (((key, last) :: fields).reverse ++ cutFields (stack.length + 1) fs))), stack⟩
  | [], key, last, readable, fields, stack, ts => by rw [cutFields, List.append_nil]; rfl
  | (name, j) :: fs, key, last, readable, fields, stack, ts => by
    have hcomma : Machine.step ⟨.after last, ⟨readable, .object fields key⟩ :: stack⟩ .comma =
        some ⟨.key, ⟨readable, .object ((key, last) :: fields) ""⟩ :: stack⟩ := rfl
    have hkey : Machine.step ⟨.key, ⟨readable, .object ((key, last) :: fields) ""⟩ :: stack⟩
        (.text name) = some ⟨.colon, ⟨readable, .object ((key, last) :: fields) name⟩ :: stack⟩ :=
      rfl
    have hcolon : Machine.step ⟨.colon, ⟨readable, .object ((key, last) :: fields) name⟩ :: stack⟩
        .colon = some ⟨.value, ⟨readable, .object ((key, last) :: fields) name⟩ :: stack⟩ := rfl
    rw [tokensOfLaterFields, List.cons_append, List.foldlM_cons, hcomma, Option.bind_eq_bind,
      Option.bind_some, List.cons_append, List.foldlM_cons, hkey, Option.bind_eq_bind,
      Option.bind_some, List.cons_append, List.foldlM_cons, hcolon, List.append_assoc]
    refine (read_tokens j (.inl rfl) _ _).trans ((read_laterFields fs _ _ _ _ _ _).trans ?_)
    rw [cutFields, List.reverse_cons, List.append_assoc]
    rfl

end

/-- A written value is read as what can be read of it. -/
theorem parse?_write {j : Json} (h : j.Plain) : parse? j.write = some (j.cut 0) := by
  have hplace : Place.value = .value ∨ Place.value = .firstItem := .inl rfl
  have hread := read_tokens j hplace [] []
  rw [List.append_nil, List.foldlM_nil] at hread
  have hstart : j.tokens.foldlM Machine.step Machine.start =
      some ⟨.after (j.cut 0), []⟩ := hread
  simp only [parse?, tokens?_write h, Option.bind_eq_bind, Option.bind_some, hstart]
  rfl

end PatchSearch.Json
