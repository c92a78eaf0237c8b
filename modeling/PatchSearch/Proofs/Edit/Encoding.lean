import PatchSearch.Proofs.Edit.Changes
import PatchSearch.Proofs.Json.Reading

namespace PatchSearch

namespace Json

theorem nat?_natural (n : Nat) : (natural n).nat? = some n := by
  simp [natural, nat?]

theorem plain_natural {n : Nat} (h : n < UInt64.size) : (natural n).Plain := by
  rw [natural, Plain, maxWord]
  omega

theorem plainItems_iff {js : List Json} : PlainItems js ↔ ∀ j ∈ js, j.Plain := by
  induction js with
  | nil => simp [PlainItems]
  | cons j js ih => rw [PlainItems, ih, List.forall_mem_cons]

end Json

namespace Statement

/-- No part of the fragment stands inside more than forty blocks. A block takes three of the arrays and
objects that the reader may have open at once, and what is around a replacement takes four. -/
def Fits (depth : Nat) (s : Statement) : Prop :=
  ∀ row ∈ s.outline depth, row.depth ≤ 40

def FitAll (depth : Nat) (ss : List Statement) : Prop :=
  ∀ row ∈ outlineAll depth ss, row.depth ≤ 40

instance (depth : Nat) (s : Statement) : Decidable (s.Fits depth) :=
  inferInstanceAs (Decidable (∀ row ∈ s.outline depth, row.depth ≤ 40))

instance (depth : Nat) (ss : List Statement) : Decidable (FitAll depth ss) :=
  inferInstanceAs (Decidable (∀ row ∈ outlineAll depth ss, row.depth ≤ 40))

theorem fits_simple {depth : Nat} {text : String} : (simple text).Fits depth ↔ depth ≤ 40 := by
  simp [Fits, outline]

theorem fits_block {depth : Nat} {header : String} {body : List Statement} :
    (block header body).Fits depth ↔ depth ≤ 40 ∧ FitAll (depth + 1) body := by
  simp [Fits, FitAll, outline]

theorem fitAll_nil {depth : Nat} : FitAll depth [] := by
  simp [FitAll, outlineAll]

theorem fitAll_cons {depth : Nat} {s : Statement} {ss : List Statement} :
    FitAll depth (s :: ss) ↔ s.Fits depth ∧ FitAll depth ss := by
  simp [Fits, FitAll, outlineAll, or_imp, forall_and]

theorem ofJson?_simple (text : String) :
    ofJson? (.object [("Simple", .string text)]) = some (.simple text) := by
  rw [ofJson?]
  rfl

theorem ofJson?_block (header : String) (items : List Json) :
    ofJson? (.object [("Block", .object [("header", .string header), ("body", .array items)])]) =
      (items.mapM ofJson?).map (.block header) := by
  have hr : (Json.object [("header", .string header), ("body", .array items)]).record?
      ["header", "body"] = some ⟨false, [("header", .string header), ("body", .array items)]⟩ := rfl
  have hb : List.lookup "body" [("header", Json.string header), ("body", .array items)] =
      some (.array items) := rfl
  have hheader : (⟨false, [("header", .string header), ("body", .array items)]⟩ :
      Json.Record).required "header" Json.string? = some header := rfl
  rw [ofJson?]
  split
  next h => cases hr.symm.trans h
  next r h =>
    cases Option.some.inj (hr.symm.trans h)
    split
    next items' h' =>
      cases Option.some.inj (hb.symm.trans h')
      rw [hheader, Option.bind_eq_bind, Option.bind_some]
      simp only [List.mapM_subtype, List.unattach_attach]
      cases items.mapM ofJson? <;> rfl
    next h' => exact absurd hb (h' items)

theorem ofJson?_unreadable : ofJson? .unreadable = none := by
  rw [ofJson?]
  · simp
  · simp

mutual

theorem plain_toJson : (s : Statement) → s.toJson.Plain
  | .simple _ => ⟨trivial, trivial⟩
  | .block _ body => ⟨⟨trivial, plain_toJsonAll body, trivial⟩, trivial⟩

theorem plain_toJsonAll : (ss : List Statement) → Json.PlainItems (toJsonAll ss)
  | [] => trivial
  | s :: ss => ⟨plain_toJson s, plain_toJsonAll ss⟩

end

mutual

theorem toJson_inj : (s s' : Statement) → s.toJson = s'.toJson → s = s'
  | .simple _, .simple _, h => by simpa [toJson] using h
  | .block _ body, .block _ body', h => by
    simp only [toJson, Json.object.injEq, List.cons.injEq, Prod.mk.injEq, Json.string.injEq,
      Json.array.injEq, true_and, and_true] at h
    rw [h.1, toJsonAll_inj body body' h.2]
  | .simple _, .block _ _, h | .block _ _, .simple _, h => by simp [toJson] at h

theorem toJsonAll_inj : (ss ss' : List Statement) → toJsonAll ss = toJsonAll ss' → ss = ss'
  | [], [], _ => rfl
  | s :: ss, s' :: ss', h => by
    rw [toJsonAll, toJsonAll, List.cons.injEq] at h
    rw [toJson_inj s s' h.1, toJsonAll_inj ss ss' h.2]
  | [], _ :: _, h | _ :: _, [], h => by simp [toJsonAll] at h

end

mutual

/-- A statement is read back unless it nests too deep. -/
theorem ofJson?_cut_toJson : (s : Statement) → ∀ depth,
    ofJson? (s.toJson.cut (4 + 3 * depth)) = if s.Fits depth then some s else none
  | .simple text, depth => by
    simp only [toJson, Json.cut, Json.cutFields, fits_simple]
    by_cases h : depth ≤ 40
    · have hopen : 4 + 3 * depth < Json.maxDepth := by rw [Json.maxDepth]; omega
      simp only [Json.closed, hopen, h, decide_true, if_true, ofJson?_simple]
    · have hopen : ¬4 + 3 * depth < Json.maxDepth := by rw [Json.maxDepth]; omega
      simp only [Json.closed, hopen, h, decide_false, if_false, Bool.false_eq_true,
        ofJson?_unreadable]
  | .block header body, depth => by
    simp only [toJson, Json.cut, Json.cutFields, fits_block]
    by_cases h : depth ≤ 40
    · have hopen : 4 + 3 * depth < Json.maxDepth ∧ 4 + 3 * depth + 1 < Json.maxDepth ∧
          4 + 3 * depth + 1 + 1 < Json.maxDepth := by
        rw [Json.maxDepth]
        omega
      have hbody := ofJson?_cut_toJsonAll body (depth + 1)
      simp only [Json.closed, hopen, h, decide_true, if_true, ofJson?_block, true_and]
      rw [show 4 + 3 * depth + 1 + 1 + 1 = 4 + 3 * (depth + 1) by omega, hbody]
      split <;> rfl
    · have hopen : ¬4 + 3 * depth < Json.maxDepth := by rw [Json.maxDepth]; omega
      simp only [Json.closed, hopen, h, decide_false, if_false, Bool.false_eq_true, false_and,
        ofJson?_unreadable]

theorem ofJson?_cut_toJsonAll : (ss : List Statement) → ∀ depth,
    (Json.cutItems (4 + 3 * depth) (toJsonAll ss)).mapM ofJson? =
      if FitAll depth ss then some ss else none
  | [], depth => by
    rw [if_pos fitAll_nil]
    rfl
  | s :: ss, depth => by
    have hs := ofJson?_cut_toJson s depth
    have hss := ofJson?_cut_toJsonAll ss depth
    simp only [toJsonAll, Json.cutItems, List.mapM_cons, hs, hss, fitAll_cons]
    by_cases h : s.Fits depth <;> by_cases h' : FitAll depth ss <;> simp [h, h']

end

end Statement

namespace StructuralEdit

theorem pair?_fields {a b : String} (h : a ≠ b) (m n : Nat) :
    pair? a b (.object [(a, .natural m), (b, .natural n)]) = some (m, n) := by
  have hb : (b == a) = false := beq_false_of_ne (Ne.symm h)
  simp [pair?, Json.record?, Json.Record.required, Json.nat?_natural, h, List.lookup_cons, hb]

theorem tagged?_toJson (e : StructuralEdit) : e.toJson.tagged? "kind" =
    some (e.kind.name, .object (e.addresses.map fun (name, id) => (name, .natural id))) := by
  cases e <;> rfl

theorem ofName?_name (kind : EditKind) : EditKind.ofName? kind.name = some kind := by
  cases kind <;> rfl

theorem ofJson?_toJson (e : StructuralEdit) : ofJson? e.toJson = some e := by
  rw [ofJson?, tagged?_toJson, Option.bind_eq_bind, Option.bind_some]
  simp only [ofName?_name, Option.bind_eq_bind, Option.bind_some]
  cases e with
  | delete target =>
    have hr : (Json.object [("target", .natural target)]).record? ["target"] =
        some ⟨false, [("target", .natural target)]⟩ := rfl
    simp only [kind, addresses, List.map_cons, List.map_nil, hr, Option.bind_some]
    rw [Json.Record.required]
    simp [Json.nat?_natural]
  | copy | replace | swap | move =>
    simp only [kind, addresses, List.map_cons, List.map_nil]
    rw [pair?_fields (by decide)]
    rfl

theorem cut_toJson (e : StructuralEdit) {level : Nat} (h : level < Json.maxDepth) :
    e.toJson.cut level = e.toJson := by
  cases e <;>
    simp only [toJson, addresses, List.map_cons, List.map_nil, Json.natural, Json.cut,
      Json.cutFields, Json.closed, h, decide_true, if_true]

theorem plain_toJson {e : StructuralEdit} (h : ∀ id ∈ (Edit.structural e).ids, id < UInt64.size) :
    e.toJson.Plain := by
  cases e with
  | delete target =>
    exact ⟨trivial, Json.plain_natural (h target (by simp [Edit.ids, addresses])), trivial⟩
  | copy a b | replace a b | swap a b | move a b =>
    exact ⟨trivial, Json.plain_natural (h a (by simp [Edit.ids, addresses])),
      Json.plain_natural (h b (by simp [Edit.ids, addresses])), trivial⟩

theorem toJson_injective : Function.Injective toJson := by
  intro e e' h
  exact Option.some.inj (by rw [← ofJson?_toJson e, h, ofJson?_toJson])

end StructuralEdit

namespace GeneratedEdit

theorem ofJson?_fields (destination : Nat) (j : Json) (text prompt response : String) :
    ofJson? (.object [("destination", .natural destination), ("replacement", j),
      ("replacement_text", .string text), ("prompt", .string prompt),
      ("response", .string response)]) =
      (Json.option? Statement.ofJson? j).map fun replacement =>
        ⟨destination, replacement, text, prompt, response⟩ := by
  let fields := [("destination", Json.natural destination), ("replacement", j),
    ("replacement_text", .string text), ("prompt", .string prompt), ("response", .string response)]
  have hr : (Json.object fields).record?
      ["destination", "replacement", "replacement_text", "prompt", "response"] =
      some ⟨false, fields⟩ := rfl
  have hd : (⟨false, fields⟩ : Json.Record).required "destination" Json.nat? = some destination :=
    Json.nat?_natural destination
  have ho : (⟨false, fields⟩ : Json.Record).optional "replacement" Statement.ofJson? =
      Json.option? Statement.ofJson? j := rfl
  rw [ofJson?, hr]
  simp only [Option.bind_eq_bind, Option.bind_some, hd, ho]
  cases Json.option? Statement.ofJson? j <;> rfl

/-- A replacement is told apart from none, whether it can be read or not. -/
theorem option?_cut_nullable (replacement : Option Statement) :
    Json.option? Statement.ofJson? ((Json.nullable (replacement.map Statement.toJson)).cut 4) =
      if ∀ s ∈ replacement, s.Fits 0 then some replacement else none := by
  cases replacement with
  | none => rfl
  | some s =>
    have hnull : s.toJson.cut 4 ≠ .null := by
      cases s <;> simp [Statement.toJson, Json.cut, Json.closed, Json.maxDepth]
    have hread := Statement.ofJson?_cut_toJson s 0
    rw [Option.map_some, Json.nullable, Json.option?, hread]
    · by_cases h : s.Fits 0 <;> simp [h]
    · exact hnull

theorem ofJson?_cut_toJson (e : GeneratedEdit) :
    ofJson? (e.toJson.cut 3) = if ∀ s ∈ e.replacement, s.Fits 0 then some e else none := by
  have hcut : e.toJson.cut 3 = .object [("destination", .natural e.destination),
      ("replacement", (Json.nullable (e.replacement.map Statement.toJson)).cut 4),
      ("replacement_text", .string e.replacementText), ("prompt", .string e.prompt),
      ("response", .string e.response)] := rfl
  rw [hcut, ofJson?_fields, option?_cut_nullable]
  split <;> rfl

theorem plain_toJson {e : GeneratedEdit} (h : e.destination < UInt64.size) : e.toJson.Plain := by
  have hr : (Json.nullable (e.replacement.map Statement.toJson)).Plain := by
    cases e.replacement with
    | none => exact trivial
    | some s => exact s.plain_toJson
  exact ⟨Json.plain_natural h, hr, trivial, trivial, trivial, trivial⟩

theorem nullable_inj {r r' : Option Statement}
    (h : Json.nullable (r.map Statement.toJson) = Json.nullable (r'.map Statement.toJson)) :
    r = r' := by
  have hnull : ∀ s : Statement, s.toJson ≠ .null := by
    intro s
    cases s <;> simp [Statement.toJson]
  cases r with
  | none =>
    cases r' with
    | none => rfl
    | some s => exact absurd h.symm (hnull s)
  | some s =>
    cases r' with
    | none => exact absurd h (hnull s)
    | some s' => rw [Statement.toJson_inj s s' h]

theorem toJson_injective : Function.Injective toJson := by
  rintro ⟨d, r, t, p, a⟩ ⟨d', r', t', p', a'⟩ h
  simp only [toJson, Json.natural, Json.object.injEq, List.cons.injEq, Prod.mk.injEq,
    Json.integer.injEq, Json.string.injEq, true_and, and_true, Int.natCast_inj] at h
  obtain ⟨rfl, hr, rfl, rfl, rfl⟩ := h
  rw [nullable_inj hr]

end GeneratedEdit

namespace Edit

/-- The edit brings no fragment that nests too deep to be read. -/
def Fits (e : Edit) : Prop :=
  ∀ s ∈ e.replacement?, s.Fits 0

instance (e : Edit) : Decidable e.Fits :=
  inferInstanceAs (Decidable (∀ s ∈ e.replacement?, s.Fits 0))

theorem ofJson?_cut_toJson (e : Edit) :
    ofJson? (e.toJson.cut 2) = if e.Fits then some e else none := by
  cases e with
  | generated e =>
    have hcut : (generated e).toJson.cut 2 = .object [("generated", e.toJson.cut 3)] := rfl
    have hfits : (generated e).Fits ↔ ∀ s ∈ e.replacement, s.Fits 0 := Iff.rfl
    rw [hcut, ofJson?, e.ofJson?_cut_toJson, if_congr hfits rfl rfl]
    split <;> rfl
  | structural e =>
    have hcut : (structural e).toJson.cut 2 = .object [("structural", e.toJson.cut 3)] := rfl
    have hfits : (structural e).Fits := fun s hs => by cases hs
    rw [hcut, ofJson?, e.cut_toJson (by decide), e.ofJson?_toJson, if_pos hfits]
    rfl

theorem plain_toJson {e : Edit} (h : ∀ id ∈ e.ids, id < UInt64.size) : e.toJson.Plain := by
  cases e with
  | generated e => exact ⟨e.plain_toJson (h _ (List.mem_singleton_self _)), trivial⟩
  | structural e => exact ⟨e.plain_toJson h, trivial⟩

theorem toJson_injective : Function.Injective toJson := by
  intro e e' h
  cases e <;> cases e' <;> simp [toJson] at h
  · rw [GeneratedEdit.toJson_injective h]
  · rw [StructuralEdit.toJson_injective h]

end Edit

namespace Patch

theorem mapM_ofJson?_cut (es : List Edit) :
    (Json.cutItems 2 (es.map Edit.toJson)).mapM Edit.ofJson? =
      if ∀ e ∈ es, e.Fits then some es else none := by
  induction es with
  | nil => rfl
  | cons e es ih =>
    rw [List.map_cons, Json.cutItems, List.mapM_cons, e.ofJson?_cut_toJson, ih]
    by_cases h : e.Fits
    · by_cases h' : ∀ e ∈ es, e.Fits
      · rw [if_pos h, if_pos h', if_pos (List.forall_mem_cons.mpr ⟨h, h'⟩)]
        rfl
      · rw [if_pos h, if_neg h', if_neg fun hall => h' (List.forall_mem_cons.mp hall).2]
        rfl
    · rw [if_neg h, if_neg fun hall => h (List.forall_mem_cons.mp hall).1]
      rfl

theorem ofJson?_edits (items : List Json) :
    ofJson? (.object [("edits", .array items)]) = (items.mapM Edit.ofJson?).map Patch.mk := by
  have hr : (Json.object [("edits", .array items)]).record? ["edits"] =
      some ⟨false, [("edits", .array items)]⟩ := rfl
  have hedits : (⟨false, [("edits", .array items)]⟩ : Json.Record).required "edits"
      (Json.list? Edit.ofJson?) = items.mapM Edit.ofJson? := rfl
  rw [ofJson?, hr]
  simp only [Option.bind_eq_bind, Option.bind_some, hedits]
  cases items.mapM Edit.ofJson? <;> rfl

theorem plain_toJson {p : Patch} (h : p.Within (· < UInt64.size)) : p.toJson.Plain := by
  refine ⟨Json.plainItems_iff.mpr fun j hj => ?_, trivial⟩
  obtain ⟨e, he, rfl⟩ := List.mem_map.mp hj
  exact e.plain_toJson (h e he)

theorem toJson_injective : Function.Injective toJson := by
  rintro ⟨es⟩ ⟨es'⟩ h
  simp only [toJson, Json.object.injEq, List.cons.injEq, Prod.mk.injEq, Json.array.injEq,
    true_and, and_true] at h
  rw [List.map_injective_iff.mpr Edit.toJson_injective h]

/-- What the text of a patch is read as. -/
theorem decode?_encode_eq {p : Patch} (h : p.Within (· < UInt64.size)) :
    decode? p.encode = if ∀ e ∈ p.edits, e.Fits then some p else none := by
  have hcut : p.toJson.cut 0 =
      .object [("edits", .array (Json.cutItems 2 (p.edits.map Edit.toJson)))] := rfl
  rw [decode?, encode, Json.parse?_write (plain_toJson h), Option.bind_eq_bind, Option.bind_some,
    hcut, ofJson?_edits, mapM_ofJson?_cut]
  split <;> rfl

theorem encode_inj {p q : Patch} (hp : p.Within (· < UInt64.size))
    (hq : q.Within (· < UInt64.size)) (h : p.encode = q.encode) : p = q :=
  toJson_injective (Json.write_inj (plain_toJson hp) (plain_toJson hq) h)

/-- Decoding undoes encoding where all fragments fit and fails for every other patch, and different
patches have different texts. -/
theorem decode?_encode {p : Patch} (h : p.Within (· < UInt64.size)) :
    ((∀ e ∈ p.edits, e.Fits) → decode? p.encode = some p) ∧
      ((¬∀ e ∈ p.edits, e.Fits) → decode? p.encode = none) ∧
      ∀ q : Patch, q.Within (· < UInt64.size) → q.encode = p.encode → q = p := by
  refine ⟨fun hfits => ?_, fun hdeep => ?_, fun q hq hqp => encode_inj hq h hqp⟩
  · rw [decode?_encode_eq h, if_pos hfits]
  · rw [decode?_encode_eq h, if_neg hdeep]

/-- A patch with edits of every kind, odd texts and a replacement of nested blocks. -/
def mixed : Patch :=
  ⟨[.structural (.delete 18446744073709551615), .structural (.copy 0 1), .structural (.replace 2 2),
    .structural (.swap 7 3), .structural (.move 3 7),
    .generated ⟨4, none, "", "say \x22hi\x22\\\n\t\x01", "∀ é \x7f\u2028"⟩,
    .generated ⟨5, some (.block "if (x)" [.simple "f(\x22\\\x22);", .block "" [], .simple ""]),
      "if (x) \x7b\r\n\x7d", "", "/"⟩]⟩

/-- A patch that brings a line inside of so many bare blocks. -/
def wrapping (blocks : Nat) : Patch :=
  ⟨[.generated ⟨3, some (Nat.repeat (fun s => .block "" [s]) blocks (.simple "a();")), "", "", ""⟩]⟩

theorem within_wrapping (blocks : Nat) : (wrapping blocks).Within (· < UInt64.size) := by
  simp [Within, wrapping, Edit.ids, UInt64.size]

theorem decode?_encode_mixed :
    decode? mixed.encode = some mixed ∧ decode? (wrapping 41).encode = none ∧
      (wrapping 40).encode ≠ (wrapping 41).encode := by
  have hmixed : ∀ e ∈ mixed.edits, ∀ id ∈ e.ids, id < UInt64.size := by decide
  have hdeep : ¬∀ e ∈ (wrapping 41).edits, e.Fits := by decide
  have hfits : ∀ e ∈ (wrapping 40).edits, e.Fits := by decide
  have hread := decode?_encode (within_wrapping 41)
  refine ⟨(decode?_encode hmixed).1 (by decide), hread.2.1 hdeep, ?_⟩
  intro heq
  have hsame : wrapping 40 = wrapping 41 := hread.2.2 _ (within_wrapping 40) heq
  exact hdeep (hsame ▸ hfits)

/-- A line inside of forty-one blocks nests too deep: its patch is written and not read back. -/
theorem decode?_encode_wrapping :
    (wrapping 41).Within (· < UInt64.size) ∧ decode? (wrapping 41).encode ≠ some (wrapping 41) := by
  have hdeep : ¬∀ e ∈ (wrapping 41).edits, e.Fits := by decide
  refine ⟨within_wrapping 41, ?_⟩
  rw [decode?_encode_eq (within_wrapping 41), if_neg hdeep]
  simp

end Patch

end PatchSearch
