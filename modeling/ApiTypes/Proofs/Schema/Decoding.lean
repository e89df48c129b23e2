import ApiTypes.Schema.Decoding
import ApiTypes.Proofs.Outcome
import Mathlib.Data.List.Basic

/-!
# Induction over schemas

A schema that is decoded is sorted from keywords whose schemas were decoded in turn. So whatever
sorting keeps holds of every schema that is decoded.

## Main definitions

* `Schema.Written.Each` — a property holds of all schemas that the keywords give

## Main results

* `Schema.induction` — induction over the schemas that a schema is made of
* `Schema.decode_induction` — induction over the decoding of a schema
-/

namespace ApiTypes

namespace Decoding

variable {α : Type} {x : Decoded α}

@[simp] theorem below_eq_ok_iff {step : Step} {a : α} : below step x = .ok a ↔ x = .ok a := by
  cases x <;> simp [below]

end Decoding

namespace Schema

open Decoding Outcome

section Induction

variable {P : Schema → Prop}
  (combination : ∀ op branches beside, (∀ branch ∈ branches, P branch) →
    (∀ properties ∈ beside, ∀ entry ∈ properties.entries, P entry.2) →
      P (.combination op branches beside))
  (enumeration : ∀ values beside,
    (∀ properties ∈ beside, ∀ entry ∈ properties.entries, P entry.2) →
      P (.enumeration values beside))
  (primitive : ∀ type isNullable, P (.primitive type isNullable))
  (object : ∀ properties additional isNullable, (∀ entry ∈ properties.entries, P entry.2) →
    (∀ schema ∈ additional, P schema) → P (.object properties additional isNullable))
  (array : ∀ items isNullable, (∀ schema ∈ items, P schema) → P (.array items isNullable))
  (unsupported : ∀ type, P (.unsupported type))

include combination enumeration primitive object array unsupported

/-- Induction over the schemas that a schema is made of. -/
@[elab_as_elim]
theorem induction (schema : Schema) : P schema := by
  refine @Schema.rec P (fun branches => ∀ branch ∈ branches, P branch)
    (fun beside => ∀ properties ∈ beside, ∀ entry ∈ properties.entries, P entry.2)
    (fun properties => ∀ entry ∈ properties.entries, P entry.2)
    (fun optional => ∀ schema ∈ optional, P schema)
    (fun entries => ∀ entry ∈ entries, P entry.2) (fun entry => P entry.2)
    combination enumeration primitive object array unsupported ?_ ?_ ?_ ?_ ?_ ?_ ?_ ?_ ?_ ?_ schema
  · exact List.forall_mem_nil _
  · exact fun _ _ first rest => List.forall_mem_cons.mpr ⟨first, rest⟩
  · exact fun _ given => nomatch given
  · rintro properties each _ ⟨⟩
    exact each
  · exact fun _ _ each => each
  · exact fun _ given => nomatch given
  · rintro schema whole _ ⟨⟩
    exact whole
  · exact List.forall_mem_nil _
  · exact fun _ _ first rest => List.forall_mem_cons.mpr ⟨first, rest⟩
  · exact fun _ _ whole => whole

end Induction

/-- The property holds of all schemas that the keywords give. -/
structure Written.Each (P : Schema → Prop) (w : Written) : Prop where
  properties : ∀ entries ∈ w.properties, ∀ entry ∈ entries, P entry.2
  additional : ∀ schema, w.additional = some (.schema schema) → P schema
  items : ∀ schema ∈ w.items, P schema
  oneOf : ∀ branches ∈ w.oneOf, ∀ branch ∈ branches, P branch
  anyOf : ∀ branches ∈ w.anyOf, ∀ branch ∈ branches, P branch
  allOf : ∀ branches ∈ w.allOf, ∀ branch ∈ branches, P branch

theorem Written.Each.empty {P : Schema → Prop} : Written.Each P {} := by
  constructor <;> simp

/-- The property holds of all schemas that a value is read as. -/
structure Readings.Each (P : Schema → Prop) (as : Readings) : Prop where
  schema : ∀ schema, as.schema () = .ok schema → P schema
  list : ∀ schemas, as.list () = .ok schemas → ∀ schema ∈ schemas, P schema
  map : ∀ entries, as.map () = .ok entries → ∀ entry ∈ entries, P entry.2

theorem eq_of_unlessNull {α : Type} {value : Json} {read : Unit → Decoded α} {result : Option α}
    (h : unlessNull value read = .ok result) : ∀ a ∈ result, read () = .ok a := by
  unfold unlessNull at h
  split at h
  · obtain rfl := Except.ok.inj h
    simp
  · obtain ⟨a, readAs, rfl⟩ := map_eq_ok_iff.mp h
    simpa using readAs

theorem eq_of_decodeAdditional {value : Json} {asSchema : Decoded Schema} {schema : Schema}
    (h : decodeAdditional value asSchema = .ok (some (.schema schema))) :
    asSchema = .ok schema := by
  unfold decodeAdditional at h
  split at h
  · simp at h
  · simp at h
  · split at h
    · simpa using h
    · simp [fail] at h

section Decode

variable {P : Schema → Prop}

/-- Entering a keyword keeps the property. -/
theorem Written.Each.enter {w w' : Written} {value : Json} {as : Readings} {keyword : Keyword}
    (each : w.Each P) (readings : as.Each P) (h : w.enter value as keyword = .ok w') :
    w'.Each P := by
  cases keyword with
  | type | nullable | required | enum =>
    -- no schema comes with these keywords
    obtain ⟨_, -, entered⟩ := bind_eq_ok_iff.mp h
    obtain rfl := Except.ok.inj entered
    exact ⟨each.properties, each.additional, each.items, each.oneOf, each.anyOf, each.allOf⟩
  | properties =>
    obtain ⟨result, read, entered⟩ := bind_eq_ok_iff.mp h
    obtain rfl := Except.ok.inj entered
    refine { each with properties := ?_ }
    exact fun entries member => readings.map entries (eq_of_unlessNull read entries member)
  | additionalProperties =>
    obtain ⟨result, read, entered⟩ := bind_eq_ok_iff.mp h
    obtain rfl := Except.ok.inj entered
    refine { each with additional := ?_ }
    -- a boolean is no schema, so only the other reading counts
    intro schema same
    obtain rfl : result = _ := same
    exact readings.schema schema (eq_of_decodeAdditional read)
  | items =>
    obtain ⟨result, read, entered⟩ := bind_eq_ok_iff.mp h
    obtain rfl := Except.ok.inj entered
    refine { each with items := ?_ }
    exact fun schema member => readings.schema schema (eq_of_unlessNull read schema member)
  | oneOf =>
    obtain ⟨result, read, entered⟩ := bind_eq_ok_iff.mp h
    obtain rfl := Except.ok.inj entered
    refine { each with oneOf := ?_ }
    exact fun branches member => readings.list branches (eq_of_unlessNull read branches member)
  | anyOf =>
    obtain ⟨result, read, entered⟩ := bind_eq_ok_iff.mp h
    obtain rfl := Except.ok.inj entered
    refine { each with anyOf := ?_ }
    exact fun branches member => readings.list branches (eq_of_unlessNull read branches member)
  | allOf =>
    obtain ⟨result, read, entered⟩ := bind_eq_ok_iff.mp h
    obtain rfl := Except.ok.inj entered
    refine { each with allOf := ?_ }
    exact fun branches member => readings.list branches (eq_of_unlessNull read branches member)

mutual

/-- What sorting keeps holds of every schema that is decoded. -/
theorem decode_induction (classify : ∀ w : Written, w.Each P → P w.classify) :
    ∀ (value : Json) (schema : Schema), decode value = .ok schema → P schema
  | .object entries, schema, h => by
    rw [decode] at h
    obtain ⟨w, entered, rfl⟩ := map_eq_ok_iff.mp h
    exact classify w (decodeEntries_each classify entries {} w .empty entered)
  | .array items, schema, h => by
    rw [decode] at h
    obtain ⟨w, entered, rfl⟩ := map_eq_ok_iff.mp h
    exact classify w (decodeItems_each classify items {} w _ _ .empty entered)
  | .null, _, h | .bool _, _, h | .number _, _, h | .string _, _, h => by simp [decode, fail] at h

theorem decodeList_each (classify : ∀ w : Written, w.Each P → P w.classify) :
    ∀ (value : Json) (schemas : List Schema), decodeList value = .ok schemas →
      ∀ schema ∈ schemas, P schema
  | .array items, schemas, h => by
    rw [decodeList] at h
    exact decodeAll_each classify items 0 schemas h
  | .object _, _, h | .null, _, h | .bool _, _, h | .number _, _, h | .string _, _, h => by
    simp [decodeList, fail] at h

theorem decodeMap_each (classify : ∀ w : Written, w.Each P → P w.classify) :
    ∀ (value : Json) (properties : List (String × Schema)), decodeMap value = .ok properties →
      ∀ entry ∈ properties, P entry.2
  | .object entries, properties, h => by
    rw [decodeMap] at h
    exact decodeProperties_each classify entries properties h
  | .array _, _, h | .null, _, h | .bool _, _, h | .number _, _, h | .string _, _, h => by
    simp [decodeMap, fail] at h

theorem decodeEntries_each (classify : ∀ w : Written, w.Each P → P w.classify) :
    ∀ (entries : List (String × Json)) (w w' : Written), w.Each P →
      decodeEntries w entries = .ok w' → w'.Each P
  | [], w, w', each, h => by
    rw [decodeEntries] at h
    obtain rfl := Except.ok.inj h
    exact each
  | (key, value) :: rest, w, w', each, h => by
    rw [decodeEntries] at h
    split at h
    · exact decodeEntries_each classify rest w w' each h
    · obtain ⟨next, entered, h⟩ := bind_eq_ok_iff.mp h
      rw [below_eq_ok_iff] at entered
      exact decodeEntries_each classify rest next w'
        (each.enter ⟨decode_induction classify value, decodeList_each classify value,
          decodeMap_each classify value⟩ entered) h

theorem decodeItems_each (classify : ∀ w : Written, w.Each P → P w.classify) :
    ∀ (items : List Json) (w w' : Written) (keywords : List Keyword) (n : Nat), w.Each P →
      decodeItems w keywords n items = .ok w' → w'.Each P
  | [], w, w', keywords, n, each, h => by
    rw [decodeItems] at h
    obtain rfl := Except.ok.inj h
    exact each
  | value :: rest, w, w', [], n, each, h => by simp [decodeItems, fail] at h
  | value :: rest, w, w', keyword :: keywords, n, each, h => by
    rw [decodeItems] at h
    obtain ⟨next, entered, h⟩ := bind_eq_ok_iff.mp h
    rw [below_eq_ok_iff] at entered
    exact decodeItems_each classify rest next w' _ _
      (each.enter ⟨decode_induction classify value, decodeList_each classify value,
        decodeMap_each classify value⟩ entered) h

theorem decodeAll_each (classify : ∀ w : Written, w.Each P → P w.classify) :
    ∀ (items : List Json) (n : Nat) (schemas : List Schema), decodeAll n items = .ok schemas →
      ∀ schema ∈ schemas, P schema
  | [], n, schemas, h => by
    rw [decodeAll] at h
    obtain rfl := Except.ok.inj h
    simp
  | item :: rest, n, schemas, h => by
    rw [decodeAll] at h
    obtain ⟨first, decoded, h⟩ := bind_eq_ok_iff.mp h
    obtain ⟨others, decodedRest, h⟩ := bind_eq_ok_iff.mp h
    obtain rfl := Except.ok.inj h
    rw [below_eq_ok_iff] at decoded
    exact List.forall_mem_cons.mpr ⟨decode_induction classify item first decoded,
      decodeAll_each classify rest _ others decodedRest⟩

theorem decodeProperties_each (classify : ∀ w : Written, w.Each P → P w.classify) :
    ∀ (entries : List (String × Json)) (properties : List (String × Schema)),
      decodeProperties entries = .ok properties → ∀ entry ∈ properties, P entry.2
  | [], properties, h => by
    rw [decodeProperties] at h
    obtain rfl := Except.ok.inj h
    simp
  | (key, value) :: rest, properties, h => by
    rw [decodeProperties] at h
    obtain ⟨first, decoded, h⟩ := bind_eq_ok_iff.mp h
    obtain ⟨others, decodedRest, h⟩ := bind_eq_ok_iff.mp h
    obtain rfl := Except.ok.inj h
    rw [below_eq_ok_iff] at decoded
    exact List.forall_mem_cons.mpr ⟨decode_induction classify value first decoded,
      decodeProperties_each classify rest others decodedRest⟩

end

end Decode

end Schema

end ApiTypes
