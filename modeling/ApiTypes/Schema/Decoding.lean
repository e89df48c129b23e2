import ApiTypes.Decoding
import ApiTypes.Schema.Keywords

/-!
# Decoding schemas

A schema is an object of keywords, or the list of their values in a fixed order. The keys of an
object that name no keyword are passed over.

## Main definitions

* `Schema.decode` — the schema of a JSON value
-/

namespace ApiTypes.Schema

open Decoding

/-- The types that are listed, or the single one that is named. -/
def decodeTypes : Json → Decoded (List String)
  | .string type => .ok [type]
  | .array items =>
    match itemsFrom string 0 items with
    | .ok types => .ok types
    | .error _ => fail (.noVariant "TypesOr")
  | _ => fail (.noVariant "TypesOr")

/-- What is said about additional properties, given what the value is as a schema. No fault
inside that schema is shown. -/
def decodeAdditional (value : Json) (asSchema : Decoded Schema) : Decoded (Option Additional) :=
  match value with
  | .null => .ok none
  | .bool allowed => .ok (some (.allowed allowed))
  | _ =>
    match asSchema with
    | .ok schema => .ok (some (.schema schema))
    | .error _ => fail (.noVariant "AdditionalProperties")

/-- What a value is when it is read as a schema, as a list of schemas, and as a map of schemas. -/
structure Readings where
  schema : Unit → Decoded Schema
  list : Unit → Decoded (List Schema)
  map : Unit → Decoded (List (String × Schema))

/-- The reading that `null` stands for the lack of. -/
def unlessNull {α : Type} (value : Json) (read : Unit → Decoded α) : Decoded (Option α) :=
  match value with
  | .null => .ok none
  | _ => some <$> read ()

/-- Enters the value of a keyword, given its readings. -/
def Written.enter (w : Written) (value : Json) (as : Readings) : Keyword → Decoded Written
  | .type => do return { w with types := ← decodeTypes value }
  | .nullable => do return { w with isNullable := ← boolean value }
  | .properties => do return { w with properties := ← unlessNull value as.map }
  | .required => do return { w with required := ← listOf string value }
  | .additionalProperties => do
    return { w with additional := ← decodeAdditional value (as.schema ()) }
  | .items => do return { w with items := ← unlessNull value as.schema }
  | .enum => do return { w with values := ← optional (listOf .ok) value }
  | .oneOf => do return { w with oneOf := ← unlessNull value as.list }
  | .anyOf => do return { w with anyOf := ← unlessNull value as.list }
  | .allOf => do return { w with allOf := ← unlessNull value as.list }

mutual

/-- The schema of a value. -/
def decode : Json → Decoded Schema
  | .object entries => Written.classify <$> decodeEntries {} entries
  | .array items => Written.classify <$> decodeItems {} Keyword.all 0 items
  | other => fail (.invalidType other (.struct "RawSchema"))

/-- The schemas of a list. -/
def decodeList : Json → Decoded (List Schema)
  | .array items => decodeAll 0 items
  | other => fail (.invalidType other .sequence)

/-- The schemas of a map. -/
def decodeMap : Json → Decoded (List (String × Schema))
  | .object entries => decodeProperties entries
  | other => fail (.invalidType other .map)

/-- Enters the keywords of an object. -/
def decodeEntries (w : Written) : List (String × Json) → Decoded Written
  | [] => .ok w
  | (key, value) :: rest =>
    match Keyword.ofText? key with
    | none => decodeEntries w rest
    | some keyword => do
      let w ← below (.key key) (w.enter value ⟨fun _ => decode value, fun _ => decodeList value,
        fun _ => decodeMap value⟩ keyword)
      decodeEntries w rest

/-- Enters the values of a list, one for each keyword. -/
def decodeItems (w : Written) (keywords : List Keyword) (n : Nat) : List Json → Decoded Written
  | [] => .ok w
  | value :: rest =>
    match keywords with
    | [] => fail (.extraElements (n + rest.length + 1))
    | keyword :: keywords => do
      let w ← below (.index n) (w.enter value ⟨fun _ => decode value, fun _ => decodeList value,
        fun _ => decodeMap value⟩ keyword)
      decodeItems w keywords (n + 1) rest

/-- The schemas of the items from the one with index `n` on. -/
def decodeAll (n : Nat) : List Json → Decoded (List Schema)
  | [] => .ok []
  | item :: rest => do
    let schema ← below (.index n) (decode item)
    let schemas ← decodeAll (n + 1) rest
    return schema :: schemas

/-- The schemas of the entries. -/
def decodeProperties : List (String × Json) → Decoded (List (String × Schema))
  | [] => .ok []
  | (key, value) :: rest => do
    let schema ← below (.key key) (decode value)
    let schemas ← decodeProperties rest
    return (key, schema) :: schemas

end

end ApiTypes.Schema
