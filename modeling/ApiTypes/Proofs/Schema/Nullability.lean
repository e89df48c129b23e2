import ApiTypes.Declaration
import ApiTypes.Proofs.Schema.Alike

/-!
# Two spellings of nullability

A type admits `null` if `nullable` says so, or if `"null"` is listed beside it. The two spellings
mean the same: wherever in a schema the first one is replaced by the second, at any number of
places and at any depth, the schema that is decoded stays the same.

## Main definitions

* `Schema.retype` — the keywords of a schema with another value of `type` and of `nullable`
* `Schema.Retyped` — a type with `nullable` is replaced by a list of that type and `"null"`
* `Schema.Respelled` — this is done at any schemas that stand in a value

## Main results

* `Schema.Written.classify_retyped` — sorting does not tell the spellings apart
* `Schema.decodeEntries_retype` — how the keywords of one schema are read after the replacement
* `Schema.decode_respelled` — every respelling of a schema decodes to the same schema
-/

namespace ApiTypes.Schema

open Decoding Outcome

/-! ### Spellings -/

/-- The keywords with another value of `type`, and with another value of `nullable` or without
it. -/
def retype (types : Json) (nullable : Option Bool) (entries : List (String × Json)) :
    List (String × Json) :=
  entries.filterMap fun (key, value) =>
    if key = "type" then some (key, types)
    else if key = "nullable" then nullable.map fun admitted => (key, .bool admitted)
    else some (key, value)

/-- The entry is there, and it is the only one with its key. -/
def Declares (key : String) (value : Json) (entries : List (String × Json)) : Prop :=
  (key, value) ∈ entries ∧ ∀ other, (key, other) ∈ entries → other = value

/-- A type, other than `"null"`, that `nullable` lets admit `null` is replaced by the list of it
and `"null"`, in either order. What `nullable` says afterwards is free. -/
def Retyped (entries entries' : List (String × Json)) : Prop :=
  ∃ type types nullable, type ≠ "null" ∧
    Declares "type" (.string type) entries ∧ Declares "nullable" (.bool true) entries ∧
      types ∈ [[Json.string type, .string "null"], [.string "null", .string type]] ∧
        entries' = retype (.array types) nullable entries

mutual

/-- The second value is the first one with any of the schemas that are written as an object
retyped: itself, or schemas inside it. -/
inductive Respelled : Json → Json → Prop
  | same (value : Json) : Respelled value value
  | inside {entries entries' : List (String × Json)} (each : RespelledEntries entries entries') :
      Respelled (.object entries) (.object entries')
  | node {entries inner entries' : List (String × Json)} (each : RespelledEntries entries inner)
      (retyped : Retyped inner entries') : Respelled (.object entries) (.object entries')
  | positional {items items' : List Json} (each : RespelledItems Keyword.all items items') :
      Respelled (.array items) (.array items')

/-- Respells the values of keywords. -/
inductive RespelledEntries : List (String × Json) → List (String × Json) → Prop
  | nil : RespelledEntries [] []
  | cons {key : String} {keyword : Option Keyword} {value value' : Json}
      {rest rest' : List (String × Json)} (names : Keyword.ofText? key = keyword)
      (head : RespelledAt keyword value value') (tail : RespelledEntries rest rest') :
      RespelledEntries ((key, value) :: rest) ((key, value') :: rest')

/-- Respells the values of keywords in a schema that is written as a list. -/
inductive RespelledItems : List Keyword → List Json → List Json → Prop
  | nil (keywords : List Keyword) : RespelledItems keywords [] []
  | cons {keyword : Keyword} {keywords : List Keyword} {value value' : Json}
      {rest rest' : List Json} (head : RespelledAt (some keyword) value value')
      (tail : RespelledItems keywords rest rest') :
      RespelledItems (keyword :: keywords) (value :: rest) (value' :: rest')

/-- Respells the value of one keyword. Only some keywords have schemas in their values. -/
inductive RespelledAt : Option Keyword → Json → Json → Prop
  | same (keyword : Option Keyword) (value : Json) : RespelledAt keyword value value
  | items {value value' : Json} (inside : Respelled value value') :
      RespelledAt (some .items) value value'
  | additional {value value' : Json} (inside : Respelled value value') :
      RespelledAt (some .additionalProperties) value value'
  | branches {keyword : Keyword} {items items' : List Json}
      (joins : keyword ∈ [Keyword.oneOf, .anyOf, .allOf]) (each : RespelledAll items items') :
      RespelledAt (some keyword) (.array items) (.array items')
  | properties {entries entries' : List (String × Json)}
      (each : RespelledProperties entries entries') :
      RespelledAt (some .properties) (.object entries) (.object entries')

/-- Respells the schemas of a list. -/
inductive RespelledAll : List Json → List Json → Prop
  | nil : RespelledAll [] []
  | cons {value value' : Json} {rest rest' : List Json} (head : Respelled value value')
      (tail : RespelledAll rest rest') : RespelledAll (value :: rest) (value' :: rest')

/-- Respells the schemas of a map. -/
inductive RespelledProperties : List (String × Json) → List (String × Json) → Prop
  | nil : RespelledProperties [] []
  | cons {key : String} {value value' : Json} {rest rest' : List (String × Json)}
      (head : Respelled value value') (tail : RespelledProperties rest rest') :
      RespelledProperties ((key, value) :: rest) ((key, value') :: rest')

end

/-! ### Sorting -/

namespace Written

/-- The keywords with other types, and with `null` admitted or not. -/
def retyped (w : Written) (types : List String) (isNullable : Bool) : Written :=
  { w with types, isNullable }

variable {w v : Written} {type : String} {types : List String}

theorem typing_retyped (ordinary : type ≠ "null")
    (listed : types ∈ [[type, "null"], ["null", type]]) (admitted : Bool) :
    (w.retyped types admitted).typing = .ok (some type, true) := by
  rcases List.mem_pair.mp listed with rfl | rfl
  · simp [typing, retyped, ordinary]
  · simp [typing, retyped, ordinary]

/-- Sorting does not tell apart a type with `nullable` and the list of it and `"null"`. -/
theorem classify_retyped (ordinary : type ≠ "null")
    (listed : types ∈ [[type, "null"], ["null", type]]) (admitted : Bool) :
    (w.retyped types admitted).classify = (w.retyped [type] true).classify := by
  have listing : (w.retyped types admitted).typing = .ok (some type, true) :=
    typing_retyped ordinary listed admitted
  have single : (w.retyped [type] true).typing = .ok (some type, true) := rfl
  -- the types are all that sorting could tell them apart by
  have sameCombination : (w.retyped types admitted).combination? =
    (w.retyped [type] true).combination? := rfl
  have sameShape : (w.retyped types admitted).shape = (w.retyped [type] true).shape := rfl
  have sameValues : (w.retyped types admitted).values = (w.retyped [type] true).values := rfl
  have sameType : (w.retyped types admitted).ofType = (w.retyped [type] true).ofType := rfl
  rw [classify, classify, sameCombination, sameShape, sameValues, sameType, listing, single]

/-- Entering another keyword neither reads nor writes the types and what `nullable` says. -/
theorem enter_retyped {value : Json} {as : Readings} {keyword : Keyword}
    (noType : keyword ≠ .type) (noNullable : keyword ≠ .nullable)
    (entered : w.enter value as keyword = .ok v) (types : List String) (admitted : Bool) :
    (w.retyped types admitted).enter value as keyword = .ok (v.retyped types admitted) := by
  cases keyword with
  | type => exact absurd rfl noType
  | nullable => exact absurd rfl noNullable
  | properties | required | additionalProperties | items | enum | oneOf | anyOf | allOf =>
    obtain ⟨result, read, entered⟩ := bind_eq_ok_iff.mp entered
    obtain rfl := Except.ok.inj entered
    exact bind_eq_ok_iff.mpr ⟨result, read, rfl⟩

end Written

/-! ### Keywords with another type -/

theorem decodeTypes_of_listed {type : String} {types : List Json}
    (listed : types ∈ [[Json.string type, .string "null"], [.string "null", .string type]]) :
    ∃ texts ∈ [[type, "null"], ["null", type]], decodeTypes (.array types) = .ok texts := by
  rcases List.mem_pair.mp listed with rfl | rfl
  · exact ⟨[type, "null"], List.mem_cons_self, rfl⟩
  · exact ⟨["null", type], List.mem_cons_of_mem _ List.mem_cons_self, rfl⟩

section Retype

variable {types : Json} {nullable : Option Bool} {rest : List (String × Json)}

theorem retype_cons_type (value : Json) : retype types nullable (("type", value) :: rest) =
    ("type", types) :: retype types nullable rest := rfl

theorem retype_cons_nullable (value : Json) :
    retype types nullable (("nullable", value) :: rest) =
      (nullable.map fun admitted => ("nullable", Json.bool admitted)).toList ++
        retype types nullable rest := by
  cases nullable <;> rfl

theorem retype_cons_of_ne {key : String} (value : Json) (noType : key ≠ "type")
    (noNullable : key ≠ "nullable") : retype types nullable ((key, value) :: rest) =
      (key, value) :: retype types nullable rest := by
  rw [retype, List.filterMap_cons_some]
  · rfl
  · simp [noType, noNullable]

end Retype

/-- Retyped keywords are read as the given types, and otherwise as before. -/
theorem decodeEntries_retype {types : Json} {texts : List String}
    (decodes : decodeTypes types = .ok texts) (nullable : Option Bool)
    {entries : List (String × Json)} {w v : Written} (known : List String) (admitted : Bool)
    (read : decodeEntries w entries = .ok v) :
    decodeEntries (w.retyped known admitted) (retype types nullable entries) =
      .ok (v.retyped (if "type" ∈ entries.map Prod.fst then texts else known)
        (if "nullable" ∈ entries.map Prod.fst then nullable.getD admitted else admitted)) := by
  induction entries generalizing w known admitted with
  | nil =>
    rw [decodeEntries] at read
    obtain rfl := Except.ok.inj read
    rfl
  | cons entry rest ih =>
    obtain ⟨key, value⟩ := entry
    rw [List.map_cons]
    by_cases isType : key = "type"
    · subst isType
      have named : Keyword.ofText? "type" = some .type := rfl
      obtain ⟨next, entered, read⟩ := (decodeEntries_cons_eq_ok_iff named).mp read
      obtain ⟨listed, -, set⟩ := bind_eq_ok_iff.mp entered
      obtain rfl := Except.ok.inj set
      -- what was listed is overwritten
      have entered' : (w.retyped known admitted).enter types (readings types) .type =
          .ok (w.retyped texts admitted) := bind_eq_ok_iff.mpr ⟨texts, decodes, rfl⟩
      rw [retype_cons_type, decodeEntries_cons_of_some named entered']
      have tail := ih texts admitted read
      change decodeEntries (w.retyped texts admitted) _ = _ at tail
      simpa only [List.mem_cons, String.reduceEq, true_or, false_or, if_true, ite_self] using tail
    by_cases isNullable : key = "nullable"
    · subst isNullable
      have named : Keyword.ofText? "nullable" = some .nullable := rfl
      obtain ⟨next, entered, read⟩ := (decodeEntries_cons_eq_ok_iff named).mp read
      obtain ⟨before, -, set⟩ := bind_eq_ok_iff.mp entered
      obtain rfl := Except.ok.inj set
      rw [retype_cons_nullable]
      cases nullable with
      | none =>
        have tail := ih known admitted read
        change decodeEntries (w.retyped known admitted) _ = _ at tail
        rw [Option.map_none, Option.toList_none, List.nil_append]
        simpa only [List.mem_cons, String.reduceEq, false_or, Option.getD_none, ite_self] using tail
      | some admitted' =>
        have entered' : (w.retyped known admitted).enter (.bool admitted')
            (readings (.bool admitted')) .nullable = .ok (w.retyped known admitted') :=
          bind_eq_ok_iff.mpr ⟨admitted', rfl, rfl⟩
        have tail := ih known admitted' read
        change decodeEntries (w.retyped known admitted') _ = _ at tail
        rw [Option.map_some, Option.toList_some, List.singleton_append,
          decodeEntries_cons_of_some named entered']
        simpa only [List.mem_cons, String.reduceEq, true_or, false_or, if_true, Option.getD_some,
          ite_self] using tail
    -- any other key keeps its value, and what is read from it does not depend on the types
    rw [retype_cons_of_ne value isType isNullable]
    simp only [List.mem_cons, Ne.symm isType, Ne.symm isNullable, false_or]
    cases named : Keyword.ofText? key with
    | none =>
      rw [decodeEntries_cons_of_none named] at read ⊢
      exact ih known admitted read
    | some keyword =>
      obtain ⟨next, entered, read⟩ := (decodeEntries_cons_eq_ok_iff named).mp read
      have text := text_of_ofText? named
      have noType : keyword ≠ .type := by
        rintro rfl
        exact isType text.symm
      have noNullable : keyword ≠ .nullable := by
        rintro rfl
        exact isNullable text.symm
      have entered' := Written.enter_retyped noType noNullable entered known admitted
      rw [decodeEntries_cons_of_some named entered']
      exact ih known admitted read

/-- A type that is retyped as itself stays. -/
theorem Declares.retype_eq {type : Json} {entries : List (String × Json)}
    (typed : Declares "type" type entries) (admits : Declares "nullable" (.bool true) entries) :
    retype type (some true) entries = entries := by
  have unchanged : ∀ entry ∈ entries, (fun (key, value) =>
      if key = "type" then some (key, type)
      else if key = "nullable" then (some true).map fun admitted => (key, Json.bool admitted)
      else some (key, value)) entry = some entry := by
    rintro ⟨key, value⟩ member
    by_cases isType : key = "type"
    · subst isType
      simp [typed.2 value member]
    · by_cases isNullable : key = "nullable"
      · subst isNullable
        simp [admits.2 value member]
      · simp [isType, isNullable]
  rw [retype, List.filterMap_congr unchanged, List.filterMap_some]

/-- A schema that is retyped makes the same schema. -/
theorem Retyped.classify_eq {entries entries' : List (String × Json)} {v : Written}
    (h : Retyped entries entries') (read : decodeEntries {} entries = .ok v) :
    ∃ v', decodeEntries {} entries' = .ok v' ∧ v'.classify = v.classify := by
  obtain ⟨type, types, nullable, ordinary, typed, admits, listed, rfl⟩ := h
  have hasType : "type" ∈ entries.map Prod.fst := List.mem_map_of_mem typed.1
  have hasNullable : "nullable" ∈ entries.map Prod.fst := List.mem_map_of_mem admits.1
  obtain ⟨texts, listedTexts, decodes⟩ := decodeTypes_of_listed listed
  have read' := decodeEntries_retype decodes nullable [] false read
  refine ⟨_, read', ?_⟩
  -- what was read before is what is read when the type is retyped as itself
  have single : decodeTypes (.string type) = .ok [type] := rfl
  have again := decodeEntries_retype single (some true) [] false read
  rw [typed.retype_eq admits, if_pos hasType, if_pos hasNullable] at again
  have same : v = v.retyped [type] true := Except.ok.inj (read.symm.trans again)
  rw [if_pos hasType, Written.classify_retyped ordinary listedTexts, ← same]

/-! ### Schemas inside schemas -/

theorem Respelled.eq_null_iff {value value' : Json} (h : Respelled value value') :
    value = .null ↔ value' = .null := by
  cases h with
  | same => rfl
  | inside | node | positional => simp

theorem decodeAdditional_eq_ok {value value' : Json} {result : Option Additional}
    (h : Respelled value value')
    (alike : ∀ schema, decode value = .ok schema → decode value' = .ok schema)
    (given : decodeAdditional value (decode value) = .ok result) :
    decodeAdditional value' (decode value') = .ok result := by
  cases h with
  | same => exact given
  | inside | node | positional =>
    -- neither value is a boolean, so both are read as schemas
    simp only [decodeAdditional] at given ⊢
    split at given
    · next schema decoded =>
      rw [alike schema decoded]
      exact given
    · simp [fail] at given

mutual

/-- A respelled schema decodes to the same schema. -/
theorem Respelled.decode_eq {value value' : Json} : Respelled value value' →
    ∀ schema, decode value = .ok schema → decode value' = .ok schema
  | .same _, _, decoded => decoded
  | .inside each, _, decoded => by
    rw [decode] at decoded ⊢
    obtain ⟨w, read, rfl⟩ := map_eq_ok_iff.mp decoded
    exact map_eq_ok_iff.mpr ⟨w, each.decodeEntries_eq _ _ read, rfl⟩
  | .node each retyped, _, decoded => by
    rw [decode] at decoded ⊢
    obtain ⟨w, read, rfl⟩ := map_eq_ok_iff.mp decoded
    -- the keywords that are retyped here have been respelled inside already
    obtain ⟨w', read', same⟩ := retyped.classify_eq (each.decodeEntries_eq _ _ read)
    exact map_eq_ok_iff.mpr ⟨w', read', same⟩
  | .positional each, _, decoded => by
    rw [decode] at decoded ⊢
    obtain ⟨w, read, rfl⟩ := map_eq_ok_iff.mp decoded
    exact map_eq_ok_iff.mpr ⟨w, each.decodeItems_eq _ _ _ read, rfl⟩

theorem RespelledEntries.decodeEntries_eq {entries entries' : List (String × Json)} :
    RespelledEntries entries entries' →
      ∀ w v, decodeEntries w entries = .ok v → decodeEntries w entries' = .ok v
  | .nil, _, _, read => read
  | .cons names head tail, _, _, read =>
    decodeEntries_cons_eq_ok names head.enter_eq tail.decodeEntries_eq read

theorem RespelledItems.decodeItems_eq {keywords : List Keyword} {items items' : List Json} :
    RespelledItems keywords items items' →
      ∀ w v n, decodeItems w keywords n items = .ok v → decodeItems w keywords n items' = .ok v
  | .nil _, _, _, _, read => read
  | @RespelledItems.cons keyword _ _ _ _ _ head tail, w, v, n, read => by
    rw [decodeItems] at read ⊢
    obtain ⟨next, entered, read⟩ := bind_eq_ok_iff.mp read
    rw [below_eq_ok_iff] at entered
    refine bind_eq_ok_iff.mpr ⟨next, ?_, tail.decodeItems_eq next v (n + 1) read⟩
    rw [below_eq_ok_iff]
    exact head.enter_eq keyword rfl w next entered

theorem RespelledAt.enter_eq {named : Option Keyword} {value value' : Json} :
    RespelledAt named value value' → ∀ keyword, named = some keyword → ∀ w v : Written,
      w.enter value (readings value) keyword = .ok v →
        w.enter value' (readings value') keyword = .ok v
  | .same _ _, _, _, _, _, entered => entered
  | .items inside, _, is, w, v, entered => by
    obtain rfl := Option.some.inj is
    obtain ⟨result, read, set⟩ := bind_eq_ok_iff.mp entered
    refine bind_eq_ok_iff.mpr ⟨result, ?_, set⟩
    exact unlessNull_eq_ok inside.eq_null_iff inside.decode_eq read
  | .additional inside, _, is, w, v, entered => by
    obtain rfl := Option.some.inj is
    obtain ⟨result, read, set⟩ := bind_eq_ok_iff.mp entered
    refine bind_eq_ok_iff.mpr ⟨result, ?_, set⟩
    exact decodeAdditional_eq_ok inside inside.decode_eq read
  | .branches joins each, _, is, w, v, entered => by
    obtain rfl := Option.some.inj is
    exact enter_branches_eq_ok joins (each.decodeAll_eq 0) entered
  | .properties each, _, is, w, v, entered => by
    obtain rfl := Option.some.inj is
    exact enter_properties_eq_ok each.decodeProperties_eq entered

theorem RespelledAll.decodeAll_eq {items items' : List Json} : RespelledAll items items' →
    ∀ n schemas, decodeAll n items = .ok schemas → decodeAll n items' = .ok schemas
  | .nil, _, _, decoded => decoded
  | .cons head tail, n, _, decoded =>
    decodeAll_cons_eq_ok head.decode_eq (tail.decodeAll_eq (n + 1)) decoded

theorem RespelledProperties.decodeProperties_eq {entries entries' : List (String × Json)} :
    RespelledProperties entries entries' →
      ∀ schemas, decodeProperties entries = .ok schemas → decodeProperties entries' = .ok schemas
  | .nil, _, decoded => decoded
  | .cons head tail, _, decoded =>
    decodeProperties_cons_eq_ok head.decode_eq tail.decodeProperties_eq decoded

end

/-- However the types in a schema that admit `null` are spelled, the same schema is decoded, and so
the same type and the same declaration are written, with the same diagnostics. -/
theorem decode_respelled {value value' : Json} {schema : Schema}
    (decoded : decode value = .ok schema) (respelled : Respelled value value') :
    ∃ schema', decode value' = .ok schema' ∧ schema' = schema ∧
      (∀ path, schema'.render path = schema.render path) ∧
      ∀ format name, schema'.declaration format name = schema.declaration format name :=
  ⟨schema, respelled.decode_eq schema decoded, rfl, fun _ => rfl, fun _ _ => rfl⟩

/-- An object that admits `null` is respelled, and so are one of its properties and the items of
another one. -/
theorem decode_respelled_of_pet :
    let value : Json := .object [("nullable", .bool true), ("type", .string "object"),
      ("properties", .object [
        ("name", .object [("type", .string "string"), ("nullable", .bool true)]),
        ("tags", .object [("type", .string "array"),
          ("items", .object [("type", .string "integer"), ("nullable", .bool true)])])])]
    let value' : Json := .object [("nullable", .bool false),
      ("type", .array [.string "null", .string "object"]),
      ("properties", .object [
        ("name", .object [("type", .array [.string "string", .string "null"])]),
        ("tags", .object [("type", .string "array"),
          ("items", .object [("type", .array [.string "integer", .string "null"]),
            ("nullable", .bool true)])])])]
    let schema : Schema := .object ⟨[("name", .primitive .string true),
      ("tags", .array (some (.primitive .integer true)) false)], []⟩ none true
    decode value = .ok schema ∧ Respelled value value' ∧
      ∃ schema', decode value' = .ok schema' ∧ schema' = schema ∧
        (∀ path, schema'.render path = schema.render path) ∧
        ∀ format name, schema'.declaration format name = schema.declaration format name := by
  intro value value' schema
  have decoded : decode value = .ok schema := rfl
  have name : Respelled (.object [("type", .string "string"), ("nullable", .bool true)])
      (.object [("type", .array [.string "string", .string "null"])]) := by
    refine .node (.cons rfl (.same _ _) (.cons rfl (.same _ _) .nil)) ?_
    exact ⟨"string", _, none, by decide, by simp [Declares], by simp [Declares],
      List.mem_cons_self, rfl⟩
  have items : Respelled (.object [("type", .string "integer"), ("nullable", .bool true)])
      (.object [("type", .array [.string "integer", .string "null"]),
        ("nullable", .bool true)]) := by
    refine .node (.cons rfl (.same _ _) (.cons rfl (.same _ _) .nil)) ?_
    exact ⟨"integer", _, some true, by decide, by simp [Declares], by simp [Declares],
      List.mem_cons_self, rfl⟩
  have respelled : Respelled value value' := by
    refine .node (.cons rfl (.same _ _) (.cons rfl (.same _ _) (.cons rfl (.properties
      (.cons name (.cons (.inside (.cons rfl (.same _ _) (.cons rfl (.items items) .nil)))
        .nil))) .nil))) ?_
    exact ⟨"object", _, some false, by decide, by simp [Declares], by simp [Declares],
      List.mem_cons_of_mem _ List.mem_cons_self, rfl⟩
  exact ⟨decoded, respelled, decode_respelled decoded respelled⟩

end ApiTypes.Schema
