import ApiTypes.Proofs.Declaration.RootProperties

/-!
# What a declaration depends on

Properties reach a declaration in four ways: from an object, from a schema without a type, and from
beside a combination or an enumeration. If the type is that of objects or not given, all four lead
to the same declaration: it can be written down from the properties and the required names alone.

## Main definitions

* `Schema.declarationOf` — the declaration that properties and required names make

## Main results

* `Schema.Written.entries_eq_nil` — without properties no schema declares one
* `Schema.Written.declaration_classify` — the declaration of an object, a combination or an
  enumeration
* `Schema.declaration_eq_of_properties_eq` — nothing else shows in the declaration
-/

namespace ApiTypes.Schema

/-- The declaration of an object type with the properties, under the bare name. -/
def declarationOf (format : NameFormat) (name : String) (entries : List (String × Schema))
    (required : List String) : Reported String := do
  let members ← renderEntries (.root name) required entries
  return exportedAlias (format.apply name) (.object members)

theorem declarationOf_eq (format : NameFormat) (name : String)
    (entries : List (String × Schema)) (required : List String) :
    declarationOf format name entries required =
      ⟨exportedAlias (format.apply name)
          (.object (renderEntries (.root name) required entries).value),
        (renderEntries (.root name) required entries).diagnostics⟩ := by
  simp [declarationOf, bind, Reported.andThen, pure, Reported.of]

variable {schema : Schema} (format : NameFormat) (name : String)

/-- A schema that declares no property is declared as an empty block. The required names do not
count. -/
theorem declaration_of_no_entries (required : List String)
    (bare : ∀ properties ∈ schema.rootProperties, properties.entries = []) :
    schema.declaration format name = declarationOf format name [] required := by
  have empty (required : List String) : renderEntries (.root name) required [] = ⟨[], []⟩ := rfl
  rw [declarationOf_eq, empty]
  cases declares : schema.rootProperties with
  | none => exact declaration_of_none format name declares
  | some properties =>
    rw [declaration_of_some format name declares, PropertySet.render, bare properties declares,
      empty]

namespace Written

variable {w : Written}

/-- A single type, or none, makes an object or a schema that cannot declare properties. -/
theorem ofType_eq_object_or (w : Written) (isNullable : Bool) (type : Option String) :
    w.ofType isNullable type = w.object isNullable ∨
      (w.ofType isNullable type).rootProperties = none := by
  unfold ofType
  split
  · exact .inr rfl
  · exact .inr rfl
  · exact .inr rfl
  · exact .inr rfl
  · exact .inr rfl
  · exact .inl rfl
  · exact .inr rfl
  · split
    · exact .inl rfl
    · exact .inr rfl

/-- Without properties, none are kept beside a combination or an enumeration, and an object has
none either. -/
theorem entries_eq_nil (nothing : w.properties.getD [] = []) :
    ∀ properties ∈ w.classify.rootProperties, properties.entries = [] := by
  have noShape : w.shape = none := by
    rcases Option.getD_eq_iff.mp nothing with given | ⟨given, -⟩
    · rw [shape, given]
    · rw [shape, given]
  unfold classify
  split
  · simp [rootProperties, noShape]
  · split
    · simp [rootProperties, noShape]
    · split
      · next type isNullable _ =>
        rcases w.ofType_eq_object_or isNullable type with object | bare
        · rw [object]
          rintro _ ⟨⟩
          exact nothing
        · simp [bare]
      · simp [rootProperties]

/-- However the keywords are sorted, the declaration is made of the properties and the required
names, if the type is that of objects or not given. -/
theorem declaration_classify
    (objects : w.types ∈ [[], ["object"], ["object", "null"], ["null", "object"]]) :
    w.classify.declaration format name =
      declarationOf format name (w.properties.getD []) w.required := by
  cases declared : w.properties.getD [] with
  | nil => exact declaration_of_no_entries format name w.required (entries_eq_nil declared)
  | cons first rest =>
    have given : w.properties = some (first :: rest) :=
      (Option.getD_eq_iff.mp declared).resolve_right (by simp)
    have kept := rootProperties_classify (.inr (.inr objects)) given (List.cons_ne_nil first rest)
    rw [declaration_of_some format name kept, declarationOf_eq, PropertySet.render]

end Written

/-- Two schemas whose type is that of objects or not given, and whose properties and required names
are the same, are declared with the same text and the same diagnostics, whatever else they say. No
properties are the same as an empty map of them. -/
theorem declaration_eq_of_properties_eq {value value' : Json} {w w' : Written}
    (read : Written.ofJson value = .ok w) (read' : Written.ofJson value' = .ok w')
    (objects : w.types ∈ [[], ["object"], ["object", "null"], ["null", "object"]])
    (objects' : w'.types ∈ [[], ["object"], ["object", "null"], ["null", "object"]])
    (properties : w.properties.getD [] = w'.properties.getD [])
    (required : w.required = w'.required) (format : NameFormat) (name : String) :
    ∃ schema schema', decode value = .ok schema ∧ decode value' = .ok schema' ∧
      schema.declaration format name = schema'.declaration format name := by
  refine ⟨w.classify, w'.classify, ?_, ?_, ?_⟩
  · rw [Written.decode_eq_classify, read]
    rfl
  · rw [Written.decode_eq_classify, read']
    rfl
  · calc w.classify.declaration format name
      _ = declarationOf format name (w.properties.getD []) w.required :=
        Written.declaration_classify format name objects
      _ = declarationOf format name (w'.properties.getD []) w'.required := by
        rw [properties, required]
      _ = w'.classify.declaration format name :=
        (Written.declaration_classify format name objects').symm

/-- A combination with an enumeration that does not count, and an object that admits `null` and has
additional properties: of two properties, both declare one and report the other. -/
theorem declaration_eq_of_pet_and_union :
    let properties : Json := .object [("name", .object [("type", .string "string")]),
      ("tags", .object [("type", .string "array")])]
    let value : Json := .object [("properties", properties),
      ("required", .array [.string "name"]), ("enum", .array [.null]),
      ("oneOf", .array [.object [("type", .string "integer")]])]
    let value' : Json := .object [("type", .array [.string "null", .string "object"]),
      ("additionalProperties", .object [("type", .string "number")]),
      ("required", .array [.string "name"]), ("properties", properties)]
    let entries : List (String × Schema) :=
      [("name", .primitive .string false), ("tags", .array none false)]
    let w : Written :=
      { properties := some entries, required := ["name"], values := some [.null]
        oneOf := some [.primitive .integer false] }
    let w' : Written :=
      { types := ["null", "object"], properties := some entries, required := ["name"]
        additional := some (.schema (.primitive .number false)) }
    (Written.ofJson value = .ok w ∧ Written.ofJson value' = .ok w' ∧
      w.types ∈ [[], ["object"], ["object", "null"], ["null", "object"]] ∧
      w'.types ∈ [[], ["object"], ["object", "null"], ["null", "object"]] ∧
      w.properties.getD [] = w'.properties.getD [] ∧ w.required = w'.required) ∧
    ∃ schema schema', decode value = .ok schema ∧ decode value' = .ok schema' ∧
      schema.declaration .bare "Pet" = schema'.declaration .bare "Pet" := by
  intro properties value value' entries w w'
  have read : Written.ofJson value = .ok w := rfl
  have read' : Written.ofJson value' = .ok w' := rfl
  have objects : w.types ∈ [[], ["object"], ["object", "null"], ["null", "object"]] := by
    simp [w]
  have objects' : w'.types ∈ [[], ["object"], ["object", "null"], ["null", "object"]] := by
    simp [w']
  exact ⟨⟨read, read', objects, objects', rfl, rfl⟩,
    declaration_eq_of_properties_eq read read' objects objects' rfl rfl .bare "Pet"⟩

end ApiTypes.Schema
