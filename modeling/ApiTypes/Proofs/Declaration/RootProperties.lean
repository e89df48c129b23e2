import ApiTypes.Proofs.Rendering.Diagnostics

/-!
# The properties of a declaration

Combinations, enumerations and objects have a place for the properties that are declared beside
their other keywords. In the declaration of such a schema every property is accounted for: it is
a member of the declared type, or something at or below it is reported.

## Main definitions

* `Schema.Written.ofJson` — the keywords of a schema, as they are read from its value
* `Schema.Written.KeepsProperties` — the keywords make a schema that has a place for properties

## Main results

* `Schema.Written.rootProperties_classify` — such a schema declares all properties that are read
* `Schema.member_or_reported` — what becomes of a property
* `Schema.properties_shown_or_reported` — no property is lost without a word
-/

namespace ApiTypes

/-- The steps below a place are added to its display. -/
theorem SchemaPath.exists_text_extend (path : SchemaPath) (steps : List Step) :
    ∃ rest, (path.extend steps).text = path.text ++ rest := by
  induction steps generalizing path with
  | nil => exact ⟨"", by simp⟩
  | cons step steps ih =>
    obtain ⟨rest, same⟩ := ih (path.child step)
    refine ⟨"." ++ step.text ++ rest, ?_⟩
    rw [SchemaPath.extend_cons, same, SchemaPath.text]
    simp only [String.append_assoc]

namespace Schema

open Decoding

/-! ### The declared type -/

section Declared

variable {schema : Schema} (format : NameFormat) (name : String)

theorem declaration_of_some {properties : PropertySet Schema}
    (declares : schema.rootProperties = some properties) :
    schema.declaration format name =
      ⟨exportedAlias (format.apply name) (.object (properties.render (.root name)).value),
        (properties.render (.root name)).diagnostics⟩ := by
  rw [declaration, rootType, declares]
  simp [bind, Reported.andThen, pure, Reported.of]

theorem declaration_of_none (bare : schema.rootProperties = none) :
    schema.declaration format name = ⟨exportedAlias (format.apply name) (.object []), []⟩ := by
  rw [declaration, rootType, bare]
  rfl

end Declared

/-! ### Schemas with a place for properties -/

namespace Written

/-- The keywords of a schema, as they are read from its value. -/
def ofJson : Json → Decoded Written
  | .object entries => decodeEntries {} entries
  | .array items => decodeItems {} Keyword.all 0 items
  | other => fail (.invalidType other (.struct "RawSchema"))

/-- A schema is decoded by sorting its keywords. -/
theorem decode_eq_classify (value : Json) : decode value = classify <$> ofJson value := by
  cases value with
  | object entries => rw [decode]; rfl
  | array items => rw [decode]; rfl
  | null | bool | number | string => simp [decode, ofJson, fail, Functor.map, Except.map]

/-- The keywords make a combination, an enumeration or an object: there is a branch, there is a
value, or the type is that of objects or not given. -/
def KeepsProperties (w : Written) : Prop :=
  (∃ branch branches, some (branch :: branches) ∈ [w.oneOf, w.anyOf, w.allOf]) ∨
    (∃ value values, w.values = some (value :: values)) ∨
      w.types ∈ [[], ["object"], ["object", "null"], ["null", "object"]]

variable {w : Written}

theorem isSome_combination? {branch : Schema} {branches : List Schema}
    (given : some (branch :: branches) ∈ [w.oneOf, w.anyOf, w.allOf]) :
    w.combination?.isSome := by
  rw [combination?, List.findSome?_isSome_iff]
  simp only [List.mem_cons, List.not_mem_nil, or_false] at given
  rcases given with given | given | given
  · exact ⟨(.oneOf, w.oneOf), by simp, by rw [← given]; rfl⟩
  · exact ⟨(.anyOf, w.anyOf), by simp, by rw [← given]; rfl⟩
  · exact ⟨(.allOf, w.allOf), by simp, by rw [← given]; rfl⟩

/-- Objects are the only schemas that these types make, if a property is declared. -/
theorem typing_object (objects : w.types ∈ [[], ["object"], ["object", "null"], ["null", "object"]])
    (declares : w.properties.isSome) :
    ∃ type isNullable, w.typing = .ok (type, isNullable) ∧
      w.ofType isNullable type = w.object isNullable := by
  simp only [List.mem_cons, List.not_mem_nil, or_false] at objects
  rcases objects with types | types | types | types
  · exact ⟨none, w.isNullable, by rw [typing, types], by simp [ofType, declares]⟩
  · exact ⟨some "object", w.isNullable, by rw [typing, types], rfl⟩
  · exact ⟨some "object", true, by rw [typing, types]; rfl, rfl⟩
  · exact ⟨some "object", true, by rw [typing, types]; rfl, rfl⟩

/-- A schema that has a place for properties declares all that are read. -/
theorem rootProperties_classify {entries : List (String × Schema)} (keeps : w.KeepsProperties)
    (declared : w.properties = some entries) (nonempty : entries ≠ []) :
    w.classify.rootProperties = some ⟨entries, w.required⟩ := by
  have shape : w.shape = some ⟨entries, w.required⟩ := by
    cases entries with
    | nil => exact absurd rfl nonempty
    | cons entry rest => rw [Written.shape, declared]
  unfold classify
  split
  · exact shape
  · next noCombination =>
    split
    · exact shape
    · next noEnumeration =>
      rcases keeps with ⟨_, _, given⟩ | ⟨value, values, given⟩ | objects
      · have combined := isSome_combination? given
        simp [noCombination] at combined
      · exact absurd given (noEnumeration value values)
      · obtain ⟨type, isNullable, typed, object⟩ := typing_object objects (by simp [declared])
        simp only [typed, object]
        simp [Written.object, rootProperties, declared]

end Written

/-! ### What becomes of a property -/

theorem exists_path_of_mem_defects {path : SchemaPath} {schema : Schema} {diagnostic : Diagnostic}
    (reported : diagnostic ∈ schema.defects path) :
    ∃ rest, diagnostic.path = path.text ++ rest := by
  obtain ⟨visit, -, found⟩ := List.mem_filterMap.mp reported
  obtain ⟨message, -, rfl⟩ := Option.map_eq_some_iff.mp found
  exact path.exists_text_extend visit.1

theorem classified_of_rootProperties {value : Json} {schema : Schema}
    {properties : PropertySet Schema} (decoded : decode value = .ok schema)
    (declares : schema.rootProperties = some properties) :
    ∀ entry ∈ properties.entries, entry.2.Classified := by
  cases classified_of_decode decoded with
  | combination _ _ _ eachBeside => exact eachBeside properties declares
  | enumeration _ _ eachBeside => exact eachBeside properties declares
  | object each _ _ =>
    obtain rfl := Option.some.inj declares
    exact each
  | primitive | array | unsupported => cases declares

/-- A property is rendered as a member, or else something is reported at it or below it. -/
theorem member_or_reported {path : SchemaPath} {required : List String}
    {entries : List (String × Schema)} {entry : String × Schema} (among : entry ∈ entries)
    (classified : entry.2.Classified) :
    (∃ member ∈ (renderEntries path required entries).value, member.key = Key.ofName entry.1) ∨
      ∃ diagnostic ∈ (renderEntries path required entries).diagnostics,
        ∃ rest, diagnostic.path = path.text ++ "." ++ entry.1 ++ rest := by
  set place := path.child (.property entry.1) with place_eq
  cases rendered : (entry.2.render place).value with
  | some type =>
    refine .inl ⟨.named entry.1 (!required.contains entry.1) type, ?_, rfl⟩
    rw [value_renderEntries, List.reduceOption_mem_iff]
    refine List.mem_map.mpr ⟨entry, among, ?_⟩
    simp [← place_eq, rendered]
  | none =>
    -- silence would have meant a type
    have reported : (entry.2.render place).diagnostics ≠ [] := by
      intro silent
      obtain ⟨type, rendered'⟩ := exists_value_of_silent classified silent
      simp [rendered] at rendered'
    obtain ⟨diagnostic, inside⟩ := List.exists_mem_of_ne_nil _ reported
    refine .inr ⟨diagnostic, ?_, ?_⟩
    · rw [diagnostics_renderEntries]
      exact List.mem_flatMap.mpr ⟨entry, among, inside⟩
    · rw [diagnostics_render_eq_defects] at inside
      exact exists_path_of_mem_defects inside

/-- Let the keywords of a schema make a combination, an enumeration or an object. Its declaration
has a member for each property that the keywords declare, unless something is reported at that
property or below it. -/
theorem properties_shown_or_reported {value : Json} {w : Written}
    (read : Written.ofJson value = .ok w) (keeps : w.KeepsProperties) (format : NameFormat)
    (name : String) :
    ∃ schema, decode value = .ok schema ∧
      ∃ members : List (Member TypeExpr),
        (schema.declaration format name).value =
            exportedAlias (format.apply name) (.object members) ∧
          ∀ property ∈ w.properties.getD [],
            (∃ member ∈ members, member.key = Key.ofName property.1) ∨
              ∃ diagnostic ∈ (schema.declaration format name).diagnostics,
                ∃ rest, diagnostic.path = name ++ "." ++ property.1 ++ rest := by
  have decoded : decode value = .ok w.classify := by
    rw [Written.decode_eq_classify, read]
    rfl
  refine ⟨w.classify, decoded, ?_⟩
  cases declared : w.properties.getD [] with
  | nil =>
    -- there is no property to account for
    cases bare : w.classify.rootProperties with
    | none => exact ⟨[], by rw [declaration_of_none format name bare], by simp⟩
    | some properties => exact ⟨_, by rw [declaration_of_some format name bare], by simp⟩
  | cons first rest =>
    have given : w.properties = some (first :: rest) := by
      cases same : w.properties with
      | none => simp [same] at declared
      | some entries => simpa [same] using declared
    have kept := Written.rootProperties_classify keeps given (List.cons_ne_nil first rest)
    rw [declaration_of_some format name kept]
    refine ⟨_, rfl, fun property among => ?_⟩
    exact member_or_reported among (classified_of_rootProperties decoded kept property among)

/-- Of an object that admits `null`, one property is a member and the other one is reported. -/
theorem properties_shown_or_reported_of_pet :
    let value : Json := .object [("type", .array [.string "object", .string "null"]),
      ("properties", .object [("name", .object [("type", .string "string")]),
        ("tags", .object [("oneOf", .array [.object [("type", .string "array")]])])])]
    let w : Written :=
      { types := ["object", "null"]
        properties := some [("name", .primitive .string false),
          ("tags", .combination .oneOf [.array none false] none)] }
    Written.ofJson value = .ok w ∧ w.KeepsProperties ∧
      ∃ schema, decode value = .ok schema ∧
        ∃ members : List (Member TypeExpr),
          (schema.declaration .bare "Pet").value =
              exportedAlias (NameFormat.bare.apply "Pet") (.object members) ∧
            ∀ property ∈ w.properties.getD [],
              (∃ member ∈ members, member.key = Key.ofName property.1) ∨
                ∃ diagnostic ∈ (schema.declaration .bare "Pet").diagnostics,
                  ∃ rest, diagnostic.path = "Pet" ++ "." ++ property.1 ++ rest := by
  intro value w
  have read : Written.ofJson value = .ok w := rfl
  have keeps : w.KeepsProperties := .inr (.inr (by simp [w]))
  exact ⟨read, keeps, properties_shown_or_reported read keeps .bare "Pet"⟩

/-- The property that is declared beside the type of strings is no member, and nothing is
reported. -/
theorem property_lost_beside_string :
    let value : Json := .object [("type", .string "string"),
      ("properties", .object [("a", .object [("type", .string "string")])])]
    let w : Written :=
      { types := ["string"], properties := some [("a", .primitive .string false)] }
    let declaration := (Schema.primitive .string false).declaration .bare "Root"
    Written.ofJson value = .ok w ∧ decode value = .ok (.primitive .string false) ∧
      ¬ ∃ members : List (Member TypeExpr),
        declaration.value = exportedAlias (NameFormat.bare.apply "Root") (.object members) ∧
          ∀ property ∈ w.properties.getD [],
            (∃ member ∈ members, member.key = Key.ofName property.1) ∨
              ∃ diagnostic ∈ declaration.diagnostics, diagnostic.path = "Root" ∨
                ∃ rest, diagnostic.path = "Root" ++ "." ++ property.1 ++ rest := by
  intro value w declaration
  have lost : declaration = ⟨exportedAlias (NameFormat.bare.apply "Root") (.object []), []⟩ :=
    declaration_of_none .bare "Root" rfl
  refine ⟨rfl, rfl, ?_⟩
  rintro ⟨members, same, accounted⟩
  rw [lost] at same accounted
  -- a member would stand on a line of its own, before the line of the closing brace
  have none : members = [] := by
    cases members with
    | nil => rfl
    | cons member rest =>
      have chars := congrArg String.toList same
      unfold exportedAlias at chars
      simp [TypeExpr.text, TypeExpr.layout, TypeExpr.layoutMembers, Piece.chars,
        Token.chars] at chars
  simp [none, w] at accounted

end Schema

end ApiTypes
