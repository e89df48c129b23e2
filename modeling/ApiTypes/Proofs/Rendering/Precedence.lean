import ApiTypes.Proofs.Rendering.Parts
import ApiTypes.Proofs.Schema.Classified
import ApiTypes.Proofs.TypeExpr.Reading

/-!
# Rendered types are read as they were written

Parentheses are added around unions and intersections that are elements of an array, around
unions of several members that are members of an intersection, and around combinations. That is
enough for every type that is rendered, because no union is the only member of another one.

## Main definitions

* `TypeExpr.Placeable` — the type fits every place once it has the parentheses that its place
  asks for

## Main results

* `Schema.placeable_render` — rendered types are placeable
* `Schema.exists_unique_reading_of_render` — a rendered type is read in one way, as a type alike
-/

namespace ApiTypes

namespace TypeExpr

/-- The type fits the place of any type; that of a member of an intersection, unless it is a
union of several members; and that of an element, unless it is a union or an intersection. -/
structure Placeable (type : TypeExpr) : Prop where
  loose : Fits (.chain .union) type
  asMember : type.isWideUnion = false → Fits (.chain .intersection) type
  asElement : type.isCombination = false → Fits .suffixed type

namespace Placeable

theorem of_fits {type : TypeExpr} (fits : ∀ strength, Fits strength type) : Placeable type :=
  ⟨fits _, fun _ => fits _, fun _ => fits _⟩

theorem keyword (word : Keyword) : Placeable (.keyword word) :=
  of_fits fun strength => .keyword strength word

theorem paren {inner : TypeExpr} (h : Fits (.chain .union) inner) : Placeable (.paren inner) :=
  of_fits fun strength => .paren strength h

theorem generic {name : String} {arguments : List TypeExpr} (nonempty : arguments ≠ [])
    (each : ∀ type ∈ arguments, Placeable type) : Placeable (.generic name arguments) :=
  of_fits fun strength => .generic strength nonempty fun type member => (each type member).loose

theorem nullable {type : TypeExpr} (h : Placeable type) (isNullable : Bool) :
    Placeable (type.nullable isNullable) := by
  cases isNullable
  · exact h
  · exact generic (List.cons_ne_nil _ _) (by simpa using h)

theorem record {type : TypeExpr} (h : Placeable type) : Placeable (.record type) :=
  generic (List.cons_ne_nil _ _) (by simpa using ⟨keyword .string, h⟩)

theorem object {members : List (Member TypeExpr)}
    (each : ∀ member ∈ members, Placeable member.type) : Placeable (.object members) :=
  of_fits fun strength => .object strength fun member among => (each member among).loose

theorem arrayOf {element : TypeExpr} (h : Placeable element) : Placeable (.arrayOf element) := by
  refine of_fits fun strength => .array strength ?_
  split
  · exact .paren _ h.loose
  · next other => exact h.asElement (by simpa using other)

theorem intersectionOf {members : List TypeExpr} (nonempty : members ≠ [])
    (each : ∀ type ∈ members, Placeable type) : Placeable (.intersectionOf members) := by
  have fits : Fits (.chain .intersection) (.intersectionOf members) := by
    refine Fits.chain (by simpa using nonempty) fun type among => ?_
    obtain ⟨member, inside, rfl⟩ := List.mem_map.mp among
    split
    · exact .paren _ (each member inside).loose
    · next narrow => exact (each member inside).asMember (by simpa using narrow)
  exact ⟨fits.loosen, fun _ => fits, by simp [TypeExpr.intersectionOf, isCombination]⟩

/-- A union of literals is narrow only if it has a single one. -/
theorem enumeration {values : List Json} (nonempty : values ≠ []) :
    Placeable (.union (values.map .ofJson)) := by
  refine ⟨?_, ?_, by simp [isCombination]⟩
  · refine Fits.chain (by simpa using nonempty) fun type among => ?_
    obtain ⟨value, -, rfl⟩ := List.mem_map.mp among
    exact .ofJson _ value
  · intro narrow
    match values with
    | [] => exact absurd rfl nonempty
    | [value] => exact .single .union (.ofJson _ value)
    | _ :: _ :: _ => simp [isWideUnion] at narrow

end Placeable

end TypeExpr

namespace Schema

open TypeExpr

theorem placeable_join {op : Combinator} {types : List TypeExpr} (nonempty : types ≠ [])
    (each : ∀ type ∈ types, Placeable type) : Fits (.chain .union) (op.join types) := by
  cases op with
  | oneOf | anyOf => exact Fits.chain nonempty fun type among => (each type among).loose
  | allOf => exact (Placeable.intersectionOf nonempty each).loose

theorem placeable_objectType {isNullable declares : Bool} {members : List (Member TypeExpr)}
    {additional : Option TypeExpr} (each : ∀ member ∈ members, Placeable member.type)
    (rest : ∀ type ∈ additional, Placeable type) :
    Placeable (objectType isNullable declares members additional) := by
  have body : Placeable ((TypeExpr.object members).nullable isNullable) :=
    (Placeable.object each).nullable isNullable
  unfold objectType
  split
  · split
    · next type =>
      refine .intersectionOf (List.cons_ne_nil _ _) ?_
      simpa using ⟨body, rest type rfl⟩
    · exact body
  · refine Placeable.nullable ?_ isNullable
    cases additional with
    | none => exact .record (.keyword .unknown)
    | some type => exact rest type rfl

/-- Every type that is rendered for a sorted schema is placeable. -/
theorem placeable_render {schema : Schema} (classified : schema.Classified) {path : SchemaPath}
    {type : TypeExpr} (rendered : (schema.render path).value = some type) : Placeable type := by
  induction classified generalizing path type with
  | combination _ _ _ _ ih _ =>
    simp only [render, Reported.value_bind, Reported.value_pure, Option.ite_none_left_eq_some,
      List.isEmpty_iff] at rendered
    obtain ⟨nonempty, same⟩ := rendered
    obtain rfl := Option.some.inj same
    -- inside its parentheses the combination only has to fit the place of any type
    refine .paren (placeable_join nonempty fun type member => ?_)
    obtain ⟨branch, among, _, renderedBranch⟩ := mem_value_renderBranches path member
    exact ih branch among renderedBranch
  | enumeration nonempty _ _ _ =>
    obtain rfl := Option.some.inj rendered
    exact .enumeration nonempty
  | primitive plain isNullable =>
    obtain rfl := Option.some.inj rendered
    refine Placeable.nullable ?_ isNullable
    cases plain <;> exact .keyword _
  | @object properties additional isNullable _ _ _ ih ihAdditional =>
    obtain rfl := Option.some.inj rendered
    refine placeable_objectType (fun member among => ?_) fun type given => ?_
    · obtain ⟨entry, inside, type, renderedEntry, rfl⟩ := mem_value_renderEntries path among
      exact ih entry inside renderedEntry
    · cases additional with
      | none => simp [renderAdditional] at given
      | some values =>
        obtain rfl := Option.some.inj given
        refine .record ?_
        cases renderedValues : (values.render (path.child .additionalProperties)).value with
        | none => exact .keyword .unknown  -- left out, so that any value is admitted
        | some type => exact ihAdditional values rfl renderedValues
  | @array items isNullable _ ih =>
    cases items with
    | none => simp [render] at rendered
    | some items =>
      obtain ⟨element, renderedItems, rfl⟩ := Option.map_eq_some_iff.mp rendered
      exact (Placeable.arrayOf (ih items rfl renderedItems)).nullable isNullable
  | unsupported _ => simp [render] at rendered

/-- A type that is rendered for a decoded schema is read from its tokens in exactly one way, as a
type alike: nothing in it is empty that a reader expects something in, and nothing is bound more
loosely than its place asks for. -/
theorem exists_unique_reading_of_render {value : Json} {schema : Schema} {path : SchemaPath}
    {type : TypeExpr} (decoded : decode value = .ok schema)
    (rendered : (schema.render path).value = some type) :
    Fits (.chain .union) type ∧
      ∃ tree : SyntaxTree (.type (.chain .union)), tree.tokens = type.tokens ∧
        (∀ other : SyntaxTree (.type (.chain .union)),
          other.tokens = type.tokens → other = tree) ∧
          Alike tree.meaning type := by
  have fits := (placeable_render (classified_of_decode decoded) rendered).loose
  exact ⟨fits, fits.exists_unique_tree⟩

/-- The reading of `(("a" | null) & Nullable<(true | 1)[]>)`, of which no parenthesis can be left
out. -/
theorem exists_unique_reading_of_enumerations_in_allOf :
    let value : Json := .object [("allOf", .array [
      .object [("enum", .array [.string "a", .null])],
      .object [("type", .string "array"), ("nullable", .bool true),
        ("items", .object [("enum", .array [.bool true, .number (.integer 1)])])]])]
    let schema : Schema := .combination .allOf
      [.enumeration [.string "a", .null] none,
        .array (some (.enumeration [.bool true, .number (.integer 1)] none)) true] none
    let type : TypeExpr := .paren (.intersection
      [.paren (.union [.literal (.string "a"), .keyword .null]),
        .generic "Nullable" [.array (.paren (.union
          [.literal (.bool true), .literal (.number (.integer 1))]))]])
    decode value = .ok schema ∧ (schema.render (.root "Tags")).value = some type ∧
      Fits (.chain .union) type ∧
        ∃ tree : SyntaxTree (.type (.chain .union)), tree.tokens = type.tokens ∧
          (∀ other : SyntaxTree (.type (.chain .union)),
            other.tokens = type.tokens → other = tree) ∧
            Alike tree.meaning type := by
  intro value schema type
  have decoded : decode value = .ok schema := rfl
  have rendered : (schema.render (.root "Tags")).value = some type := rfl
  exact ⟨decoded, rendered, exists_unique_reading_of_render decoded rendered⟩

end Schema

end ApiTypes
