import ApiTypes.Declaration
import ApiTypes.Proofs.Rendering.Diagnostics

/-!
# The shape of rendered types

Types are rendered with two generic names only: that of the alias which admits `null`, around one
type, and `Record`, from strings to one type. The keys of object types are made from names.

## Main definitions

* `TypeExpr.Rendered` — the types that are built in this way

## Main results

* `Rendered.of_within`, `Rendered.generic_cases` — the generic types inside such a type
* `Schema.rendered_render`, `Schema.rendered_rootType` — schemas are rendered as such types
-/

namespace ApiTypes

namespace TypeExpr

/-- The types that are built from words and literals with combinations, arrays, object types, the
alias for `null` and records. -/
inductive Rendered : TypeExpr → Prop
  | keyword (word : Keyword) : Rendered (.keyword word)
  | literal (value : Literal) : Rendered (.literal value)
  | union {members : List TypeExpr} (each : ∀ type ∈ members, Rendered type) :
      Rendered (.union members)
  | intersection {members : List TypeExpr} (each : ∀ type ∈ members, Rendered type) :
      Rendered (.intersection members)
  | array {element : TypeExpr} (inside : Rendered element) : Rendered (.array element)
  | paren {inner : TypeExpr} (inside : Rendered inner) : Rendered (.paren inner)
  | orNull {type : TypeExpr} (inside : Rendered type) : Rendered (.generic nullableName [type])
  | record {type : TypeExpr} (inside : Rendered type) : Rendered (.record type)
  | object {members : List (Member TypeExpr)}
      (names : ∀ member ∈ members, ∃ name, member.key = Key.ofName name)
      (each : ∀ member ∈ members, Rendered member.type) : Rendered (.object members)

namespace Rendered

variable {type : TypeExpr}

theorem nullable (h : Rendered type) (isNullable : Bool) : Rendered (type.nullable isNullable) := by
  cases isNullable
  · exact h
  · exact .orNull h

theorem arrayOf (h : Rendered type) : Rendered (.arrayOf type) := by
  refine .array ?_
  split
  · exact .paren h
  · exact h

theorem intersectionOf {members : List TypeExpr} (each : ∀ type ∈ members, Rendered type) :
    Rendered (.intersectionOf members) := by
  refine .intersection fun type among => ?_
  obtain ⟨member, inside, rfl⟩ := List.mem_map.mp among
  split
  · exact .paren (each member inside)
  · exact each member inside

theorem ofJson (value : Json) : Rendered (.ofJson value) := by
  cases value
  case null => exact .keyword .null
  all_goals exact .literal _

theorem of_mem_parts (h : Rendered type) {part : TypeExpr} (among : part ∈ type.parts) :
    Rendered part := by
  cases h with
  | keyword | literal => cases among
  | union each | intersection each => exact each part among
  | array inside | paren inside | orNull inside => exact List.mem_singleton.mp among ▸ inside
  | record inside =>
    rcases List.mem_cons.mp among with rfl | isValue
    · exact .keyword .string
    · exact List.mem_singleton.mp isValue ▸ inside
  | object _ each =>
    obtain ⟨member, inside, rfl⟩ := List.mem_map.mp among
    exact each member inside

/-- Everything inside a rendered type is rendered as well. -/
theorem of_within {inner : TypeExpr} (inside : Within inner type) (h : Rendered type) :
    Rendered inner := by
  -- what the innermost type is part of is rendered already
  induction inside using Relation.ReflTransGen.head_induction_on with
  | refl => exact h
  | head part _ ih => exact ih.of_mem_parts part

end Rendered

end TypeExpr

namespace Schema

open TypeExpr (Rendered)

theorem rendered_join (op : Combinator) {types : List TypeExpr}
    (each : ∀ type ∈ types, Rendered type) : Rendered (op.join types) := by
  cases op with
  | oneOf | anyOf => exact .union each
  | allOf => exact .intersectionOf each

theorem rendered_objectType {isNullable declares : Bool} {members : List (Member TypeExpr)}
    {additional : Option TypeExpr} (body : Rendered (.object members))
    (rest : ∀ type ∈ additional, Rendered type) :
    Rendered (objectType isNullable declares members additional) := by
  unfold objectType
  split
  · split
    · next type =>
      refine .intersectionOf fun member among => ?_
      rcases List.mem_cons.mp among with rfl | isRest
      · exact body.nullable isNullable
      · exact List.mem_singleton.mp isRest ▸ rest type rfl
    · exact body.nullable isNullable
  · refine Rendered.nullable ?_ isNullable
    cases additional with
    | none => exact .record (.keyword .unknown)
    | some type => exact rest type rfl

/-- The properties make the body of an object type if their types are rendered. -/
theorem rendered_entries {path : SchemaPath} {required : List String}
    {entries : List (String × Schema)}
    (each : ∀ entry ∈ entries, ∀ (path : SchemaPath) (type : TypeExpr),
      (entry.2.render path).value = some type → Rendered type) :
    Rendered (.object (renderEntries path required entries).value) := by
  refine .object (fun member among => ?_) fun member among => ?_
  · obtain ⟨entry, -, type, -, rfl⟩ := mem_value_renderEntries path among
    exact ⟨entry.1, rfl⟩
  · obtain ⟨entry, inside, type, rendered, rfl⟩ := mem_value_renderEntries path among
    exact each entry inside _ type rendered

theorem rendered_render (schema : Schema) : ∀ (path : SchemaPath) (type : TypeExpr),
    (schema.render path).value = some type → Rendered type := by
  induction schema using Schema.induction with
  | combination op branches beside ih _ =>
    intro path type rendered
    simp only [render, Reported.value_bind, Reported.value_pure, Option.ite_none_left_eq_some]
      at rendered
    obtain rfl := Option.some.inj rendered.2
    refine .paren (rendered_join op fun type member => ?_)
    obtain ⟨branch, among, i, renderedBranch⟩ := mem_value_renderBranches path member
    exact ih branch among _ type renderedBranch
  | enumeration values beside =>
    intro path type rendered
    obtain rfl := Option.some.inj rendered
    refine .union fun type among => ?_
    obtain ⟨value, -, rfl⟩ := List.mem_map.mp among
    exact .ofJson value
  | primitive plain isNullable =>
    intro path type rendered
    obtain rfl := Option.some.inj rendered
    refine Rendered.nullable ?_ isNullable
    cases plain <;> exact .keyword _
  | object properties additional isNullable ih ihAdditional =>
    intro path type rendered
    obtain rfl := Option.some.inj rendered
    refine rendered_objectType (rendered_entries ih) fun type given => ?_
    cases additional with
    | none => simp [renderAdditional] at given
    | some values =>
      obtain rfl := Option.some.inj given
      refine .record ?_
      cases renderedValues : (values.render (path.child .additionalProperties)).value with
      | none => exact .keyword .unknown  -- what is left out admits any value
      | some type => exact ihAdditional values rfl _ type renderedValues
  | array items isNullable ih =>
    intro path type rendered
    cases items with
    | none => simp [render] at rendered
    | some items =>
      obtain ⟨element, renderedItems, rfl⟩ := Option.map_eq_some_iff.mp rendered
      exact (Rendered.arrayOf (ih items rfl _ element renderedItems)).nullable isNullable
  | unsupported _ =>
    intro path type rendered
    simp [render] at rendered

/-- The type that is declared for a schema is built in this way, too. -/
theorem rendered_rootType (schema : Schema) (path : SchemaPath) :
    Rendered (schema.rootType path).value := by
  unfold rootType
  split
  · exact rendered_entries fun entry _ => rendered_render entry.2
  · exact .object (by simp) (by simp)

end Schema

end ApiTypes
