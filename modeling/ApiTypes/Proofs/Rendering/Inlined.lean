import ApiTypes.Proofs.Rendering.Pruned
import ApiTypes.Proofs.TypeExpr.Context

/-!
# Inlined schemas

The type of a schema that is rendered with another one stands in the type of that one, one object
type further inside for each property on the way.

## Main definitions

* `SchemaPath.depthOf` — the object types that steps lead into

## Main results

* `Schema.standsAt_of_mem_visits` — where the types of visited schemas stand
* `Schema.standsAt_rootType` — where they stand in the type that is declared
-/

namespace ApiTypes

/-- The number of object types that a step leads into. -/
def SchemaPath.Step.depth : Step → Nat
  | property _ => 1
  | items | branch _ _ | additionalProperties => 0

/-- The number of object types that the steps lead into. -/
def SchemaPath.depthOf : List Step → Nat
  | [] => 0
  | step :: steps => depthOf steps + step.depth

namespace Schema

open TypeExpr (StandsAt)

variable {depth : Nat} {inner type : TypeExpr}

theorem standsAt_join (op : Combinator) {types : List TypeExpr} (among : type ∈ types)
    (h : StandsAt depth inner type) : StandsAt depth inner (op.join types) := by
  cases op with
  | oneOf | anyOf => exact h.member .union among
  | allOf => exact h.intersectionOf among

theorem standsAt_objectType_members {isNullable : Bool} {members : List (Member TypeExpr)}
    {rest : Option TypeExpr} (h : StandsAt depth inner (.object members)) :
    StandsAt depth inner (objectType isNullable true members rest) := by
  have inBody := h.nullable isNullable
  cases rest with
  | none => exact inBody
  | some rest => exact inBody.intersectionOf List.mem_cons_self

theorem standsAt_objectType_rest {isNullable declares : Bool} {members : List (Member TypeExpr)}
    (h : StandsAt depth inner type) :
    StandsAt depth inner (objectType isNullable declares members (some type)) := by
  cases declares with
  | true => exact h.intersectionOf (List.mem_cons_of_mem _ (List.mem_singleton_self _))
  | false => exact h.nullable isNullable

/-- What stands in the type of a part stands in the type of the whole, which is rendered then. -/
theorem standsAt_of_mem_parts {schema : Schema} {part : SchemaPath.Step × Schema}
    (among : part ∈ schema.parts) (rendered : part.2.type? = some type)
    (h : StandsAt depth inner type) :
    ∃ whole, schema.type? = some whole ∧ StandsAt (depth + part.1.depth) inner whole := by
  cases schema with
  | combination op branches beside =>
    obtain ⟨⟨branch, index⟩, listed, rfl⟩ := List.mem_map.mp among
    have amongTypes : type ∈ branches.filterMap type? :=
      List.mem_filterMap.mpr ⟨branch, List.fst_mem_of_mem_zipIdx listed, rendered⟩
    refine ⟨.paren (op.join (branches.filterMap type?)), ?_, (standsAt_join op amongTypes h).paren⟩
    rw [type?_combination, if_neg (List.ne_nil_of_mem amongTypes)]
  | object properties additional isNullable =>
    refine ⟨_, type?_object properties additional isNullable, ?_⟩
    rcases List.mem_append.mp among with listed | given
    · obtain ⟨⟨name, property⟩, isEntry, rfl⟩ := List.mem_map.mp listed
      have declares : (!properties.entries.isEmpty) = true := by
        simpa using List.ne_nil_of_mem isEntry
      have isMember : Member.named name (!properties.isRequired name) type ∈
          properties.entries.filterMap fun entry =>
            entry.2.type?.map (.named entry.1 (!properties.isRequired entry.1)) :=
        List.mem_filterMap.mpr ⟨(name, property), isEntry, congrArg (Option.map _) rendered⟩
      -- the object type is there, as a property is declared
      rw [declares]
      exact standsAt_objectType_members (h.property isMember)
    · obtain ⟨values, isGiven, rfl⟩ := List.mem_map.mp given
      obtain rfl := Option.mem_toList.mp isGiven
      rw [Option.map_some, rendered, Option.getD_some]
      exact standsAt_objectType_rest h.record
  | array items isNullable =>
    obtain ⟨element, given, rfl⟩ := List.mem_map.mp among
    obtain rfl := Option.mem_toList.mp given
    refine ⟨(TypeExpr.arrayOf type).nullable isNullable, ?_, h.arrayOf.nullable isNullable⟩
    rw [type?_array, Option.bind_some, rendered, Option.map_some]
  | enumeration | primitive | unsupported => simp [parts] at among

/-- A schema that is rendered renders all that it is visited from. Its type stands there, one
object type further inside for each property on the way. -/
theorem standsAt_of_mem_visits {schema node : Schema} {steps : List SchemaPath.Step}
    (visited : (steps, node) ∈ schema.visits) (rendered : node.type? = some type) :
    ∃ whole, schema.type? = some whole ∧
      StandsAt (SchemaPath.depthOf steps) type whole := by
  induction schema using parts_induction generalizing steps with
  | whole schema ih =>
    rcases mem_visits.mp visited with ⟨rfl, rfl⟩ | ⟨part, among, rest, visited', rfl⟩
    · exact ⟨type, rendered, .refl type⟩
    · obtain ⟨partType, renderedPart, inside⟩ := ih part among visited'
      exact standsAt_of_mem_parts among renderedPart inside

/-- What is visited from a property of the declared type. -/
theorem standsAt_rootType {schema node : Schema} {properties : PropertySet Schema}
    (declares : schema.rootProperties = some properties) {property : String × Schema}
    (isProperty : property ∈ properties.entries) {steps : List SchemaPath.Step}
    (visited : (steps, node) ∈ property.2.visits) (rendered : node.type? = some type)
    (path : SchemaPath) :
    StandsAt (SchemaPath.depthOf steps + 1) type (schema.rootType path).value := by
  obtain ⟨whole, renderedProperty, inside⟩ := standsAt_of_mem_visits visited rendered
  have isMember : Member.named property.1 (!properties.isRequired property.1) whole ∈
      (properties.render path).value := by
    rw [PropertySet.render, value_renderEntries, List.reduceOption_mem_iff]
    have renderedThere := (value_render property.2 (path.child (.property property.1))).trans
      renderedProperty
    exact List.mem_map.mpr ⟨property, isProperty, congrArg (Option.map _) renderedThere⟩
  rw [rootType, declares]
  exact inside.property isMember

end Schema

end ApiTypes
