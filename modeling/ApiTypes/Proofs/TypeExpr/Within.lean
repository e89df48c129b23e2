import ApiTypes.TypeExpr
import Mathlib.Logic.Relation

/-!
# Types inside types

## Main definitions

* `TypeExpr.parts` — the types right inside a type
* `TypeExpr.Within` — one type is the other one, or found somewhere inside it

## Main results

* `Within.arrayOf`, `Within.intersectionOf` — added parentheses keep a type inside
* `within_iff` — a type inside another one is that type itself, or inside one of its parts
-/

namespace ApiTypes

namespace TypeExpr

/-- The types right inside a type. -/
def parts : TypeExpr → List TypeExpr
  | union members | intersection members => members
  | array element => [element]
  | paren inner => [inner]
  | generic _ arguments => arguments
  | object members => members.map (·.type)
  | keyword _ | literal _ => []

/-- The type is the other one, or is found somewhere inside it. -/
def Within : TypeExpr → TypeExpr → Prop :=
  Relation.ReflTransGen fun inner outer => inner ∈ outer.parts

namespace Within

theorem refl (type : TypeExpr) : Within type type := Relation.ReflTransGen.refl

theorem trans {inner type outer : TypeExpr} (h : Within inner type) (h' : Within type outer) :
    Within inner outer := Relation.ReflTransGen.trans h h'

theorem part {inner outer : TypeExpr} (h : inner ∈ outer.parts) : Within inner outer :=
  Relation.ReflTransGen.single h

theorem nullable (type : TypeExpr) (isNullable : Bool) :
    Within type (type.nullable isNullable) := by
  cases isNullable
  · exact refl type
  · exact part (List.mem_singleton.mpr rfl)

theorem paren (type : TypeExpr) : Within type (.paren type) := part (List.mem_singleton.mpr rfl)

theorem record (type : TypeExpr) : Within type (.record type) :=
  part (List.mem_cons_of_mem _ (List.mem_singleton.mpr rfl))

theorem arrayOf (type : TypeExpr) : Within type (.arrayOf type) := by
  refine trans ?_ (part (List.mem_singleton.mpr rfl))
  split
  · exact paren type
  · exact refl type

theorem intersectionOf {type : TypeExpr} {members : List TypeExpr} (among : type ∈ members) :
    Within type (.intersectionOf members) := by
  refine trans ?_ (part (List.mem_map_of_mem among))
  split
  · exact paren type
  · exact refl type

end Within

theorem within_iff {inner outer : TypeExpr} :
    Within inner outer ↔ inner = outer ∨ ∃ part ∈ outer.parts, Within inner part := by
  rw [Within, Relation.ReflTransGen.cases_tail_iff]
  refine or_congr eq_comm (exists_congr fun part => and_comm)

end TypeExpr

end ApiTypes
