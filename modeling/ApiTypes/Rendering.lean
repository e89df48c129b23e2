import ApiTypes.Diagnostic
import ApiTypes.TypeExpr

/-!
# Rendering schemas as types

Each schema becomes a type expression, or nothing if it cannot be rendered: a schema that is
not understood, an array whose items are not given or not rendered, a combination of which no
branch is rendered. A property or a branch that is not rendered is left out. Each schema that is
not understood and each array without items is reported.

## Main definitions

* `Schema.render` — the type of a schema
* `PropertySet.render` — the properties of an object type
-/

namespace ApiTypes

/-- The type of a plain value. -/
def Primitive.typeExpr : Primitive → TypeExpr
  | string => .keyword .string
  | integer | number => .keyword .number
  | boolean => .keyword .boolean

/-- The type of the values that belong to one, or to all, of the branches. -/
def Combinator.join : Combinator → List TypeExpr → TypeExpr
  | oneOf, branches | anyOf, branches => .union branches
  | allOf, branches => .intersectionOf branches

namespace Schema

/-- What is reported of a schema that is not understood. -/
def unsupportedMessage (type : Option String) : String :=
  "has unsupported type: " ++ shownType type ++ ". Skipping."

/-- What is reported of an array without items. -/
def noItemsMessage : String := "is an array with no items. Skipping."

/-- The type of an object: its properties, unless it declares none, and its additional
properties, if they are given. -/
def objectType (isNullable declares : Bool) (members : List (Member TypeExpr))
    (additional : Option TypeExpr) : TypeExpr :=
  if declares then
    let body := TypeExpr.nullable (.object members) isNullable
    match additional with
    | some rest => .intersectionOf [body, rest]
    | none => body
  else
    (additional.getD (.record (.keyword .unknown))).nullable isNullable

mutual

/-- The type of the schema at the place. -/
def render (path : SchemaPath) : Schema → Reported (Option TypeExpr)
  | combination op branches _ => do
    let types ← renderBranches path op 0 branches
    return if types.isEmpty then none else some (.paren (op.join types))
  | enumeration values _ => return some (.union (values.map .ofJson))
  | primitive type isNullable => return some (type.typeExpr.nullable isNullable)
  | object ⟨entries, required⟩ additional isNullable => do
    let members ← renderEntries path required entries
    let rest ← renderAdditional path additional
    return some (objectType isNullable (!entries.isEmpty) members rest)
  | array none _ => .skip path noItemsMessage
  | array (some items) isNullable => do
    let type ← render (path.child .items) items
    return type.map fun t => (TypeExpr.arrayOf t).nullable isNullable
  | unsupported type => .skip path (unsupportedMessage type)

/-- The types of the branches that can be rendered, from the one with the given index on. -/
def renderBranches (path : SchemaPath) (op : Combinator) (index : Nat) :
    List Schema → Reported (List TypeExpr)
  | [] => return []
  | branch :: rest => do
    let type ← render (path.child (.branch op index)) branch
    let types ← renderBranches path op (index + 1) rest
    return type.toList ++ types

/-- The properties that can be rendered. -/
def renderEntries (path : SchemaPath) (required : List String) :
    List (String × Schema) → Reported (List (Member TypeExpr))
  | [] => return []
  | (name, schema) :: rest => do
    let type ← render (path.child (.property name)) schema
    let members ← renderEntries path required rest
    return (type.map (.named name (!required.contains name))).toList ++ members

/-- The type of objects with the additional properties; a schema that is not rendered admits
anything. -/
def renderAdditional (path : SchemaPath) : Option Schema → Reported (Option TypeExpr)
  | none => return none
  | some schema => do
    let type ← render (path.child .additionalProperties) schema
    return some (.record (type.getD (.keyword .unknown)))

end

end Schema

/-- The properties of an object type that can be rendered. -/
def PropertySet.render (path : SchemaPath) (properties : PropertySet Schema) :
    Reported (List (Member TypeExpr)) :=
  Schema.renderEntries path properties.required properties.entries

end ApiTypes
