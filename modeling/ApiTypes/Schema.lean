import ApiTypes.Json

/-!
# Schemas

A schema describes JSON values. It is sorted by what it says into one of six shapes.

## Main definitions

* `Schema` — combinations, enumerations, primitives, objects, arrays, and schemas that say
  nothing that can be understood
* `PropertySet` — named properties, and which of them must be present
* `Schema.rootProperties` — the properties that a schema itself declares
-/

namespace ApiTypes

/-- How a combination joins its branches. -/
inductive Combinator where
  | oneOf
  | anyOf
  | allOf
deriving DecidableEq, Repr

/-- The keyword of the combination. -/
def Combinator.text : Combinator → String
  | oneOf => "oneOf"
  | anyOf => "anyOf"
  | allOf => "allOf"

/-- A type of plain values. -/
inductive Primitive where
  | string
  | integer
  | number
  | boolean
deriving DecidableEq, Repr

/-- The name of the type in a schema. -/
def Primitive.text : Primitive → String
  | string => "string"
  | integer => "integer"
  | number => "number"
  | boolean => "boolean"

/-- Named properties in their order, and the names of those that must be present. This is all that
is kept of an object beside a combination or an enumeration: by its type such an object has no
additional properties and does not admit `null`, whatever is written there. -/
structure PropertySet (σ : Type) where
  entries : List (String × σ)
  required : List String
deriving Repr, Inhabited

/-- Whether the property must be present. -/
def PropertySet.isRequired {σ : Type} (properties : PropertySet σ) (name : String) : Bool :=
  properties.required.contains name

/-- A schema. Combinations and enumerations keep the properties that are written beside them.
An object without `additional` says nothing about the values of undeclared keys. -/
inductive Schema where
  | combination (op : Combinator) (branches : List Schema) (beside : Option (PropertySet Schema))
  | enumeration (values : List Json) (beside : Option (PropertySet Schema))
  | primitive (type : Primitive) (isNullable : Bool)
  | object (properties : PropertySet Schema) (additional : Option Schema) (isNullable : Bool)
  | array (items : Option Schema) (isNullable : Bool)
  | unsupported (type : Option String)
deriving Repr, Inhabited

/-- How the type of a schema that is not understood is shown. -/
def Schema.shownType (type : Option String) : String :=
  type.getD "(none)"

/-- The properties that the schema itself declares, if it can declare any. -/
def Schema.rootProperties : Schema → Option (PropertySet Schema)
  | combination _ _ beside => beside
  | enumeration _ beside => beside
  | object properties _ _ => some properties
  | _ => none

end ApiTypes
