import ApiTypes.Schema

/-!
# Keywords of a schema

A schema is written as a set of keywords. The first of these that applies sorts it: a
combination that has a branch, an enumeration that has a value, the type. Properties, or a
schema for additional properties, make a schema without a type an object.

## Main definitions

* `Keyword` — the keywords that are read, in the order in which a schema written as a list gives
  their values
* `Schema.Written` — the values of the keywords of one schema
* `Schema.Written.classify` — the schema that the keywords make
-/

namespace ApiTypes

/-- A keyword that says something about a schema. -/
inductive Schema.Keyword where
  | type
  | nullable
  | properties
  | required
  | additionalProperties
  | items
  | enum
  | oneOf
  | anyOf
  | allOf
deriving DecidableEq, Repr

namespace Schema

/-- The keyword as it is written. -/
def Keyword.text : Keyword → String
  | type => "type"
  | nullable => "nullable"
  | properties => "properties"
  | required => "required"
  | additionalProperties => "additionalProperties"
  | items => "items"
  | enum => "enum"
  | oneOf => "oneOf"
  | anyOf => "anyOf"
  | allOf => "allOf"

/-- All keywords, in the order of a schema written as a list. -/
def Keyword.all : List Keyword :=
  [type, nullable, properties, required, additionalProperties, items, enum, oneOf, anyOf, allOf]

/-- The keyword that the text names. -/
def Keyword.ofText? (text : String) : Option Keyword :=
  Keyword.all.find? (·.text == text)

/-- What is said about the values of undeclared keys: whether there may be any, or what they
are. -/
inductive Additional where
  | allowed (value : Bool)
  | schema (value : Schema)
deriving Repr

/-- The keywords of one schema, as they are written. -/
structure Written where
  types : List String := []
  isNullable : Bool := false
  properties : Option (List (String × Schema)) := none
  required : List String := []
  additional : Option Additional := none
  items : Option Schema := none
  values : Option (List Json) := none
  oneOf : Option (List Schema) := none
  anyOf : Option (List Schema) := none
  allOf : Option (List Schema) := none

namespace Written

/-- The declared properties, if there is one. -/
def shape (w : Written) : Option (PropertySet Schema) :=
  match w.properties with
  | none | some [] => none
  | some properties => some ⟨properties, w.required⟩

/-- The combination that has a branch, if there is one. -/
def combination? (w : Written) : Option (Combinator × List Schema) :=
  [(Combinator.oneOf, w.oneOf), (.anyOf, w.anyOf), (.allOf, w.allOf)].findSome? fun
    | (op, some (branch :: branches)) => some (op, branch :: branches)
    | _ => none

/-- The type and whether `null` is admitted, or else the types that are listed. A type beside
`"null"` is that type with `null` admitted. -/
def typing (w : Written) : Except (List String) (Option String × Bool) :=
  match w.types with
  | [] => .ok (none, w.isNullable)
  | [type] => .ok (some type, w.isNullable)
  | [first, second] =>
    if second = "null" ∧ first ≠ "null" then .ok (some first, true)
    else if first = "null" ∧ second ≠ "null" then .ok (some second, true)
    else .error w.types
  | types => .error types

/-- The schema of additional properties, if it says anything. -/
def additionalSchema (w : Written) : Option Schema :=
  match w.additional with
  | some (.schema (.unsupported none)) => none
  | some (.schema schema) => some schema
  | _ => none

/-- The object that the keywords make. -/
def object (w : Written) (isNullable : Bool) : Schema :=
  .object ⟨w.properties.getD [], w.required⟩ w.additionalSchema isNullable

/-- The schema of one type, or of none. -/
def ofType (w : Written) (isNullable : Bool) : Option String → Schema
  | some "string" => .primitive .string isNullable
  | some "integer" => .primitive .integer isNullable
  | some "number" => .primitive .number isNullable
  | some "boolean" => .primitive .boolean isNullable
  | some "array" => .array w.items isNullable
  | some "object" => w.object isNullable
  | some type => .unsupported (some type)
  | none =>
    if w.properties.isSome ∨ w.additionalSchema.isSome then w.object isNullable
    else .unsupported none

/-- The schema that the keywords make. -/
def classify (w : Written) : Schema :=
  match w.combination? with
  | some (op, branches) => .combination op branches w.shape
  | none =>
    match w.values with
    | some (value :: values) => .enumeration (value :: values) w.shape
    | _ =>
      match w.typing with
      | .ok (type, isNullable) => w.ofType isNullable type
      | .error types => .unsupported (some (String.intercalate ", " types))

end Written

end Schema

end ApiTypes
