import ApiTypes.Json.Printer
import ApiTypes.Unicode.Identifier

/-!
# TypeScript type expressions

The types that declarations are made of. A printer writes them as they are, without adding
parentheses, so the constructors of this file add those that a reader of the text needs: `[]`
binds tighter than `&`, and `&` tighter than `|`.

## Main definitions

* `TypeExpr` — type expressions
* `TypeExpr.arrayOf`, `TypeExpr.intersectionOf` — with the parentheses they need
* `TypeExpr.nullable`, `TypeExpr.record`, `TypeExpr.ofJson`
* `Member.named` — a property of an object type
* `isIdentifier` — whether a name can stand as a key without quotes
-/

namespace ApiTypes

/-- Whether the name can be written as an identifier. -/
def isIdentifier (name : String) : Bool :=
  match name.toList with
  | [] => false
  | c :: rest =>
    (c == '$' || c == '_' || Unicode.startsIdentifier c) &&
      rest.all fun d => d == '$' || Unicode.continuesIdentifier d

/-- A type that is a word of the language. -/
inductive Keyword where
  | any
  | unknown
  | number
  | object
  | boolean
  | bigint
  | string
  | symbol
  | void
  | undefined
  | null
  | never
  | intrinsic
deriving DecidableEq, Repr

/-- The word. -/
def Keyword.text : Keyword → String
  | any => "any"
  | unknown => "unknown"
  | number => "number"
  | object => "object"
  | boolean => "boolean"
  | bigint => "bigint"
  | string => "string"
  | symbol => "symbol"
  | void => "void"
  | undefined => "undefined"
  | null => "null"
  | never => "never"
  | intrinsic => "intrinsic"

/-- A value that is a type of its own. -/
inductive Literal where
  | string (text : String)
  | number (value : Json.Number)
  | bool (value : Bool)
deriving DecidableEq, Repr

/-- The key of a property: an identifier as it is, or any text in quotes. -/
inductive Key where
  | identifier (name : String)
  | quoted (text : String)
deriving DecidableEq, Repr

/-- The key for a property name. -/
def Key.ofName (name : String) : Key :=
  if isIdentifier name then .identifier name else .quoted name

/-- A property of an object type. -/
structure Member (τ : Type) where
  key : Key
  optional : Bool
  type : τ
deriving DecidableEq, Repr

/-- The property with the given name. -/
def Member.named {τ : Type} (name : String) (optional : Bool) (type : τ) : Member τ :=
  ⟨Key.ofName name, optional, type⟩

/-- A type expression. -/
inductive TypeExpr where
  | keyword (word : Keyword)
  | literal (value : Literal)
  | union (members : List TypeExpr)
  | intersection (members : List TypeExpr)
  | array (element : TypeExpr)
  | paren (inner : TypeExpr)
  | generic (name : String) (arguments : List TypeExpr)
  | object (members : List (Member TypeExpr))
deriving Repr, Inhabited

namespace TypeExpr

/-- Whether the expression is a union or an intersection. -/
def isCombination : TypeExpr → Bool
  | .union _ | .intersection _ => true
  | _ => false

/-- Whether the expression is a union of several members. -/
def isWideUnion : TypeExpr → Bool
  | .union (_ :: _ :: _) => true
  | _ => false

/-- The array type, with an element that is a union or an intersection in parentheses. -/
def arrayOf (element : TypeExpr) : TypeExpr :=
  .array (if element.isCombination then .paren element else element)

/-- The intersection type, with each member that is a union of several in parentheses. -/
def intersectionOf (members : List TypeExpr) : TypeExpr :=
  .intersection (members.map fun m => if m.isWideUnion then .paren m else m)

/-- The name of the alias for types that admit `null`. -/
def nullableName : String := "Nullable"

/-- The type itself, or with `null` admitted. -/
def nullable (type : TypeExpr) (isNullable : Bool) : TypeExpr :=
  if isNullable then .generic nullableName [type] else type

/-- The type of objects whose values all have the given type. -/
def record (value : TypeExpr) : TypeExpr :=
  .generic "Record" [.keyword .string, value]

/-- The type of one JSON value. Arrays and objects have no such type, and are written as the
string of their text. -/
def ofJson : Json → TypeExpr
  | .null => .keyword .null
  | .bool b => .literal (.bool b)
  | .number n => .literal (.number n)
  | .string s => .literal (.string s)
  | .array items => .literal (.string (Json.array items).compact)
  | .object entries => .literal (.string (Json.object entries).compact)

end TypeExpr

end ApiTypes
