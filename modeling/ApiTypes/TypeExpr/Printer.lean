import ApiTypes.TypeExpr.Token

/-!
# Printing type expressions

A type is laid out as tokens with spaces and line breaks between them. Each property of an
object type stands on a line of its own, indented by two spaces for every object type around
it; everything else stays on its line.

## Main definitions

* `Piece` — a token, a space, or a line break with its indentation
* `TypeExpr.layout` — the pieces of a type
* `TypeExpr.text` — the text of a type
* `exportedAlias`, `exportedAliases` — alias declarations
-/

namespace ApiTypes

/-- A piece of a layout. `line depth` starts a line inside `depth` object types. -/
inductive Piece where
  | token (t : Token)
  | space
  | line (depth : Nat)
deriving DecidableEq, Repr

/-- The characters of a piece. -/
def Piece.chars : Piece → List Char
  | token t => t.chars
  | space => [' ']
  | line depth => '\n' :: List.replicate (2 * depth) ' '

/-- The token of a literal. -/
def Literal.token : Literal → Token
  | .string text => .string text
  | .number value => .number value
  | .bool value => .bool value

/-- The token of a key. -/
def Key.token : Key → Token
  | .identifier name => .name name
  | .quoted text => .string text

/-- The pieces up to the type of a property. -/
def Member.opening {τ : Type} (member : Member τ) : List Piece :=
  .token member.key.token ::
    (if member.optional then [.token .question] else []) ++ [.token .colon, .space]

namespace TypeExpr

/-- Puts the separator between the parts. -/
def separated (separator : List Piece) : List (List Piece) → List Piece
  | [] => []
  | [part] => part
  | part :: rest => part ++ separator ++ separated separator rest

mutual

/-- The pieces of a type that stands inside `depth` object types. -/
def layout (depth : Nat) : TypeExpr → List Piece
  | keyword word => [.token (.keyword word)]
  | literal value => [.token value.token]
  | union members => separated [.space, .token .bar, .space] (layoutAll depth members)
  | intersection members => separated [.space, .token .ampersand, .space] (layoutAll depth members)
  | array element => layout depth element ++ [.token .openBracket, .token .closeBracket]
  | paren inner => .token .openParen :: layout depth inner ++ [.token .closeParen]
  | generic name arguments =>
    .token (.name name) :: .token .openAngle ::
      separated [.token .comma, .space] (layoutAll depth arguments) ++ [.token .closeAngle]
  | object members =>
    .token .openBrace :: layoutMembers (depth + 1) members ++ [.line depth, .token .closeBrace]

/-- The pieces of each type. -/
def layoutAll (depth : Nat) : List TypeExpr → List (List Piece)
  | [] => []
  | type :: rest => layout depth type :: layoutAll depth rest

/-- The pieces of the properties, each on its line. -/
def layoutMembers (depth : Nat) : List (Member TypeExpr) → List Piece
  | [] => []
  | ⟨key, optional, type⟩ :: rest =>
    .line depth :: (Member.mk key optional ()).opening ++ layout depth type ++
      .token .semicolon :: layoutMembers depth rest

end

/-- The text of a type. -/
def text (type : TypeExpr) : String :=
  String.ofList ((layout 0 type).flatMap Piece.chars)

end TypeExpr

/-- The declaration of a type alias. -/
def exportedAlias (name : String) (type : TypeExpr) : String :=
  "export type " ++ String.ofList (nameChars name.toList) ++ " = " ++ type.text ++ ";\n"

/-- The text of a list of alias declarations, which is never empty. -/
def exportedAliases : List (String × TypeExpr) → String
  | [] => "\n"
  | aliases => String.join (aliases.map fun (name, type) => exportedAlias name type)

end ApiTypes
