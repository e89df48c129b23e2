import ApiTypes.TypeExpr

/-!
# Tokens of type expressions

The words, literals and marks that a printed type consists of, and how each is spelled.

## Main definitions

* `Token` — words, literals and marks
* `Token.chars` — the spelling of a token
* `StringLiteral.chars` — the spelling of a string between its quotes
-/

namespace ApiTypes

/-- A token of a printed type. -/
inductive Token where
  | keyword (word : Keyword)
  | bool (value : Bool)
  | number (value : Json.Number)
  | string (text : String)
  | name (text : String)
  | bar
  | ampersand
  | openBracket
  | closeBracket
  | openParen
  | closeParen
  | openAngle
  | closeAngle
  | openBrace
  | closeBrace
  | comma
  | colon
  | semicolon
  | question
deriving DecidableEq, Repr

namespace StringLiteral

/-- The quote for a text: single if it has more double quotes than single ones. -/
def quoteFor (text : List Char) : Char :=
  if text.count '\'' < text.count '"' then '\'' else '"'

/-- A control character by its code, in two hexadecimal digits. -/
def hexEscape (c : Char) : List Char :=
  let digits := Nat.toDigits 16 c.toNat
  ['\\', 'x'] ++ List.replicate (2 - digits.length) '0' ++ digits

/-- How a character is written, given the quote and the character after it. A null is written
short unless a digit follows, with which it would be read as another escape. -/
def escapedChar (quote : Char) (c : Char) (next : Option Char) : List Char :=
  if c = quote then ['\\', quote]
  else if c = '\\' then ['\\', '\\']
  else if c = '\x08' then ['\\', 'b']
  else if c = '\x0c' then ['\\', 'f']
  else if c = '\n' then ['\\', 'n']
  else if c = '\r' then ['\\', 'r']
  else if c = '\x0b' then ['\\', 'v']
  else if c = '\t' then ['\t']
  else if c = '\x00' then
    if next.any Char.isDigit then ['\\', 'x', '0', '0'] else ['\\', '0']
  else if c.toNat < 32 then hexEscape c
  else if c = '\u2028' then ['\\', 'u', '2', '0', '2', '8']
  else if c = '\u2029' then ['\\', 'u', '2', '0', '2', '9']
  else if c = '\uFEFF' then ['\\', 'u', 'F', 'E', 'F', 'F']
  else [c]

/-- The text between the quotes. -/
def body (quote : Char) : List Char → List Char
  | [] => []
  | c :: rest => escapedChar quote c rest.head? ++ body quote rest

/-- The literal with its quotes. -/
def chars (text : List Char) : List Char :=
  let quote := quoteFor text
  quote :: body quote text ++ [quote]

end StringLiteral

/-- The spelling of a name: as it is, except that a null right after a backslash is left out. -/
def nameChars : List Char → List Char
  | '\\' :: '\x00' :: rest => '\\' :: nameChars rest
  | c :: rest => c :: nameChars rest
  | [] => []

/-- The spelling of a token. -/
def Token.chars : Token → List Char
  | keyword word => word.text.toList
  | bool true => ['t', 'r', 'u', 'e']
  | bool false => ['f', 'a', 'l', 's', 'e']
  | number value => value.text.toList
  | string text => StringLiteral.chars text.toList
  | name text => nameChars text.toList
  | bar => ['|']
  | ampersand => ['&']
  | openBracket => ['[']
  | closeBracket => [']']
  | openParen => ['(']
  | closeParen => [')']
  | openAngle => ['<']
  | closeAngle => ['>']
  | openBrace => ['\x7b']
  | closeBrace => ['\x7d']
  | comma => [',']
  | colon => [':']
  | semicolon => [';']
  | question => ['?']

end ApiTypes
