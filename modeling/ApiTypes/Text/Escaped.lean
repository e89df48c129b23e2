import ApiTypes.Unicode.Visible

/-!
# Text quoted for a reader

Messages show a piece of text between double quotes, with whatever would not be seen written by
a backslash escape: the common controls by a letter, all other hidden characters and the marks
that extend a character by their code point in braces.

## Main definitions

* `Text.escaped` — the quoted form of a text
-/

namespace ApiTypes.Text

/-- The code point of a character in lower case hexadecimal digits. -/
def hexDigits (code : Nat) : List Char :=
  Nat.toDigits 16 code

/-- How a character is written inside the quotes. -/
def escapedChar (c : Char) : List Char :=
  if c = '"' then ['\\', '"']
  else if c = '\\' then ['\\', '\\']
  else if c = '\n' then ['\\', 'n']
  else if c = '\r' then ['\\', 'r']
  else if c = '\t' then ['\\', 't']
  else if c = '\x00' then ['\\', '0']
  else if Unicode.isHidden c || Unicode.extendsGrapheme c then
    ['\\', 'u', '\x7b'] ++ hexDigits c.toNat ++ ['\x7d']
  else [c]

/-- The text between double quotes, escaped. -/
def escaped (text : String) : String :=
  String.ofList ('"' :: text.toList.flatMap escapedChar ++ ['"'])

end ApiTypes.Text
