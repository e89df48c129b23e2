/-!
# Positions in a YAML text

A cursor is the rest of a text together with its place: the number of characters before it, the
line, and the column. Indentation is a matter of columns, and the length of a key one of
characters.

## Main definitions

* `Yaml.isBlank`, `Yaml.isBreak`, `Yaml.isAllowed` — classes of characters
* `Yaml.Cursor` — the rest of a text and its place
* `Yaml.Cursor.skip`, `Yaml.Cursor.takeWhile`, `Yaml.Cursor.readBreak` — moving on
-/

namespace ApiTypes.Yaml

/-- A space or a tab. -/
def isBlank (c : Char) : Bool := c == ' ' || c == '\t'

/-- A line break. -/
def isBreak (c : Char) : Bool :=
  c == '\n' || c == '\r' || c == '\x85' || c == '\u2028' || c == '\u2029'

/-- A blank or a line break. -/
def isSpace (c : Char) : Bool := isBlank c || isBreak c

/-- A blank, a line break, or the end of the text. -/
def endsWord : Option Char → Bool
  | none => true
  | some c => isSpace c

/-- A line break or the end of the text. -/
def endsLine : Option Char → Bool
  | none => true
  | some c => isBreak c

/-- A character of names: an ASCII letter or digit, `_` or `-`. -/
def isNameChar (c : Char) : Bool := c.isAlphanum || c == '_' || c == '-'

/-- A character that a YAML text may hold: no control but tab, line feed, carriage return and
next line, and no noncharacter. -/
def isAllowed (c : Char) : Bool :=
  let n := c.toNat
  n == 9 || n == 10 || n == 13 || (decide (32 ≤ n) && decide (n ≤ 126)) || n == 0x85 ||
    (decide (0xA0 ≤ n) && decide (n ≤ 0xFFFD)) || decide (0x10000 ≤ n)

/-- The rest of a text and its place. -/
structure Cursor where
  rest : List Char
  index : Nat := 0
  line : Nat := 0
  column : Nat := 0

namespace Cursor

/-- The next character. -/
def peek (c : Cursor) : Option Char := c.rest.head?

/-- The character after the next one. -/
def peekSecond (c : Cursor) : Option Char := c.rest.tail.head?

/-- Moves past `n` characters of the same line. -/
def skip (c : Cursor) (n : Nat := 1) : Cursor :=
  { c with rest := c.rest.drop n, index := c.index + n, column := c.column + n }

/-- The characters in front that the class holds of, none of them a line break. -/
def takeWhile (p : Char → Bool) (c : Cursor) : List Char × Cursor :=
  let taken := c.rest.takeWhile p
  (taken, c.skip taken.length)

/-- Moves past the characters that the class holds of, none of them a line break. -/
def skipWhile (p : Char → Bool) (c : Cursor) : Cursor :=
  (c.takeWhile p).2

/-- Reads a line break, if one is there. All forms are read as a line feed, except for the two
separators of Unicode. -/
def readBreak (c : Cursor) : List Char × Cursor :=
  let past (n : Nat) (rest : List Char) : Cursor := ⟨rest, c.index + n, c.line + 1, 0⟩
  match c.rest with
  | '\r' :: '\n' :: rest => (['\n'], past 2 rest)
  | '\r' :: rest | '\n' :: rest | '\x85' :: rest => (['\n'], past 1 rest)
  | '\u2028' :: rest => (['\u2028'], past 1 rest)
  | '\u2029' :: rest => (['\u2029'], past 1 rest)
  | _ => ([], c)

/-- Moves past the rest of the line, up to its break. -/
def skipLine (c : Cursor) : Cursor :=
  c.skipWhile (!isBreak ·)

/-- Whether the given mark of three characters stands at the start of the line as a word. -/
def atMark (mark : Char) (c : Cursor) : Bool :=
  match c.rest with
  | x :: y :: z :: rest =>
    c.column == 0 && x == mark && y == mark && z == mark && endsWord rest.head?
  | _ => false

/-- Whether a document starts or ends here. -/
def atDocumentMark (c : Cursor) : Bool :=
  c.atMark '-' || c.atMark '.'

end Cursor

end ApiTypes.Yaml
