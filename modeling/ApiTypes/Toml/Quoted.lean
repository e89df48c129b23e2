/-!
# Quoted TOML strings

A string stands between quotes: between single ones as it is, between double ones with escapes.
Between three quotes it may run over lines; a line break right after the opening quotes is
dropped, and up to two quotes may stand in front of the closing ones.

## Main definitions

* `Toml.quoted` — reads a string on one line
* `Toml.quotedText` — reads a string of either form
-/

namespace ApiTypes.Toml

/-- What is left of a text after something at its front has been read. -/
abbrev Rest := List Char

/-- The value of hexadecimal digits. -/
def hexNumber? (digits : List Char) : Option Nat :=
  digits.foldlM (fun n c =>
    if c.isDigit then some (16 * n + (c.toNat - 48))
    else if 'a' ≤ c ∧ c ≤ 'f' then some (16 * n + (c.toNat - 87))
    else if 'A' ≤ c ∧ c ≤ 'F' then some (16 * n + (c.toNat - 55))
    else none) 0

/-- The character with the code that the digits spell. -/
def codedChar? (digits : List Char) : Option Char :=
  (hexNumber? digits).bind fun n => if Nat.isValidChar n then some (Char.ofNat n) else none

/-- The character of an escape after its backslash, and what follows. -/
def escape? : List Char → Option (Char × Rest)
  | '"' :: rest => some ('"', rest)
  | '\\' :: rest => some ('\\', rest)
  | 'b' :: rest => some ('\x08', rest)
  | 'e' :: rest => some ('\x1b', rest)
  | 'f' :: rest => some ('\x0c', rest)
  | 'n' :: rest => some ('\n', rest)
  | 'r' :: rest => some ('\r', rest)
  | 't' :: rest => some ('\t', rest)
  | 'x' :: a :: b :: rest => (codedChar? [a, b]).map (·, rest)
  | 'u' :: a :: b :: c :: d :: rest => (codedChar? [a, b, c, d]).map (·, rest)
  | 'U' :: a :: b :: c :: d :: e :: f :: g :: h :: rest =>
    (codedChar? [a, b, c, d, e, f, g, h]).map (·, rest)
  | _ => none

/-- Whether a character may stand in a string or a comment as it is: all but the controls other
than the tab. -/
def isPrintable (c : Char) : Bool :=
  c == '\t' || (decide (32 ≤ c.toNat) && c != '\x7f')

/-- Reads a line break. -/
def lineBreak? : List Char → Option Rest
  | '\n' :: rest | '\r' :: '\n' :: rest => some rest
  | _ => none

/-- A string up to its quote, on one line. The bound is at least the length of the text. -/
def lineBody (quote : Char) : Nat → List Char → Option (List Char × Rest)
  | 0, _ => none
  | _ + 1, [] => none
  | fuel + 1, c :: rest =>
    if c = quote then some ([], rest)
    else if c = '\\' ∧ quote = '"' then do
      let (x, rest) ← escape? rest
      let (body, rest) ← lineBody quote fuel rest
      return (x :: body, rest)
    else if isPrintable c then do
      let (body, rest) ← lineBody quote fuel rest
      return (c :: body, rest)
    else none

/-- Drops the blanks and line breaks in front. -/
def skipSpace : List Char → Rest
  | '\r' :: '\n' :: rest => skipSpace rest
  | c :: rest => if c = ' ' ∨ c = '\t' ∨ c = '\n' then skipSpace rest else c :: rest
  | [] => []

/-- What follows a backslash at the end of a line: the next text that is no blank. -/
def afterLineEnd (text : List Char) : Option Rest :=
  (lineBreak? (text.dropWhile fun c => c == ' ' || c == '\t')).map skipSpace

/-- A string up to its three quotes. The bound is at least the length of the text. -/
def textBody (quote : Char) : Nat → List Char → Option (List Char × Rest)
  | 0, _ => none
  | _ + 1, [] => none
  | fuel + 1, c :: rest =>
    if c = quote then
      let more := rest.takeWhile (· == quote)
      if 2 ≤ more.length then
        let extra := min 2 (more.length - 2)
        some (List.replicate extra quote, rest.drop (2 + extra))
      else do
        let (body, rest) ← textBody quote fuel rest
        return (c :: body, rest)
    else if c = '\\' ∧ quote = '"' then
      match afterLineEnd rest with
      | some rest => textBody quote fuel rest
      | none => do
        let (x, rest) ← escape? rest
        let (body, rest) ← textBody quote fuel rest
        return (x :: body, rest)
    else if isPrintable c ∨ c = '\n' ∨ (c = '\r' ∧ rest.head? = some '\n') then do
      let (body, rest) ← textBody quote fuel rest
      return (c :: body, rest)
    else none

/-- Whether the character opens a string. -/
def isQuote (c : Char) : Bool :=
  c == '"' || c == '\''

/-- A string on one line. -/
def quoted : List Char → Option (String × Rest)
  | c :: rest =>
    if isQuote c then
      (lineBody c (rest.length + 1) rest).map fun (body, rest) => (String.ofList body, rest)
    else none
  | [] => none

/-- A string of either form. -/
def quotedText : List Char → Option (String × Rest)
  | a :: b :: c :: rest =>
    if isQuote a ∧ a = b ∧ b = c then
      let rest := (lineBreak? rest).getD rest
      (textBody a (rest.length + 1) rest).map fun (body, rest) => (String.ofList body, rest)
    else quoted (a :: b :: c :: rest)
  | text => quoted text

end ApiTypes.Toml
