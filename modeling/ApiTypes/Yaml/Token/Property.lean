import ApiTypes.Text.Percent
import ApiTypes.Yaml.Token

/-!
# Directives, anchors and tags

The tokens that are read character by character without regard to indentation.

## Main definitions

* `Yaml.readDirective`, `Yaml.readAnchor`, `Yaml.readTag`
-/

namespace ApiTypes.Yaml

/-- A character of tags; `,`, `[` and `]` are allowed only between angle brackets. -/
def isUriChar (verbatim : Bool) (c : Char) : Bool :=
  isNameChar c || ";/?:@&=+$.%!~*'()".toList.contains c ||
    (verbatim && (c == ',' || c == '[' || c == ']'))

/-- Undoes the escapes of a tag, which must spell whole characters. -/
def unescapeUri (text : List Char) : Option (List Char) :=
  if checkEscapes text then Utf8.decode? (Percent.decodeBytes (Utf8.encode text)) else none
where
  /-- Whether two hexadecimal digits follow each percent sign. -/
  checkEscapes : List Char → Bool
    | '%' :: a :: b :: rest => (hexDigit? a).isSome && (hexDigit? b).isSome && checkEscapes rest
    | '%' :: _ => false
    | _ :: rest => checkEscapes rest
    | [] => true

/-- The characters of a tag in front, after a head of the given length. There must be one. -/
def readUri (verbatim : Bool) (headLength : Nat) (c : Cursor) : Option (List Char × Cursor) := do
  let (raw, c) := c.takeWhile (isUriChar verbatim)
  let text ← unescapeUri raw
  if headLength + raw.length = 0 then none else some (text, c)

/-- The handle of a tag: `!`, a name, and another `!` if there is one. -/
def readHandle (c : Cursor) : Option (List Char × Cursor) :=
  if c.peek = some '!' then
    let (name, c) := c.skip.takeWhile isNameChar
    if c.peek = some '!' then some ('!' :: name ++ ['!'], c.skip) else some ('!' :: name, c)
  else none

/-- Reads a tag. Without a named handle, the characters after `!` are the suffix of the handle
`!`; a lone `!` is a suffix without a handle. -/
def readTag (inFlow : Bool) (c : Cursor) : Option (Token × Cursor) := do
  let (token, c) ←
    if c.peekSecond = some '<' then do
      let (suffix, c) ← readUri true 0 (c.skip 2)
      if c.peek = some '>' then some (Token.tag "" (String.ofList suffix), c.skip) else none
    else do
      let (handle, c) ← readHandle c
      if 1 < handle.length ∧ handle.getLast? = some '!' then
        let (suffix, c) ← readUri false 0 c
        some (Token.tag (String.ofList handle) (String.ofList suffix), c)
      else
        let (more, c) ← readUri false handle.length c
        match handle.tail ++ more with
        | [] => some (Token.tag "" "!", c)
        | suffix => some (Token.tag "!" (String.ofList suffix), c)
  if endsWord c.peek ∨ (inFlow ∧ c.peek = some ',') then some (token, c) else none

/-- Reads the name after the indicator of an anchor or an alias. -/
def readAnchor (c : Cursor) : Option (String × Cursor) :=
  let (name, c) := c.skip.takeWhile isNameChar
  if name ≠ [] ∧ (endsWord c.peek ∨ c.peek.any fun x => "?:,]\x7d%@\x60".toList.contains x) then
    some (String.ofList name, c)
  else none

/-- A number of a version, of at most nine digits. -/
def readVersionNumber (c : Cursor) : Option (Nat × Cursor) :=
  let (digits, c) := c.takeWhile Char.isDigit
  if digits = [] ∨ 9 < digits.length then none
  else some (digits.foldl (fun n d => 10 * n + (d.toNat - 48)) 0, c)

/-- Reads a directive up to the end of its line. -/
def readDirective (c : Cursor) : Option (Token × Cursor) := do
  let (name, c) := c.skip.takeWhile isNameChar
  if name = [] ∨ ¬ endsWord c.peek then none
  else
    let c := c.skipWhile isBlank
    let (token, c) ←
      match String.ofList name with
      | "YAML" => do
        let (major, c) ← readVersionNumber c
        if c.peek = some '.' then
          let (minor, c) ← readVersionNumber c.skip
          some (Token.versionDirective major minor, c)
        else none
      | "TAG" => do
        let (handle, c) ← readHandle c
        if handle ≠ ['!'] ∧ handle.getLast? ≠ some '!' then none
        else if ¬ c.peek.any isBlank then none
        else
          let (expansion, c) ← readUri true 0 (c.skipWhile isBlank)
          if endsWord c.peek then
            some (Token.tagDirective (String.ofList handle) (String.ofList expansion), c)
          else none
      | _ => none
    let c := c.skipWhile isBlank
    let c := if c.peek = some '#' then c.skipLine else c
    if endsLine c.peek then some (token, c.readBreak.2) else none

end ApiTypes.Yaml
