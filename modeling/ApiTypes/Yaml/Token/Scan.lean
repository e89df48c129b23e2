import ApiTypes.Yaml.Token.Property

/-!
# Cutting a YAML text into tokens

A key of a block mapping is recognised only when the colon after it is reached, so the tokens
that announce it are put in front of tokens that are already there. A key of that kind stays on
one line, and its colon comes within 1024 characters.

## Main definitions

* `Yaml.Scan` — the tokens so far, and what the next one depends on
* `Yaml.scanTokens` — the tokens of a text, `none` for a malformed one
-/

namespace ApiTypes.Yaml

/-- A place where a key may have started: the number of tokens in front of it, where it stands,
and whether its line must be an entry of a block mapping. -/
structure KeyStart where
  required : Bool
  position : Nat
  index : Nat
  line : Nat
  column : Nat

/-- The state between two tokens. `indents` are the columns of the open block collections,
innermost first. `keyStart` belongs to the innermost open brackets or braces, `outerStarts` to
the ones around them. The tokens are held last first. -/
structure Scan where
  cursor : Cursor
  indents : List Nat := []
  keyStart : Option KeyStart := none
  outerStarts : List (Option KeyStart) := []
  keyAllowed : Bool := true
  tokens : List Token := []
  count : Nat := 0

namespace Scan

/-- Whether brackets or braces are open. -/
def inFlow (s : Scan) : Bool := !s.outerStarts.isEmpty

/-- The column of the innermost block collection, `-1` outside all of them. -/
def indent (s : Scan) : Int :=
  match s.indents with
  | [] => -1
  | column :: _ => column

/-- Adds a token at the end. -/
def push (s : Scan) (token : Token) : Scan :=
  { s with tokens := token :: s.tokens, count := s.count + 1 }

/-- Puts a token behind the first `position` ones. -/
def insert (s : Scan) (position : Nat) (token : Token) : Scan :=
  { s with tokens := s.tokens.insertIdx (s.count - position) token, count := s.count + 1 }

/-- Moves past blanks, line breaks and comments. Tabs count as blanks only where no key can
start. A byte order mark may stand at the very start. -/
def skipSpace : Nat → Scan → Option Scan
  | 0, _ => none
  | fuel + 1, s =>
    let c := if s.cursor.index = 0 ∧ s.cursor.peek = some '\uFEFF' then s.cursor.skip else s.cursor
    let tabs := s.inFlow || !s.keyAllowed
    let c := c.skipWhile fun x => x == ' ' || (tabs && x == '\t')
    let c := if c.peek = some '#' then c.skipLine else c
    if c.peek.any isBreak then
      skipSpace fuel { s with cursor := c.readBreak.2, keyAllowed := s.keyAllowed || !s.inFlow }
    else some { s with cursor := c }

/-- Forgets a possible key that has become too long, or is refused if it was required. -/
def freshStart (c : Cursor) : Option KeyStart → Option (Option KeyStart)
  | none => some none
  | some k =>
    if k.line < c.line ∨ k.index + 1024 < c.index then
      if k.required then none else some none
    else some (some k)

/-- Forgets the possible keys that have become too long. -/
def dropStaleKeys (s : Scan) : Option Scan := do
  let keyStart ← freshStart s.cursor s.keyStart
  let outerStarts ← s.outerStarts.mapM (freshStart s.cursor)
  return { s with keyStart, outerStarts }

/-- Forgets the innermost possible key, which must not be required. -/
def dropKey (s : Scan) : Option Scan :=
  if s.keyStart.any (·.required) then none else some { s with keyStart := none }

/-- Notes that a key may start here. -/
def saveKey (s : Scan) : Option Scan :=
  if s.keyAllowed then do
    let s ← s.dropKey
    let c := s.cursor
    return { s with
      keyStart := some ⟨!s.inFlow && s.indent == c.column, s.count, c.index, c.line, c.column⟩ }
  else some s

/-- Opens a block collection at the column unless it is open already. Its token goes behind the
first `position` ones. -/
def openBlock (s : Scan) (column position : Nat) (token : Token) : Scan :=
  if ¬ s.inFlow ∧ s.indent < column then
    { s.insert position token with indents := column :: s.indents }
  else s

/-- Closes the block collections that lie deeper than the column. -/
def closeBlocks (s : Scan) (column : Int) : Scan :=
  if s.inFlow then s
  else
    let closed := (s.indents.takeWhile fun (i : Nat) => decide (column < i)).length
    { s with
      indents := s.indents.drop closed
      tokens := List.replicate closed .blockEnd ++ s.tokens
      count := s.count + closed }

/-- Adds the token of an indicator of `n` characters. -/
def indicator (s : Scan) (token : Token) (n : Nat := 1) : Scan :=
  { s with cursor := s.cursor.skip n }.push token

/-- The start or the end of a document. -/
def documentMark (s : Scan) (token : Token) : Option Scan := do
  let s ← (s.closeBlocks (-1)).dropKey
  return { s with keyAllowed := false }.indicator token 3

/-- A directive. -/
def directive (s : Scan) : Option Scan := do
  let s ← (s.closeBlocks (-1)).dropKey
  let (token, cursor) ← readDirective s.cursor
  return { s with keyAllowed := false, cursor }.push token

/-- An opening bracket or brace. -/
def openFlow (s : Scan) (token : Token) : Option Scan := do
  let s ← s.saveKey
  return { s with
    outerStarts := s.keyStart :: s.outerStarts
    keyStart := none
    keyAllowed := true }.indicator token

/-- A closing bracket or brace. -/
def closeFlow (s : Scan) (token : Token) : Option Scan := do
  let s ← s.dropKey
  let s := match s.outerStarts with
    | [] => s
    | outer :: rest => { s with keyStart := outer, outerStarts := rest }
  return { s with keyAllowed := false }.indicator token

/-- A comma between entries. -/
def flowEntry (s : Scan) : Option Scan := do
  let s ← s.dropKey
  return { s with keyAllowed := true }.indicator .flowEntry

/-- The dash of a sequence entry. -/
def blockEntry (s : Scan) : Option Scan := do
  if ¬ s.inFlow ∧ ¬ s.keyAllowed then none
  else
    let s ← (s.openBlock s.cursor.column s.count .blockSequenceStart).dropKey
    return { s with keyAllowed := true }.indicator .blockEntry

/-- The question mark of a key. -/
def explicitKey (s : Scan) : Option Scan := do
  if ¬ s.inFlow ∧ ¬ s.keyAllowed then none
  else
    let s ← (s.openBlock s.cursor.column s.count .blockMappingStart).dropKey
    return { s with keyAllowed := !s.inFlow }.indicator .key

/-- The colon of a value, which makes what stands before it a key. -/
def mappingValue (s : Scan) : Option Scan :=
  match s.keyStart with
  | some k =>
    let s := (s.insert k.position .key).openBlock k.column k.position .blockMappingStart
    some ({ s with keyStart := none, keyAllowed := false }.indicator .value)
  | none =>
    if ¬ s.inFlow ∧ ¬ s.keyAllowed then none
    else
      let s := s.openBlock s.cursor.column s.count .blockMappingStart
      some ({ s with keyAllowed := !s.inFlow }.indicator .value)

/-- An anchor or an alias. -/
def anchor (s : Scan) (token : String → Token) : Option Scan := do
  let s ← s.saveKey
  let (name, cursor) ← readAnchor s.cursor
  return { s with keyAllowed := false, cursor }.push (token name)

/-- A tag. -/
def tag (s : Scan) : Option Scan := do
  let s ← s.saveKey
  let (token, cursor) ← readTag s.inFlow s.cursor
  return { s with keyAllowed := false, cursor }.push token

/-- A block scalar. -/
def block (s : Scan) (fuel : Nat) (style : Style) : Option Scan := do
  let s ← s.dropKey
  let (text, cursor) ← blockScalar fuel (style == .literal) s.indent s.cursor
  return { s with keyAllowed := true, cursor }.push (.scalar style (String.ofList text))

/-- A quoted scalar. -/
def quoted (s : Scan) (fuel : Nat) (style : Style) (quote : Char) : Option Scan := do
  let s ← s.saveKey
  let (text, cursor) ← quotedScalar fuel quote s.cursor
  return { s with keyAllowed := false, cursor }.push (.scalar style (String.ofList text))

/-- A plain scalar. -/
def plain (s : Scan) (fuel : Nat) : Option Scan := do
  let s ← s.saveKey
  let (text, newLine, cursor) ← plainScalar fuel s.inFlow (s.indent + 1) s.cursor
  return { s with keyAllowed := newLine, cursor }.push (.scalar .plain (String.ofList text))

/-- Whether a plain scalar can start with the character, given the one after it. Some indicators
start one where they cannot be read as an indicator. -/
def startsPlain (inFlow : Bool) (c : Char) (next : Option Char) : Bool :=
  if c == '-' then !next.any isBlank
  else if c == '?' || c == ':' then !inFlow && !endsWord next
  else !isSpace c && !",[]\x7b\x7d#&*!|>'\"%@\x60".toList.contains c

/-- The token that starts with the character. -/
def tokenAt (s : Scan) (fuel : Nat) (c : Char) : Option Scan :=
  let next := s.cursor.peekSecond
  let indicates := s.inFlow || endsWord next
  if s.cursor.column = 0 ∧ c = '%' then s.directive
  else if s.cursor.atMark '-' then s.documentMark .documentStart
  else if s.cursor.atMark '.' then s.documentMark .documentEnd
  else if c = '[' then s.openFlow .flowSequenceStart
  else if c = '\x7b' then s.openFlow .flowMappingStart
  else if c = ']' then s.closeFlow .flowSequenceEnd
  else if c = '\x7d' then s.closeFlow .flowMappingEnd
  else if c = ',' then s.flowEntry
  else if c = '-' ∧ endsWord next then s.blockEntry
  else if c = '?' ∧ indicates then s.explicitKey
  else if c = ':' ∧ indicates then s.mappingValue
  else if c = '*' then s.anchor .aliasOf
  else if c = '&' then s.anchor .anchor
  else if c = '!' then s.tag
  else if c = '|' ∧ ¬ s.inFlow then s.block fuel .literal
  else if c = '>' ∧ ¬ s.inFlow then s.block fuel .folded
  else if c = '\'' then s.quoted fuel .singleQuoted '\''
  else if c = '"' then s.quoted fuel .doubleQuoted '"'
  else if startsPlain s.inFlow c next then s.plain fuel
  else none

/-- Reads tokens to the end of the text. -/
def run (limit : Nat) : Nat → Scan → Option (List Token)
  | 0, _ => none
  | fuel + 1, s => do
    let s ← s.skipSpace limit
    let s ← s.dropStaleKeys
    let s := s.closeBlocks s.cursor.column
    match s.cursor.peek with
    | some c => run limit fuel (← s.tokenAt limit c)
    | none =>
      let s ← (s.closeBlocks (-1)).dropKey
      return s.tokens.reverse

end Scan

/-- The tokens of a text, `none` for a malformed one. -/
def scanTokens (text : List Char) : Option (List Token) :=
  let limit := text.length + 2
  if text.all isAllowed then Scan.run limit limit { cursor := { rest := text } } else none

end ApiTypes.Yaml
