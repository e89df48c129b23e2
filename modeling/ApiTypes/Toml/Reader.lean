import ApiTypes.Toml.Quoted
import ApiTypes.Toml.Scalar
import ApiTypes.Toml.Table

/-!
# Reading TOML

A text is a list of lines: headers of tables, and keys with their values. Arrays and inline
tables may run over lines, with a comma after their last part; they are nested at most 80 deep.

## Main definitions

* `Toml.parse?` — the table of a text
-/

namespace ApiTypes.Toml

/-- Drops the blanks in front. -/
def skipBlanks (text : List Char) : Rest :=
  text.dropWhile fun c => c == ' ' || c == '\t'

/-- Drops blanks, line breaks and comments. The flag tells that a comment is open. -/
def skipLines (inComment : Bool) : List Char → Option Rest
  | [] => some []
  | '\n' :: rest | '\r' :: '\n' :: rest => skipLines false rest
  | c :: rest =>
    if inComment then if isPrintable c then skipLines true rest else none
    else if c = ' ' ∨ c = '\t' then skipLines false rest
    else if c = '#' then skipLines true rest
    else some (c :: rest)

/-- Whether a line may end here, but for blanks and a comment. -/
def endsLine (text : List Char) : Bool :=
  match skipBlanks text with
  | [] => true
  | c :: rest => c == '#' || (lineBreak? (c :: rest)).isSome

/-- A part of a key: a bare word or a quoted one. -/
def keyPart (text : List Char) : Option (String × Rest) :=
  if text.head?.any isQuote then quoted text
  else
    let isBare (c : Char) : Bool := c.isAlphanum || c == '_' || c == '-'
    match text.takeWhile isBare with
    | [] => none
    | word => some (String.ofList word, text.dropWhile isBare)

/-- A dotted key: the parts before the last one, and that one. Blanks around it are dropped. -/
def key : Nat → List Char → Option (List String × String × Rest)
  | 0, _ => none
  | fuel + 1, text => do
    let (part, text) ← keyPart (skipBlanks text)
    match skipBlanks text with
    | '.' :: text =>
      let (path, last, text) ← key fuel text
      return (part :: path, last, text)
    | text => return ([], part, text)

/-- A bare word. A blank may part a date from the time of day. -/
def bareWord (text : List Char) : List Char × Rest :=
  let isBare (c : Char) : Bool := c.isAlphanum || "+-._:".toList.contains c
  let word := text.takeWhile isBare
  match text.dropWhile isBare with
  | ' ' :: rest =>
    let time := rest.takeWhile isBare
    if afterDate word = some [] ∧ time.head?.any Char.isDigit then
      (word ++ ' ' :: time, rest.dropWhile isBare)
    else (word, ' ' :: rest)
  | rest => (word, rest)

mutual

/-- A value, whose arrays and tables are nested at most `depth` deep. `fuel` bounds the number of
steps. -/
def value : Nat → Nat → List Char → Option (Value × Rest)
  | 0, _, _ => none
  | fuel + 1, depth, text =>
    match text with
    | '[' :: rest =>
      match depth with
      | 0 => none
      | depth + 1 => (items fuel depth rest).map fun (items, rest) => (.array items, rest)
    | '\x7b' :: rest =>
      match depth with
      | 0 => none
      | depth + 1 => (inlineTable fuel depth [] rest).map fun (draft, rest) =>
        (.table (Draft.entries draft), rest)
    | text =>
      if text.head?.any isQuote then
        (quotedText text).map fun (text, rest) => (.string text, rest)
      else
        let (word, rest) := bareWord text
        (scalar? word).map (·, rest)

/-- The items of an array up to its bracket. -/
def items : Nat → Nat → List Char → Option (List Value × Rest)
  | 0, _, _ => none
  | fuel + 1, depth, text => do
    match ← skipLines false text with
    | ']' :: rest => return ([], rest)
    | text =>
      let (item, text) ← value fuel depth text
      match ← skipLines false text with
      | ',' :: rest =>
        let (more, rest) ← items fuel depth rest
        return (item :: more, rest)
      | ']' :: rest => return ([item], rest)
      | _ => none

/-- The entries of an inline table up to its brace, added to those already read. -/
def inlineTable : Nat → Nat → Draft → List Char → Option (Draft × Rest)
  | 0, _, _, _ => none
  | fuel + 1, depth, draft, text => do
    match ← skipLines false text with
    | '\x7d' :: rest => return (draft, rest)
    | text =>
      let (draft, text) ← entry fuel depth [] draft text
      match ← skipLines false text with
      | ',' :: rest => inlineTable fuel depth draft rest
      | '\x7d' :: rest => return (draft, rest)
      | _ => none

/-- A key and its value, entered below a header. -/
def entry : Nat → Nat → List String → Draft → List Char → Option (Draft × Rest)
  | 0, _, _, _, _ => none
  | fuel + 1, depth, header, draft, text => do
    let (path, last, text) ← key (text.length + 1) text
    let '=' :: text := text | none
    let (value, text) ← value fuel depth (skipBlanks text)
    let draft ← Draft.enterBelow? header path last value draft
    return (draft, text)

end

/-- A header or a key with its value, entered below the header in force. Gives the header then in
force, the table, and what follows. -/
def line (fuel : Nat) (header : List String) (draft : Draft) (text : List Char) :
    Option (List String × Draft × Rest) :=
  match text with
  | '[' :: '[' :: text => do
    let (path, last, text) ← key (text.length + 1) text
    let ']' :: ']' :: text := text | none
    return (path ++ [last], ← Draft.openListed? path last draft, text)
  | '[' :: text => do
    let (path, last, text) ← key (text.length + 1) text
    let ']' :: text := text | none
    return (path ++ [last], ← Draft.openTable? path last draft, text)
  | text => do
    let (draft, text) ← entry fuel 80 header draft text
    return (header, draft, text)

/-- The lines of a text, entered below the header in force. -/
def lines : Nat → List String → Draft → List Char → Option Draft
  | 0, _, _, _ => none
  | fuel + 1, header, draft, text => do
    match ← skipLines false text with
    | [] => return draft
    | text =>
      let (header, draft, text) ← line (2 * text.length + 4) header draft text
      if endsLine text then lines fuel header draft text else none

/-- The table of a text. A byte order mark in front does not count. -/
def parse? (text : String) : Option (List (String × Value)) :=
  let text := match text.toList with
    | '\uFEFF' :: rest => rest
    | text => text
  (lines (text.length + 1) [] [] text).map Draft.entries

end ApiTypes.Toml
