import ApiTypes.Yaml.Cursor

/-!
# Scalars of YAML texts

Plain and quoted scalars may run over several lines. Between two pieces of text a single line
break is read as a space, and of several breaks all but the first are kept; blanks around a
break are dropped. Block scalars keep or fold the breaks of their lines, and their last breaks
are dropped, kept, or kept once.

All loops are bounded by a number of steps, for which the length of the text is enough.

## Main definitions

* `Yaml.Style` — how a scalar is written
* `Yaml.plainScalar`, `Yaml.quotedScalar`, `Yaml.blockScalar` — reading a scalar of each kind
-/

namespace ApiTypes.Yaml

/-- How a scalar is written. -/
inductive Style where
  | plain
  | singleQuoted
  | doubleQuoted
  | literal
  | folded
deriving DecidableEq, Repr

/-- The white space between two pieces of a scalar: blanks of one line, or the first line break
and the ones after it. -/
structure Gap where
  blanks : List Char := []
  broken : Bool := false
  first : List Char := []
  more : List Char := []

/-- What is read for the white space. -/
def Gap.text (gap : Gap) : List Char :=
  if gap.broken then
    if gap.first = ['\n'] then (if gap.more = [] then [' '] else gap.more)
    else gap.first ++ gap.more
  else gap.blanks

/-- Adds the white space in front to a gap. A tab is refused in a line's indentation, which is
where the column is less than `indent`. -/
def Gap.read (indent : Int) : Nat → Gap → Cursor → Option (Gap × Cursor)
  | 0, _, _ => none
  | fuel + 1, gap, c =>
    match c.peek with
    | some x =>
      if isBlank x then
        if gap.broken ∧ (c.column : Int) < indent ∧ x = '\t' then none
        else if gap.broken then read indent fuel gap c.skip
        else read indent fuel { gap with blanks := gap.blanks ++ [x] } c.skip
      else if isBreak x then
        let (text, c) := c.readBreak
        if gap.broken then read indent fuel { gap with more := gap.more ++ text } c
        else read indent fuel { gap with broken := true, first := text } c
      else some (gap, c)
    | none => some (gap, c)

/-! ### Plain scalars -/

/-- An indicator that ends a plain scalar inside brackets or braces. -/
def isFlowIndicator (c : Char) : Bool :=
  c == ',' || c == '[' || c == ']' || c == '\x7b' || c == '\x7d'

/-- The characters of a plain scalar up to white space or an indicator. Inside brackets or
braces a colon right before an indicator is refused. -/
def plainRun (inFlow : Bool) : List Char → Option (List Char)
  | [] => some []
  | c :: rest =>
    if isSpace c then some []
    else if inFlow ∧ c = ':' ∧ rest.head?.any (fun d => isFlowIndicator d || d == '?') then none
    else if (c = ':' ∧ endsWord rest.head?) ∨ (inFlow ∧ isFlowIndicator c) then some []
    else (c :: ·) <$> plainRun inFlow rest

/-- Reads a plain scalar on from the text before, last character first, and the white space
after that. The middle component says whether the scalar ends on a later line than its text. -/
def plainFrom (inFlow : Bool) (indent : Int) :
    Nat → List Char → Gap → Cursor → Option (List Char × Bool × Cursor)
  | 0, _, _, _ => none
  | fuel + 1, text, gap, c =>
    if c.atDocumentMark ∨ c.peek = some '#' then some (text.reverse, gap.broken, c)
    else do
      let run ← plainRun inFlow c.rest
      let (text, gap) :=
        if run = [] then (text, gap) else (run.reverse ++ (gap.text.reverse ++ text), {})
      let c := c.skip run.length
      if c.peek.any isSpace then
        let (gap, c) ← Gap.read indent (fuel + 1) gap c
        if ¬ inFlow ∧ (c.column : Int) < indent then return (text.reverse, gap.broken, c)
        else plainFrom inFlow indent fuel text gap c
      else return (text.reverse, gap.broken, c)

/-- Reads a plain scalar whose later lines must be indented by `indent`. -/
def plainScalar (fuel : Nat) (inFlow : Bool) (indent : Int) (c : Cursor) :
    Option (List Char × Bool × Cursor) :=
  plainFrom inFlow indent fuel [] {} c

/-! ### Quoted scalars -/

/-- A stretch of a quoted scalar without white space: its text, the number of characters it is
written with, and whether an escaped line break ends it. -/
structure Stretch where
  text : List Char := []
  length : Nat := 0
  escapedBreak : Bool := false

/-- Puts a character in front that is written with `n` characters. -/
def Stretch.cons (c : Char) (n : Nat) (s : Stretch) : Stretch :=
  { s with text := c :: s.text, length := n + s.length }

/-- The stretch in front of a single quoted scalar; a doubled quote stands for a quote. -/
def singleStretch : List Char → Stretch
  | '\'' :: '\'' :: rest => (singleStretch rest).cons '\'' 2
  | c :: rest => if isSpace c ∨ c = '\'' then {} else (singleStretch rest).cons c 1
  | [] => {}

/-- The character of a one letter escape. -/
def escape? : Char → Option Char
  | '0' => some '\x00'
  | 'a' => some '\x07'
  | 'b' => some '\x08'
  | 't' | '\t' => some '\t'
  | 'n' => some '\n'
  | 'v' => some '\x0b'
  | 'f' => some '\x0c'
  | 'r' => some '\r'
  | 'e' => some '\x1b'
  | ' ' => some ' '
  | '"' => some '"'
  | '/' => some '/'
  | '\\' => some '\\'
  | 'N' => some '\x85'
  | '_' => some '\xa0'
  | 'L' => some '\u2028'
  | 'P' => some '\u2029'
  | _ => none

/-- The value of a hexadecimal digit. -/
def hexDigit? (c : Char) : Option Nat :=
  if c.isDigit then some (c.toNat - 48)
  else if 'a' ≤ c ∧ c ≤ 'f' then some (c.toNat - 87)
  else if 'A' ≤ c ∧ c ≤ 'F' then some (c.toNat - 55)
  else none

/-- The character with the code point that the hexadecimal digits spell; surrogates are refused. -/
def hexChar? (digits : List Char) : Option Char := do
  let code ← digits.foldlM (fun n c => (16 * n + ·) <$> hexDigit? c) 0
  if h : code.isValidChar then some (Char.ofNatAux code h) else none

/-- The stretch in front of a double quoted scalar, `none` for a malformed escape. -/
def doubleStretch : List Char → Option Stretch
  | '\\' :: 'x' :: a :: b :: rest => do
    return (← doubleStretch rest).cons (← hexChar? [a, b]) 4
  | '\\' :: 'u' :: a :: b :: c :: d :: rest => do
    return (← doubleStretch rest).cons (← hexChar? [a, b, c, d]) 6
  | '\\' :: 'U' :: a :: b :: c :: d :: e :: f :: g :: h :: rest => do
    return (← doubleStretch rest).cons (← hexChar? [a, b, c, d, e, f, g, h]) 10
  | '\\' :: c :: rest =>
    if isBreak c then some { length := 1, escapedBreak := true }
    else do return (← doubleStretch rest).cons (← escape? c) 2
  | c :: rest =>
    if isSpace c ∨ c = '"' then some {}
    else if c = '\\' then none
    else do return (← doubleStretch rest).cons c 1
  | [] => some {}

/-- Reads a quoted scalar on from the text before, last character first, up to and including its
closing quote. -/
def quotedFrom (quote : Char) : Nat → List Char → Cursor → Option (List Char × Cursor)
  | 0, _, _ => none
  | fuel + 1, text, c =>
    if c.atDocumentMark ∨ c.peek = none then none
    else do
      let s ← if quote = '"' then doubleStretch c.rest else some (singleStretch c.rest)
      let text := s.text.reverse ++ text
      let c := c.skip s.length
      if c.peek = some quote then return (text.reverse, c.skip)
      else
        let (start, c) :=
          if s.escapedBreak then ({ broken := true : Gap }, c.readBreak.2) else ({}, c)
        let (gap, c) ← Gap.read 0 (fuel + 1) start c
        quotedFrom quote fuel (gap.text.reverse ++ text) c

/-- Reads a quoted scalar that starts at its opening quote. -/
def quotedScalar (fuel : Nat) (quote : Char) (c : Cursor) : Option (List Char × Cursor) :=
  quotedFrom quote fuel [] c.skip

/-! ### Block scalars -/

/-- What becomes of the line breaks at the end of a block scalar. -/
inductive Chomping where
  | strip
  | clip
  | keep
deriving DecidableEq, Repr

/-- The chomping that an indicator asks for. -/
def chompingOf? : Char → Option Chomping
  | '+' => some .keep
  | '-' => some .strip
  | _ => none

/-- Reads an indicator of the header, if one is there. -/
def readIndicator {α : Type} (of? : Char → Option α) (c : Cursor) : Option α × Cursor :=
  match c.peek.bind of? with
  | some a => (some a, c.skip)
  | none => (none, c)

/-- The digit of an indentation indicator. -/
def indentationOf? (c : Char) : Option Nat :=
  if c.isDigit then some (c.toNat - 48) else none

/-- Reads the header of a block scalar up to the end of its line: the chomping and the
indentation, in either order, and a comment. An indentation of zero is refused. -/
def blockHeader (c : Cursor) : Option (Chomping × Option Nat × Cursor) :=
  let (chomping, c) := readIndicator chompingOf? c
  let (indentation, c) := readIndicator indentationOf? c
  let (chomping, c) :=
    if chomping = none ∧ indentation ≠ none then readIndicator chompingOf? c else (chomping, c)
  let c := c.skipWhile isBlank
  let c := if c.peek = some '#' then c.skipLine else c
  if indentation = some 0 ∨ ¬ endsLine c.peek then none
  else some (chomping.getD .clip, indentation, c.readBreak.2)

/-- Reads empty lines and the indentation of the next line. While the indentation is not known,
`widest` is the largest one seen. A tab in the indentation is refused. -/
def blockBreaks (indent : Option Nat) :
    Nat → List Char → Nat → Cursor → Option (List Char × Nat × Cursor)
  | 0, _, _, _ => none
  | fuel + 1, breaks, widest, c =>
    let free := match indent with
      | none => c.rest
      | some n => c.rest.take (n - c.column)
    let spaces := free.takeWhile (· == ' ')
    let c := c.skip spaces.length
    let widest := max widest c.column
    let indenting := match indent with
      | none => true
      | some n => decide (c.column < n)
    if indenting && c.peek == some '\t' then none
    else if c.peek.any isBreak then
      let (text, c) := c.readBreak
      blockBreaks indent fuel (breaks ++ text) widest c
    else some (breaks, widest, c)

/-- The state of a block scalar between two lines: its text, last character first, the break after
its last line, the empty lines after that, and whether the last line started with a blank. -/
structure BlockState where
  text : List Char := []
  lastBreak : List Char := []
  breaks : List Char := []
  afterBlank : Bool := false

/-- Reads the lines of a block scalar. -/
def blockLines (literal : Bool) (indent : Nat) :
    Nat → BlockState → Cursor → Option (BlockState × Cursor)
  | 0, _, _ => none
  | fuel + 1, s, c =>
    if c.column = indent ∧ c.peek ≠ none then
      let blank := c.peek.any isBlank
      let joint :=
        if ¬ literal ∧ s.lastBreak = ['\n'] ∧ ¬ s.afterBlank ∧ ¬ blank then
          (if s.breaks = [] then [' '] else [])
        else s.lastBreak
      let (line, c) := c.takeWhile (!isBreak ·)
      let (lastBreak, c) := c.readBreak
      match blockBreaks (some indent) (fuel + 1) [] 0 c with
      | none => none
      | some (breaks, _, c) =>
        blockLines literal indent fuel
          ⟨line.reverse ++ (s.breaks.reverse ++ (joint ++ s.text)), lastBreak, breaks, blank⟩ c
    else some (s, c)

/-- Reads a block scalar that starts at its indicator, inside a block with the given
indentation. -/
def blockScalar (fuel : Nat) (literal : Bool) (indent : Int) (c : Cursor) :
    Option (List Char × Cursor) := do
  let (chomping, indentation, c) ← blockHeader c.skip
  let fixed := indentation.map fun n => (max indent 0).toNat + n
  let (breaks, widest, c) ← blockBreaks fixed fuel [] 0 c
  let column := fixed.getD (max widest (max (indent + 1).toNat 1))
  let (s, c) ← blockLines literal column fuel { breaks } c
  let tail := match chomping with
    | .strip => []
    | .clip => s.lastBreak
    | .keep => s.lastBreak ++ s.breaks
  return (s.text.reverse ++ tail, c)

end ApiTypes.Yaml
