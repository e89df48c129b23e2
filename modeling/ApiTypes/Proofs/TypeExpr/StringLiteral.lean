import ApiTypes.Json.Reader
import ApiTypes.Proofs.Text.Utf16
import ApiTypes.Proofs.Unicode.Ascii
import ApiTypes.TypeExpr.Token

/-!
# String literals are read as they were meant

In strict code, JavaScript reads a string literal up to the first quote of its kind that no
backslash stands before, and takes escapes for the code units they stand for. The printer writes
each character so that this gives the character back, whatever stands next to it and whatever
follows the literal.

## Main definitions

* `StringLiteral.read` — the value of the literal in front of a text, and the text after it
* `StringLiteral.Written` — how a character can stand between quotes

## Main results

* `StringLiteral.written_escapedChar` — the printer writes every character in such a way
* `StringLiteral.read_chars` — a printed literal is read as its text, up to its last quote
* `StringLiteral.isLineTerminator_of_mem_chars` — and stands on one line
-/

namespace ApiTypes

/-- The characters that end a line of a script. -/
def isLineTerminator (c : Char) : Bool :=
  c == '\n' || c == '\r' || c == '\u2028' || c == '\u2029'

namespace StringLiteral

/-! ### Reading a literal -/

/-- The number that so many hexadecimal digits in front spell, and what follows them. -/
def readHex (count : Nat) (text : List Char) : Option (Nat × List Char) :=
  if (text.take count).length = count then
    (Json.Reader.hexValue? (text.take count)).map fun code => (code, text.drop count)
  else none

/-- The code point that the hexadecimal digits up to a closing brace spell, and what follows it. -/
def readBraced (text : List Char) : Option (Nat × List Char) :=
  match text.takeWhile (· != '\x7d'), text.dropWhile (· != '\x7d') with
  | digit :: digits, _ :: after =>
    (Json.Reader.hexValue? (digit :: digits)).bind fun code =>
      if code < 0x110000 then some (code, after) else none
  | _, _ => none

/-- The character that a backslash and the given one stand for: a control for some letters, and
for all else the character itself. -/
def escapee (c : Char) : Char :=
  if c = 'b' then '\x08'
  else if c = 't' then '\t'
  else if c = 'n' then '\n'
  else if c = 'v' then '\x0b'
  else if c = 'f' then '\x0c'
  else if c = 'r' then '\r'
  else c

/-- The code units that a backslash and the text in front stand for, and what follows. A line break
after a backslash stands for nothing, and of the digits only a lone zero has a meaning. -/
def readEscape : List Char → Option (List UInt16 × List Char)
  | [] => none
  | c :: rest =>
    -- codes in hexadecimal digits
    if c = 'x' then (readHex 2 rest).map (Prod.map Utf16.units id)
    else if c = 'u' then
      (if rest.head? = some '\x7b' then readBraced rest.tail else readHex 4 rest).map
        (Prod.map Utf16.units id)
    -- a line break, which may be two characters
    else if c = '\r' ∧ rest.head? = some '\n' then some ([], rest.tail)
    else if isLineTerminator c then some ([], rest)
    -- other digits would be octal codes, which strict code does not have
    else if c.isDigit then
      if c = '0' ∧ ¬ rest.head?.any Char.isDigit then some (Utf16.units 0, rest) else none
    else some (Utf16.units (escapee c).toNat, rest)

theorem suffix_of_readHex {count : Nat} {text : List Char} {result : Nat × List Char}
    (spelled : readHex count text = some result) : result.2 <:+ text := by
  unfold readHex at spelled
  split at spelled
  · obtain ⟨_, _, rfl⟩ := Option.map_eq_some_iff.mp spelled
    exact List.drop_suffix ..
  · cases spelled

theorem suffix_of_readBraced {text : List Char} {result : Nat × List Char}
    (spelled : readBraced text = some result) : result.2 <:+ text := by
  unfold readBraced at spelled
  split at spelled
  · next closed =>
    obtain ⟨_, _, bounded⟩ := Option.bind_eq_some_iff.mp spelled
    split at bounded
    · cases bounded
      exact (List.suffix_cons ..).trans (closed ▸ List.dropWhile_suffix _)
    · cases bounded
  · cases spelled

theorem suffix_of_readEscape {text : List Char} {result : List UInt16 × List Char}
    (escape : readEscape text = some result) : result.2 <:+ text := by
  cases text with
  | nil => cases escape
  | cons c rest =>
    suffices result.2 <:+ rest from this.trans (List.suffix_cons ..)
    rw [readEscape] at escape
    split at escape
    · obtain ⟨_, spelled, rfl⟩ := Option.map_eq_some_iff.mp escape
      exact suffix_of_readHex spelled
    split at escape
    · obtain ⟨_, spelled, rfl⟩ := Option.map_eq_some_iff.mp escape
      split at spelled
      · exact (suffix_of_readBraced spelled).trans (List.tail_suffix _)
      · exact suffix_of_readHex spelled
    split at escape
    · cases escape
      exact List.tail_suffix _
    split at escape
    · cases escape
      exact List.suffix_refl _
    split at escape
    · split at escape <;> cases escape
      exact List.suffix_refl _
    · cases escape
      exact List.suffix_refl _

/-- The code units of a literal from a place between its quotes on, and what follows it. -/
def readBody (quote : Char) : List Char → Option (List UInt16 × List Char)
  | [] => none
  | c :: rest =>
    if c = quote then some ([], rest)
    else if c = '\\' then
      match _ : readEscape rest with
      | none => none
      | some (units, after) => (readBody quote after).map (Prod.map (units ++ ·) id)
    -- the separators of lines and paragraphs may stand in a literal, line breaks may not
    else if c = '\n' ∨ c = '\r' then none
    else (readBody quote rest).map (Prod.map (Utf16.units c.toNat ++ ·) id)
termination_by text => text.length
decreasing_by
  · exact Nat.lt_succ_of_le (suffix_of_readEscape ‹_›).length_le
  · simp

/-- The code units of the literal in front of a text, and what follows it. -/
def read : List Char → Option (List UInt16 × List Char)
  | [] => none
  | c :: rest => if c = '"' ∨ c = '\'' then readBody c rest else none

/-! ### Reading what the printer writes -/

/-- The ways a character can stand between quotes: as it is, or as an escape that is read as the
character. Only before a digit may the escape depend on the character that is next. -/
inductive Written (quote c : Char) (next : Option Char) : List Char → Prop where
  | plain (notQuote : c ≠ quote) (notBackslash : c ≠ '\\') (inLine : isLineTerminator c = false) :
    Written quote c next [c]
  | escaped {marks : List Char} (inLine : marks.any isLineTerminator = false)
    (isRead : ∀ rest : List Char, (rest.head?.any Char.isDigit → next.any Char.isDigit) →
      readEscape (marks ++ rest) = some (Utf16.units c.toNat, rest)) :
    Written quote c next ('\\' :: marks)

theorem readHex_append {count code : Nat} {digits : List Char} (length : digits.length = count)
    (value : Json.Reader.hexValue? digits = some code) (rest : List Char) :
    readHex count (digits ++ rest) = some (code, rest) := by
  subst length
  rw [readHex, List.take_left, List.drop_left, if_pos rfl, value]
  rfl

variable {quote c : Char} {next : Option Char}

/-- A backslash and a character that means itself or, as a letter, a control. -/
theorem Written.single {d : Char} (one : escapee d = c) (inLine : isLineTerminator d = false)
    (noDigit : d.isDigit = false) (noCode : d ≠ 'x' ∧ d ≠ 'u') :
    Written quote c next ['\\', d] := by
  have notReturn : d ≠ '\r' := by
    rintro rfl
    exact absurd inLine (by decide)
  refine .escaped (by simpa using inLine) fun rest _ => ?_
  simp [readEscape, noCode.1, noCode.2, notReturn, inLine, noDigit, one]

/-- The code of a character in two hexadecimal digits. -/
theorem Written.byte {digits : List Char} (length : digits.length = 2)
    (value : Json.Reader.hexValue? digits = some c.toNat)
    (inLine : digits.any isLineTerminator = false) :
    Written quote c next ('\\' :: 'x' :: digits) := by
  refine .escaped inLine fun rest _ => ?_
  rw [List.cons_append, readEscape, if_pos rfl, readHex_append length value]
  rfl

/-- The code of a character in four hexadecimal digits. -/
theorem Written.word {digits : List Char} (length : digits.length = 4)
    (value : Json.Reader.hexValue? digits = some c.toNat)
    (inLine : digits.any isLineTerminator = false) (open? : digits.head? ≠ some '\x7b') :
    Written quote c next ('\\' :: 'u' :: digits) := by
  refine .escaped inLine fun rest _ => ?_
  have unbraced : (digits ++ rest).head? ≠ some '\x7b' := by
    cases digits with
    | nil => cases length
    | cons d digits => exact open?
  rw [List.cons_append, readEscape, if_neg (by decide), if_pos rfl, if_neg unbraced,
    readHex_append length value]
  rfl

theorem Written.hex (control : c.toNat < 32) : Written quote c next (hexEscape c) := by
  have digits := Unicode.of_ascii
    (P := fun c => c.toNat < 32 → hexEscape c = '\\' :: 'x' :: (hexEscape c).drop 2 ∧
      ((hexEscape c).drop 2).length = 2 ∧
      Json.Reader.hexValue? ((hexEscape c).drop 2) = some c.toNat ∧
      ((hexEscape c).drop 2).any isLineTerminator = false)
    (by decide) (by omega) control
  -- the digits are what is left of the escape without its first two characters
  obtain ⟨spelling, length, value, inLine⟩ := digits
  rw [spelling]
  exact .byte length value inLine

theorem Written.null : Written quote '\x00' next
    (if next.any Char.isDigit then ['\\', 'x', '0', '0'] else ['\\', '0']) := by
  by_cases digit : next.any Char.isDigit
  · rw [if_pos digit]
    exact .byte rfl rfl rfl
  · rw [if_neg digit]
    refine .escaped rfl fun rest ahead => ?_
    have lone : ¬ rest.head?.any Char.isDigit := mt ahead digit
    have noReturn : ¬ ('0' = '\r' ∧ rest.head? = some '\n') := fun both => absurd both.1 (by decide)
    rw [List.cons_append, List.nil_append, readEscape, if_neg (by decide), if_neg (by decide),
      if_neg noReturn, if_neg (by decide), if_pos (by decide), if_pos ⟨rfl, lone⟩]
    rfl

/-- Whatever a character is and whatever stands next to it, it is written in a way that is read. -/
theorem written_escapedChar (isQuote : quote = '"' ∨ quote = '\'') (c : Char)
    (next : Option Char) : Written quote c next (escapedChar quote c next) := by
  have step {p : Prop} [Decidable p] {text other : List Char} (here : p → Written quote c next text)
      (there : ¬ p → Written quote c next other) :
      Written quote c next (if p then text else other) := iteInduction here there
  -- one step for each spelling of `escapedChar`, in its order
  unfold escapedChar
  refine step ?quote fun notQuote => ?_
  case quote =>
    rintro rfl
    rcases isQuote with rfl | rfl
    · exact .single rfl rfl rfl (by decide)
    · exact .single rfl rfl rfl (by decide)
  refine step (by rintro rfl; exact .single rfl rfl rfl (by decide)) fun notBackslash => ?_
  -- the controls that have a letter
  refine step (by rintro rfl; exact .single rfl rfl rfl (by decide)) fun _ => ?_
  refine step (by rintro rfl; exact .single rfl rfl rfl (by decide)) fun _ => ?_
  refine step (by rintro rfl; exact .single rfl rfl rfl (by decide)) fun notLineFeed => ?_
  refine step (by rintro rfl; exact .single rfl rfl rfl (by decide)) fun notReturn => ?_
  refine step (by rintro rfl; exact .single rfl rfl rfl (by decide)) fun _ => ?_
  refine step (by rintro rfl; exact .plain notQuote (by decide) rfl) fun _ => ?_
  refine step (by rintro rfl; exact .null) fun _ => ?_
  refine step .hex fun _ => ?_
  -- the separators of lines and paragraphs, and the byte order mark
  refine step (by rintro rfl; exact .word rfl rfl rfl (by decide)) fun notLine => ?_
  refine step (by rintro rfl; exact .word rfl rfl rfl (by decide)) fun notParagraph => ?_
  refine step (by rintro rfl; exact .word rfl rfl rfl (by decide)) fun _ => ?_
  refine .plain notQuote notBackslash ?_
  simp [isLineTerminator, notLineFeed, notReturn, notLine, notParagraph]

/-- Reading goes on after a character with what stands for it in front. -/
theorem Written.readBody {marks rest : List Char} (written : Written quote c next marks)
    (isQuote : quote = '"' ∨ quote = '\'')
    (ahead : rest.head?.any Char.isDigit → next.any Char.isDigit) :
    readBody quote (marks ++ rest) =
      (readBody quote rest).map (Prod.map (Utf16.units c.toNat ++ ·) id) := by
  cases written with
  | plain notQuote notBackslash inLine =>
    have notBreak : ¬ (c = '\n' ∨ c = '\r') := by
      rintro (rfl | rfl) <;> exact absurd inLine (by decide)
    rw [List.singleton_append, StringLiteral.readBody, if_neg notQuote, if_neg notBackslash,
      if_neg notBreak]
  | escaped _ isRead =>
    have notQuote : '\\' ≠ quote := by
      rintro rfl
      exact absurd isQuote (by decide)
    rw [List.cons_append, StringLiteral.readBody, if_neg notQuote, if_pos rfl]
    split
    · next none => rw [isRead rest ahead] at none; cases none
    · next some => rw [isRead rest ahead] at some; cases some; rfl

theorem Written.inLine {marks : List Char} (written : Written quote c next marks) :
    ∀ d ∈ marks, isLineTerminator d = false := by
  cases written with
  | plain _ _ inLine => simpa using inLine
  | escaped inLine _ => simpa using ⟨rfl, by simpa using inLine⟩

/-- Only a digit is written with a digit in front. -/
theorem Written.digit {marks : List Char} (written : Written quote c next marks) {rest : List Char}
    (digit : (marks ++ rest).head?.any Char.isDigit) : c.isDigit := by
  cases written with
  | plain => simpa using digit
  | escaped => simp at digit

variable (isQuote : quote = '"' ∨ quote = '\'')

include isQuote

theorem digit_of_body {text : List Char} (rest : List Char)
    (digit : (body quote text ++ quote :: rest).head?.any Char.isDigit) :
    text.head?.any Char.isDigit := by
  cases text with
  | nil => rcases isQuote with rfl | rfl <;> simp [body] at digit
  | cons c text =>
    rw [body, List.append_assoc] at digit
    exact (written_escapedChar isQuote c text.head?).digit digit

theorem readBody_body (text rest : List Char) :
    readBody quote (body quote text ++ quote :: rest) = some (Utf16.encode text, rest) := by
  -- the reader takes what stands for the first character, and the rest is read as it is
  induction text with
  | nil => rw [body, List.nil_append, readBody, if_pos rfl, Utf16.encode_nil]
  | cons c text ih =>
    have step := (written_escapedChar isQuote c text.head?).readBody isQuote
      (digit_of_body isQuote rest)
    rw [body, List.append_assoc, step, ih, Utf16.encode_cons]
    rfl

theorem isLineTerminator_of_mem_body {text : List Char} {d : Char} (among : d ∈ body quote text) :
    isLineTerminator d = false := by
  induction text with
  | nil => cases among
  | cons c text ih =>
    rcases List.mem_append.mp among with here | there
    · exact (written_escapedChar isQuote c text.head?).inLine d here
    · exact ih there

omit isQuote

theorem quoteFor_isQuote (text : List Char) : quoteFor text = '"' ∨ quoteFor text = '\'' := by
  unfold quoteFor
  split
  · exact .inr rfl
  · exact .inl rfl

/-- A printed literal is read as its text, and its last quote ends it whatever follows. -/
theorem read_chars (text rest : List Char) :
    read (chars text ++ rest) = some (Utf16.encode text, rest) := by
  have isQuote := quoteFor_isQuote text
  have spelling : chars text ++ rest =
      quoteFor text :: (body (quoteFor text) text ++ quoteFor text :: rest) := by simp [chars]
  rw [spelling, read, if_pos isQuote, readBody_body isQuote]

example : read (chars ['\x00', '7', '\x00', '"'] ++ [';']) = some ([0, 55, 0, 34], [';']) := by cbv

theorem isLineTerminator_of_mem_chars {text : List Char} {d : Char} (among : d ∈ chars text) :
    isLineTerminator d = false := by
  have isQuote := quoteFor_isQuote text
  have quote : isLineTerminator (quoteFor text) = false := by
    rcases isQuote with same | same <;> rw [same] <;> rfl
  simp only [chars, List.mem_cons, List.mem_append, List.not_mem_nil, or_false] at among
  rcases among with (rfl | inBody) | rfl
  · exact quote
  · exact isLineTerminator_of_mem_body isQuote inBody
  · exact quote

end StringLiteral

end ApiTypes
