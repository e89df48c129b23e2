import ApiTypes.Proofs.TypeExpr.Spelling

/-!
# Counting open object types

The braces of a printed type open and close its object types, unless they stand between quotes. A
reader that goes through the text counts those that are open. Of all tokens only the braces
themselves change what it has counted: strings are left as they were entered, and nothing else is
spelled with a quote or a brace.

## Main definitions

* `BraceReader` — how many object types are open, and what the next character belongs to
* `Token.Ordinary` — a token that stands on one line and neither opens nor closes anything

## Main results

* `BraceReader.read_chars` — string literals leave the reader as it is
* `Token.Ordinary` of keywords, literals, keys and names
-/

namespace ApiTypes

/-- What a character belongs to: a string literal, an escape in it, or neither. -/
inductive Place where
  | code
  | quoted (quote : Char)
  | escaped (quote : Char)
deriving DecidableEq, Repr

/-- A reader between two characters of a printed type. -/
structure BraceReader where
  opened : Nat
  place : Place
deriving DecidableEq, Repr

namespace BraceReader

/-- The reader behind the next character. -/
def next : BraceReader → Char → BraceReader
  | ⟨opened, .code⟩, c =>
    if c = '"' ∨ c = '\'' then ⟨opened, .quoted c⟩
    else if c = '\x7b' then ⟨opened + 1, .code⟩
    else if c = '\x7d' then ⟨opened - 1, .code⟩
    else ⟨opened, .code⟩
  | ⟨opened, .quoted quote⟩, c =>
    if c = '\\' then ⟨opened, .escaped quote⟩
    else if c = quote then ⟨opened, .code⟩
    else ⟨opened, .quoted quote⟩
  | ⟨opened, .escaped quote⟩, _ => ⟨opened, .quoted quote⟩

/-- The reader behind a text. -/
def read (reader : BraceReader) (text : List Char) : BraceReader :=
  text.foldl next reader

theorem read_append (reader : BraceReader) (text other : List Char) :
    reader.read (text ++ other) = (reader.read text).read other :=
  List.foldl_append

theorem read_of_next {reader : BraceReader} {text : List Char}
    (each : ∀ c ∈ text, reader.next c = reader) : reader.read text = reader := by
  induction text with
  | nil => rfl
  | cons c text ih =>
    obtain ⟨here, there⟩ := List.forall_mem_cons.mp each
    rw [read, List.foldl_cons, here]
    exact ih there

/-! ### Strings -/

section Quoted

variable {opened : Nat} {quote : Char}

theorem next_quoted {c : Char} (notQuote : c ≠ quote) (notBackslash : c ≠ '\\') :
    next ⟨opened, .quoted quote⟩ c = ⟨opened, .quoted quote⟩ := by
  rw [next, if_neg notBackslash, if_neg notQuote]

/-- An escape takes the character behind the backslash, whichever it is. -/
theorem read_escape (c : Char) {marks : List Char}
    (inside : ∀ d ∈ marks, d ≠ quote ∧ d ≠ '\\') :
    read ⟨opened, .quoted quote⟩ ('\\' :: c :: marks) = ⟨opened, .quoted quote⟩ := by
  have behind : read ⟨opened, .quoted quote⟩ marks = ⟨opened, .quoted quote⟩ :=
    read_of_next fun d among => next_quoted (inside d among).1 (inside d among).2
  exact behind

variable (isQuote : quote = '"' ∨ quote = '\'')

include isQuote

theorem ne_quote_of_isAlphanum {marks : List Char} (plain : marks.all Char.isAlphanum) :
    ∀ d ∈ marks, d ≠ quote ∧ d ≠ '\\' := by
  intro d among
  have isPlain := List.all_eq_true.mp plain d among
  constructor
  · rintro rfl
    rcases isQuote with rfl | rfl <;> exact absurd isPlain (by decide)
  · rintro rfl
    exact absurd isPlain (by decide)

/-- However a character is written between quotes, the reader stays there. -/
theorem read_escapedChar (c : Char) (following : Option Char) :
    read ⟨opened, .quoted quote⟩ (StringLiteral.escapedChar quote c following) =
      ⟨opened, .quoted quote⟩ := by
  have step {p : Prop} [Decidable p] {text other : List Char}
      (here : p → read ⟨opened, .quoted quote⟩ text = ⟨opened, .quoted quote⟩)
      (there : ¬ p → read ⟨opened, .quoted quote⟩ other = ⟨opened, .quoted quote⟩) :
      read ⟨opened, .quoted quote⟩ (if p then text else other) = ⟨opened, .quoted quote⟩ := by
    split
    · next holds => exact here holds
    · next fails => exact there fails
  have escape (d : Char) {marks : List Char} (plain : marks.all Char.isAlphanum) :
      read ⟨opened, .quoted quote⟩ ('\\' :: d :: marks) = ⟨opened, .quoted quote⟩ :=
    read_escape d (ne_quote_of_isAlphanum isQuote plain)
  have single (notQuote : c ≠ quote) (notBackslash : c ≠ '\\') :
      read ⟨opened, .quoted quote⟩ [c] = ⟨opened, .quoted quote⟩ :=
    next_quoted notQuote notBackslash
  -- one step for each spelling of `escapedChar`, in its order
  unfold StringLiteral.escapedChar
  refine step (fun _ => escape _ rfl) fun notQuote => ?_
  refine step (fun _ => escape _ rfl) fun notBackslash => ?_
  -- the controls that have a letter, of which the tab is written as it is
  refine step (fun _ => escape _ rfl) fun _ => ?_
  refine step (fun _ => escape _ rfl) fun _ => ?_
  refine step (fun _ => escape _ rfl) fun _ => ?_
  refine step (fun _ => escape _ rfl) fun _ => ?_
  refine step (fun _ => escape _ rfl) fun _ => ?_
  refine step (fun tab => tab ▸ single notQuote notBackslash) fun _ => ?_
  refine step (fun _ => step (fun _ => escape _ rfl) fun _ => escape _ rfl) fun _ => ?_
  refine step (fun control => ?_) fun _ => ?_
  · -- the codes in hexadecimal digits are few enough to be checked one by one
    have digits := Unicode.of_ascii
      (P := fun c => c.toNat < 32 → StringLiteral.hexEscape c =
        '\\' :: 'x' :: (StringLiteral.hexEscape c).drop 2 ∧
          ((StringLiteral.hexEscape c).drop 2).all Char.isAlphanum)
      (by decide) (by omega) control
    rw [digits.1]
    exact escape 'x' digits.2
  -- the separators of lines and paragraphs, and the byte order mark
  refine step (fun _ => escape _ rfl) fun _ => ?_
  refine step (fun _ => escape _ rfl) fun _ => ?_
  exact step (fun _ => escape _ rfl) fun _ => single notQuote notBackslash

theorem read_body (text : List Char) :
    read ⟨opened, .quoted quote⟩ (StringLiteral.body quote text) = ⟨opened, .quoted quote⟩ := by
  induction text with
  | nil => rfl
  | cons c text ih => rw [StringLiteral.body, read_append, read_escapedChar isQuote, ih]

end Quoted

/-- A string literal is left as it was entered, whatever braces and quotes it has. -/
theorem read_chars (opened : Nat) (text : List Char) :
    read ⟨opened, .code⟩ (StringLiteral.chars text) = ⟨opened, .code⟩ := by
  -- the first quote enters the literal, the text stays inside, and the last quote leaves it
  have isQuote := StringLiteral.quoteFor_isQuote text
  have notBackslash : StringLiteral.quoteFor text ≠ '\\' := by
    rcases isQuote with same | same <;> rw [same] <;> decide
  have enters : next ⟨opened, .code⟩ (StringLiteral.quoteFor text) =
      ⟨opened, .quoted (StringLiteral.quoteFor text)⟩ := if_pos isQuote
  have leaves : next ⟨opened, .quoted (StringLiteral.quoteFor text)⟩
      (StringLiteral.quoteFor text) = ⟨opened, .code⟩ := by
    rw [next, if_neg notBackslash, if_pos rfl]
  rw [StringLiteral.chars, List.cons_append, read, List.foldl_cons, enters]
  change read _ (StringLiteral.body _ text ++ [StringLiteral.quoteFor text]) = _
  rw [read_append, read_body isQuote]
  exact leaves

/-- Outside of strings, only quotes and braces are counted. -/
theorem read_of_not_mem {opened : Nat} {text : List Char} (noQuote : '"' ∉ text ∧ '\'' ∉ text)
    (noBrace : '\x7b' ∉ text ∧ '\x7d' ∉ text) :
    read ⟨opened, .code⟩ text = ⟨opened, .code⟩ := by
  refine read_of_next fun c among => ?_
  have ne {d : Char} (absent : d ∉ text) : c ≠ d := fun same => absent (same ▸ among)
  rw [next, if_neg (not_or.mpr ⟨ne noQuote.1, ne noQuote.2⟩), if_neg (ne noBrace.1),
    if_neg (ne noBrace.2)]

end BraceReader

/-! ### Tokens -/

namespace Token

/-- The token stands on one line, and as many object types are open behind it as in front of it. -/
structure Ordinary (token : Token) : Prop where
  oneLine : '\n' ∉ token.chars
  read (opened : Nat) : BraceReader.read ⟨opened, .code⟩ token.chars = ⟨opened, .code⟩

/-- Line breaks, quotes and braces. -/
def special : List Char := ['\n', '"', '\'', '\x7b', '\x7d']

theorem eq_of_mem_special {c : Char} (isSpecial : c ∈ special) :
    c = '\n' ∨ c = '"' ∨ c = '\'' ∨ c = '\x7b' ∨ c = '\x7d' := by
  simpa [special] using isSpecial

namespace Ordinary

theorem of_not_mem {token : Token} (each : ∀ c ∈ special, c ∉ token.chars) : token.Ordinary := by
  simp only [special, List.forall_mem_cons] at each
  obtain ⟨oneLine, double, single, opening, closing, -⟩ := each
  exact ⟨oneLine, fun _ => BraceReader.read_of_not_mem ⟨double, single⟩ ⟨opening, closing⟩⟩

theorem of_all {token : Token} (each : special.all fun c => !token.chars.contains c) :
    token.Ordinary :=
  .of_not_mem (by simpa using each)

theorem keyword (word : Keyword) : (Token.keyword word).Ordinary :=
  .of_all (by cases word <;> decide)

/-- Marks are ordinary, but for the braces. -/
theorem mark {token : Token}
    (isMark : token ∈ [.bar, .ampersand, .openBracket, .closeBracket, .openParen, .closeParen,
      .openAngle, .closeAngle, .comma, .colon, .semicolon, .question]) : token.Ordinary := by
  refine .of_all ?_
  revert token
  decide

theorem string (text : String) : (Token.string text).Ordinary :=
  ⟨StringLiteral.newline_not_mem_chars text.toList, fun opened =>
    BraceReader.read_chars opened text.toList⟩

theorem number (value : Json.Number) : (Token.number value).Ordinary := by
  refine .of_not_mem fun c isSpecial among => ?_
  have absent : ¬ Numeric c := by
    unfold Numeric
    rcases eq_of_mem_special isSpecial with rfl | rfl | rfl | rfl | rfl <;> decide
  exact absent (value.numeric_text c among)

theorem name {text : String} (identifier : isIdentifier text) : (Token.name text).Ordinary := by
  refine .of_not_mem fun c isSpecial among => ?_
  have absent : c.toNat < 128 ∧ (c.isAlphanum || c == '_' || c == '$') = false := by
    rcases eq_of_mem_special isSpecial with rfl | rfl | rfl | rfl | rfl <;> decide
  exact not_mem_of_isIdentifier identifier absent.1 absent.2 (mem_of_mem_nameChars among)

theorem literal (value : Literal) : value.token.Ordinary := by
  cases value with
  | string text => exact string text
  | number value => exact number value
  | bool value => exact .of_all (by cases value <;> decide)

end Ordinary

end Token

theorem Key.ordinary_ofName (name : String) : (Key.ofName name).token.Ordinary := by
  unfold Key.ofName
  split
  · next identifier => exact .name identifier
  · exact .string name

theorem head?_nameChars (name : List Char) : (nameChars name).head? = name.head? := by
  fun_cases nameChars name <;> rfl

/-- What a key starts with is neither a space nor a brace. -/
theorem Key.exists_head?_ofName (name : String) :
    ∃ c ∈ (Key.ofName name).token.chars.head?, c ≠ ' ' ∧ c ≠ '\x7d' := by
  unfold Key.ofName
  split
  · next identifier =>
    cases characters : name.toList with
    | nil => simp [isIdentifier, characters] at identifier
    | cons first rest =>
      have isFirst : first ∈ name.toList := characters ▸ List.mem_cons_self
      refine ⟨first, ?_, ?_, ?_⟩
      · rw [Key.token, Token.chars, head?_nameChars, characters]
        rfl
      · rintro rfl
        exact not_mem_of_isIdentifier identifier (by decide) (by decide) isFirst
      · rintro rfl
        exact not_mem_of_isIdentifier identifier (by decide) (by decide) isFirst
  · have isQuote := StringLiteral.quoteFor_isQuote name.toList
    refine ⟨_, rfl, ?_⟩
    rcases isQuote with same | same <;> rw [same] <;> decide

end ApiTypes
