import ApiTypes.Proofs.TypeExpr.Spelling

/-!
# Property names survive printing

The key of a property is its name, or a string literal for it where the name is no identifier.
Either way a script that reads on from the key finds the name that was declared, so different
names never share a key.

## Main definitions

* `StringLiteral.Spells` — a text is one string literal for a value
* `Key.read` — the property name in front of a text, and the text after it

## Main results

* `StringLiteral.spells_chars` — printed literals
* `Key.read_ofName` — a printed key is read as the name, whatever ends it
* `Member.keys_denote_names` — the text of literals and keys, and that keys differ as names do
-/

namespace ApiTypes

/-- The text is one string literal for the value: a literal is read off it whatever follows, up to
the quote it ends with, and it stands on one line. -/
structure StringLiteral.Spells (literal value : List Char) : Prop where
  isRead : ∀ rest, read (literal ++ rest) = some (Utf16.encode value, rest)
  isQuoted : ∃ quote ∈ ['"', '\''], ∃ inside, literal = quote :: inside ++ [quote]
  inLine : ∀ c ∈ literal, isLineTerminator c = false

theorem StringLiteral.spells_chars (text : List Char) : Spells (chars text) text where
  isRead := read_chars text
  isQuoted := ⟨quoteFor text, by simpa using quoteFor_isQuote text, body (quoteFor text) text, rfl⟩
  inLine _ := isLineTerminator_of_mem_chars

theorem TypeExpr.toList_text_string (text : String) :
    (TypeExpr.literal (.string text)).text.toList = StringLiteral.chars text.toList := by
  simp [TypeExpr.text, layout, Literal.token, Piece.chars, Token.chars]

/-! ### Keys -/

namespace Key

/-- Whether an identifier goes on with the character. -/
def goesOn (c : Char) : Bool :=
  c == '$' || Unicode.continuesIdentifier c

theorem goesOn_colon : goesOn ':' = false := by
  rw [goesOn, Unicode.continuesIdentifier_of_ascii (by decide)]
  rfl

theorem goesOn_question : goesOn '?' = false := by
  rw [goesOn, Unicode.continuesIdentifier_of_ascii (by decide)]
  rfl

/-- The code units of the property name in front of a text, and what follows it. The name is a
string literal, or an identifier, which ends where it does not go on. -/
def read : List Char → Option (List UInt16 × List Char)
  | [] => none
  | c :: rest =>
    if c = '"' ∨ c = '\'' then StringLiteral.read (c :: rest)
    else
      let name := c :: rest.takeWhile goesOn
      if isIdentifier (String.ofList name) then
        some (Utf16.encode name, rest.dropWhile goesOn)
      else none

theorem chars_ofName_of_isIdentifier {name : String} (identifier : isIdentifier name) :
    (ofName name).token.chars = name.toList := by
  rw [ofName, if_pos identifier]
  exact nameChars_of_noNull (not_mem_of_isIdentifier identifier (by decide) (by decide))

theorem chars_ofName_of_not_isIdentifier {name : String} (quoted : ¬ isIdentifier name) :
    (ofName name).token.chars = StringLiteral.chars name.toList := by
  rw [ofName, if_neg quoted]
  rfl

/-- An identifier is read up to the first character that does not go on with it. -/
theorem read_of_isIdentifier {name : String} (identifier : isIdentifier name) {mark : Char}
    (ends : goesOn mark = false) (rest : List Char) :
    read (name.toList ++ mark :: rest) = some (Utf16.encode name.toList, mark :: rest) := by
  have noQuote : '"' ∉ name.toList ∧ '\'' ∉ name.toList :=
    ⟨not_mem_of_isIdentifier identifier (by decide) (by decide),
      not_mem_of_isIdentifier identifier (by decide) (by decide)⟩
  cases characters : name.toList with
  | nil => simp [isIdentifier, characters] at identifier
  | cons c others =>
    have unquoted : ¬ (c = '"' ∨ c = '\'') := by
      rw [characters] at noQuote
      rintro (rfl | rfl)
      · exact noQuote.1 (List.mem_cons_self ..)
      · exact noQuote.2 (List.mem_cons_self ..)
    have goOn : ∀ d ∈ others, goesOn d = true := by
      simp only [isIdentifier, characters, Bool.and_eq_true, List.all_eq_true] at identifier
      exact identifier.2
    have taken : (others ++ mark :: rest).takeWhile goesOn = others := by
      rw [List.takeWhile_append_of_pos goOn, List.takeWhile_cons_of_neg (by simp [ends]),
        List.append_nil]
    have dropped : (others ++ mark :: rest).dropWhile goesOn = mark :: rest := by
      rw [List.dropWhile_append_of_pos goOn, List.dropWhile_cons_of_neg (by simp [ends])]
    have isName : isIdentifier (String.ofList (c :: others)) := by
      rwa [← characters, String.ofList_toList]
    rw [List.cons_append, read, if_neg unquoted, taken, dropped, if_pos isName]

/-- A printed key is read as the name it was made for. -/
theorem read_ofName (name : String) {mark : Char} (ends : goesOn mark = false)
    (rest : List Char) :
    read ((ofName name).token.chars ++ mark :: rest) =
      some (Utf16.encode name.toList, mark :: rest) := by
  by_cases identifier : isIdentifier name
  · rw [chars_ofName_of_isIdentifier identifier]
    exact read_of_isIdentifier identifier ends rest
  · -- the key starts with a quote, so it is read as a literal
    have spells := StringLiteral.spells_chars name.toList
    rw [chars_ofName_of_not_isIdentifier identifier]
    obtain ⟨quote, isQuote, inside, literal⟩ := spells.isQuoted
    have isRead := spells.isRead (mark :: rest)
    rw [literal, List.cons_append, List.cons_append] at isRead ⊢
    rw [read, if_pos (by simpa using isQuote)]
    exact isRead

/-- Different names have different keys. -/
theorem chars_ofName_injective :
    Function.Injective fun name => (ofName name).token.chars := by
  intro name other same
  -- both keys are read up to the same colon
  dsimp only at same
  have reads := read_ofName name goesOn_colon []
  rw [same, read_ofName other goesOn_colon []] at reads
  have units : Utf16.encode other.toList = Utf16.encode name.toList :=
    congrArg Prod.fst (Option.some.inj reads)
  exact String.toList_injective (Utf16.encode_injective units).symm

end Key

namespace Member

variable {τ : Type}

/-- What stands between a key and its type. -/
def separator (optional : Bool) : List Char :=
  if optional then ['?', ':', ' '] else [':', ' ']

theorem chars_opening (member : Member τ) :
    member.opening.flatMap Piece.chars = member.key.token.chars ++ separator member.optional := by
  cases optional : member.optional <;>
    simp [opening, optional, separator, Piece.chars, Token.chars]

theorem read_opening_named (name : String) (optional : Bool) (type : τ) (rest : List Char) :
    Key.read ((named name optional type).opening.flatMap Piece.chars ++ rest) =
      some (Utf16.encode name.toList, separator optional ++ rest) := by
  rw [chars_opening, List.append_assoc]
  cases optional
  · exact Key.read_ofName name Key.goesOn_colon (' ' :: rest)
  · exact Key.read_ofName name Key.goesOn_question (':' :: ' ' :: rest)

/-- **Texts and property names survive printing.** The text of a string type is one string literal
for the string. The key of a property is the name itself if that is an identifier, and one string
literal for it if not; read from the opening of the property it denotes the name, so no two names
share a key. -/
theorem keys_denote_names :
    (∀ text : String,
      StringLiteral.Spells (TypeExpr.literal (.string text)).text.toList text.toList) ∧
    (∀ (name : String) (optional : Bool) (type : TypeExpr),
      (if isIdentifier name then (named name optional type).key.token.chars = name.toList
        else StringLiteral.Spells (named name optional type).key.token.chars name.toList) ∧
      ∀ rest, Key.read ((named name optional type).opening.flatMap Piece.chars ++ rest) =
        some (Utf16.encode name.toList, separator optional ++ rest)) ∧
    ∀ (name other : String) (optional optional' : Bool) (type type' : TypeExpr),
      (named name optional type).key.token.chars = (named other optional' type').key.token.chars ↔
        name = other := by
  refine ⟨fun text => ?text, fun name optional type => ⟨?key, ?opening⟩, ?different⟩
  case text =>
    rw [TypeExpr.toList_text_string]
    exact StringLiteral.spells_chars text.toList
  case key =>
    split
    · next identifier => exact Key.chars_ofName_of_isIdentifier identifier
    · next quoted =>
      have spelling := Key.chars_ofName_of_not_isIdentifier quoted
      rw [named, spelling]
      exact StringLiteral.spells_chars name.toList
  case opening => exact read_opening_named name optional type
  case different =>
    intro name other _ _ _ _
    exact Key.chars_ofName_injective.eq_iff

end Member

end ApiTypes
