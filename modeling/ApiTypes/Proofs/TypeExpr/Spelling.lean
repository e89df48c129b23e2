import ApiTypes.Proofs.TypeExpr.StringLiteral
import ApiTypes.Proofs.Unicode.Ascii
import ApiTypes.TypeExpr.Printer

/-!
# Tokens stand on one line

Numbers are spelled with digits and a few marks, strings with their line breaks escaped, and words
as they are. So a line break in a printed type is never part of a token, if its names have none.

## Main results

* `Json.Number.numeric_text`, `StringLiteral.newline_not_mem_chars` — numbers and strings
* `nameChars_of_noNull` — a name without null characters is spelled as it is
* `not_mem_of_isIdentifier` — what identifiers do not have
-/

namespace ApiTypes

/-! ### Numbers -/

/-- A character that a number is spelled with. -/
def Numeric (c : Char) : Prop :=
  c.isDigit ∨ c ∈ ['-', '+', '.', 'e']

theorem numeric_of_mem_toDigits {n : Nat} {c : Char} (among : c ∈ Nat.toDigits 10 n) :
    Numeric c :=
  .inl (Nat.isDigit_of_mem_toDigits (by decide) (by decide) among)

namespace Binary64

theorem numeric_positional {digits : List Char} (each : ∀ c ∈ digits, Numeric c) (whole : Int) :
    ∀ c ∈ positional digits whole, Numeric c := by
  have zeros (n : Nat) : ∀ c ∈ List.replicate n '0', Numeric c := by
    intro c among
    rw [List.eq_of_mem_replicate among]
    exact .inl (by decide)
  have point : Numeric '.' := .inr (by decide)
  have zero : Numeric '0' := .inl (by decide)
  unfold positional
  intro c among
  split at among
  · simp only [List.mem_append, List.mem_cons, List.not_mem_nil, or_false] at among
    rcases among with ((rfl | rfl) | inZeros) | inDigits
    · exact zero
    · exact point
    · exact zeros _ c inZeros
    · exact each c inDigits
  · dsimp only at among
    split at among
    · simp only [List.mem_append, List.mem_cons, List.not_mem_nil, or_false] at among
      rcases among with (inDigits | inZeros) | rfl | rfl
      · exact each c inDigits
      · exact zeros _ c inZeros
      · exact point
      · exact zero
    · rcases List.mem_append.mp among with inWhole | inFraction
      · exact each c (List.mem_of_mem_take inWhole)
      · rcases List.mem_cons.mp inFraction with rfl | inFraction
        · exact point
        · exact each c (List.mem_of_mem_drop inFraction)

theorem numeric_scientific {digits : List Char} (each : ∀ c ∈ digits, Numeric c) (whole : Int) :
    ∀ c ∈ scientific digits whole, Numeric c := by
  unfold scientific
  intro c among
  rcases List.mem_append.mp among with inMantissa | inPower
  · split at inMantissa
    · simp only [List.mem_cons] at inMantissa each
      rcases inMantissa with rfl | rfl | rfl | inRest
      · exact each c (.inl rfl)
      · exact .inr (by decide)
      · exact each c (.inr (.inl rfl))
      · exact each c (.inr (.inr inRest))
    · exact each c inMantissa
  · simp only [List.mem_cons] at inPower
    rcases inPower with rfl | rfl | inPower
    · exact .inr (by decide)
    · split
      · exact .inr (by decide)
      · exact .inr (by decide)
    · exact numeric_of_mem_toDigits inPower

theorem numeric_text (x : Binary64) : ∀ c ∈ x.text.toList, Numeric c := by
  have magnitude : ∀ c ∈ x.magnitudeText, Numeric c := by
    unfold magnitudeText
    split
    · intro c among
      simp only [List.mem_cons, List.not_mem_nil, or_false] at among
      rcases among with rfl | rfl | rfl
      · exact .inl (by decide)
      · exact .inr (by decide)
      · exact .inl (by decide)
    · dsimp only
      split
      · exact numeric_positional (fun c => numeric_of_mem_toDigits) _
      · exact numeric_scientific (fun c => numeric_of_mem_toDigits) _
  intro c among
  rw [text, String.toList_ofList] at among
  rcases List.mem_append.mp among with inSign | inMagnitude
  · split at inSign
    · obtain rfl := List.mem_singleton.mp inSign
      exact .inr (by decide)
    · cases inSign
  · exact magnitude c inMagnitude

end Binary64

theorem Json.Number.numeric_text (value : Json.Number) : ∀ c ∈ value.text.toList, Numeric c := by
  cases value with
  | binary x => exact x.numeric_text
  | integer n =>
    intro c among
    rw [Json.Number.text, Int.toString_eq_repr, Int.repr_eq_if] at among
    split at among
    · rw [Nat.toList_repr] at among
      exact numeric_of_mem_toDigits among
    · rw [String.toList_append] at among
      rcases List.mem_append.mp among with inSign | inDigits
      · obtain rfl : c = '-' := by simpa using inSign
        exact .inr (by decide)
      · rw [Nat.toList_repr] at inDigits
        exact numeric_of_mem_toDigits inDigits

/-! ### Strings -/

theorem StringLiteral.newline_not_mem_chars (text : List Char) : '\n' ∉ chars text := by
  intro among
  exact absurd (isLineTerminator_of_mem_chars among) (by decide)

/-! ### Names -/

/-- A null is the only character that is ever left out. -/
theorem mem_of_mem_nameChars {name : List Char} {c : Char} (among : c ∈ nameChars name) :
    c ∈ name := by
  fun_induction nameChars name with
  | case1 rest ih =>
    rcases List.mem_cons.mp among with rfl | inRest
    · exact List.mem_cons_self ..
    · exact List.mem_cons_of_mem _ (List.mem_cons_of_mem _ (ih inRest))
  | case2 d rest _ ih =>
    rcases List.mem_cons.mp among with rfl | inRest
    · exact List.mem_cons_self ..
    · exact List.mem_cons_of_mem _ (ih inRest)
  | case3 => cases among

theorem nameChars_of_noNull {name : List Char} (noNull : '\x00' ∉ name) :
    nameChars name = name := by
  fun_induction nameChars name with
  | case1 rest ih => simp at noNull
  | case2 c rest _ ih => rw [ih fun inRest => noNull (List.mem_cons_of_mem _ inRest)]
  | case3 => rfl

/-- Of the characters of ASCII, an identifier has only letters, digits, dollar signs and low
lines. -/
theorem not_mem_of_isIdentifier {name : String} (identifier : isIdentifier name) {c : Char}
    (ascii : c.toNat < 128) (mark : (c.isAlphanum || c == '_' || c == '$') = false) :
    c ∉ name.toList := by
  simp only [Char.isAlphanum, Bool.or_eq_false_iff] at mark
  obtain ⟨⟨⟨letter, digit⟩, line⟩, dollar⟩ := mark
  unfold isIdentifier at identifier
  intro among
  split at identifier
  · simp at identifier
  · next first rest characters =>
    rw [characters] at among
    simp only [Bool.and_eq_true, List.all_eq_true] at identifier
    rcases List.mem_cons.mp among with rfl | inRest
    · simp [Unicode.startsIdentifier_of_ascii ascii, letter, line, dollar] at identifier
    · have goesOn := identifier.2 c inRest
      simp [Unicode.continuesIdentifier_of_ascii ascii, Char.isAlphanum, letter, digit, line,
        dollar] at goesOn

end ApiTypes
