import ApiTypes.DeclarationName
import ApiTypes.Proofs.Text.Words
import ApiTypes.TypeExpr

/-!
# Names of bodies are identifiers

Every part of a path goes through Pascal case on its way into a name, and the name starts with
the method. So whatever marks a path is made of, only the letters and digits in it could keep the
name from being an identifier, and those of ASCII do not.

## Main definitions

* `PathTemplate.Fragment.text` — the text of a fragment, after decoding
* `Suffix.IsPlain` — a place whose status, if any, is made of ASCII letters and digits
* `PlainName` — an upper case letter with letters and digits after it, all of ASCII

## Main results

* `plainName_declarationName` — the names of bodies are plain
* `isIdentifier_iff_of_ascii` — which names of ASCII characters are identifiers
* `PlainName.isIdentifier` — plain names are
-/

namespace ApiTypes

/-- The text of a fragment: what a literal stands for, or the name of a parameter. -/
def PathTemplate.Fragment.text : Fragment → String
  | .literal text => text
  | .param name => name

/-- A status that goes into a name is made of letters and digits of ASCII. -/
def Suffix.IsPlain : Suffix → Prop
  | .response status => ∀ c ∈ status.toList, c.isAlphanum
  | .requestBody => True

/-- An upper case letter and then letters and digits, all of ASCII. -/
structure PlainName (name : String) : Prop where
  starts : ∃ c ∈ name.toList.head?, c.isUpper
  letters : ∀ c ∈ name.toList, c.isAlphanum

/-! ### The parts of a name -/

theorem isAlphanum_append {left right : String} (inLeft : ∀ c ∈ left.toList, c.isAlphanum)
    (inRight : ∀ c ∈ right.toList, c.isAlphanum) : ∀ c ∈ (left ++ right).toList, c.isAlphanum := by
  intro c among
  rw [String.toList_append] at among
  exact (List.mem_append.mp among).elim (inLeft c) (inRight c)

theorem PlainName.append {name rest : String} (plain : PlainName name)
    (letters : ∀ c ∈ rest.toList, c.isAlphanum) : PlainName (name ++ rest) := by
  obtain ⟨first, isFirst, upper⟩ := plain.starts
  have stays : (name ++ rest).toList.head? = some first := by
    rw [String.toList_append, List.head?_append, isFirst, Option.some_or]
  exact ⟨⟨first, stays, upper⟩, isAlphanum_append plain.letters letters⟩

theorem Method.plainName_pascalCase (method : Method) :
    PlainName (Text.pascalCase method.text) := by
  cases method <;> exact ⟨⟨_, rfl, by decide⟩, List.all_eq_true.mp (by decide)⟩

theorem Suffix.isAlphanum_text {suffix : Suffix} (plain : suffix.IsPlain) :
    ∀ c ∈ suffix.text.toList, c.isAlphanum := by
  cases suffix with
  | requestBody => exact List.all_eq_true.mp (by decide)
  | response status =>
    refine isAlphanum_append ?_ (List.all_eq_true.mp (by decide))
    unfold statusText
    split
    · simp
    · split
      · simp
      · exact plain

theorem PathTemplate.Fragment.isAlphanum_nameText {fragment : Fragment}
    (ascii : ∀ c ∈ fragment.text.toList, Unicode.isAlphanumeric c → c.toNat < 128) :
    ∀ c ∈ fragment.nameText.toList, c.isAlphanum := by
  cases fragment with
  | literal text => exact Text.isAlphanum_pascalCase ascii
  | param name => exact isAlphanum_append (by simp) (Text.isAlphanum_pascalCase ascii)

theorem PathTemplate.isAlphanum_nameText {template : String}
    (ascii : ∀ fragment ∈ (segments template).flatten, ∀ c ∈ fragment.text.toList,
      Unicode.isAlphanumeric c → c.toNat < 128) :
    ∀ c ∈ (nameText template).toList, c.isAlphanum := by
  intro c among
  simp only [nameText, String.toList_join, List.flatMap_map, List.mem_flatMap] at among
  obtain ⟨fragment, inTemplate, inFragment⟩ := among
  exact Fragment.isAlphanum_nameText (ascii fragment inTemplate) c inFragment

/-- If all letters and digits of a path are of ASCII, so are the names of the bodies behind it, and
they consist of nothing else. -/
theorem plainName_declarationName {template : String} {suffix : Suffix}
    (ascii : ∀ fragment ∈ (PathTemplate.segments template).flatten,
      ∀ c ∈ fragment.text.toList, Unicode.isAlphanumeric c → c.toNat < 128)
    (plain : suffix.IsPlain) (method : Method) :
    PlainName (declarationName template method suffix) := by
  have path := method.plainName_pascalCase.append (PathTemplate.isAlphanum_nameText ascii)
  exact path.append (Suffix.isAlphanum_text plain)

/-! ### Identifiers -/

/-- Within ASCII, an identifier consists of letters, digits, dollar signs and low lines, and does
not start with a digit. -/
theorem isIdentifier_iff_of_ascii {name : String} (nonempty : name ≠ "")
    (ascii : ∀ c ∈ name.toList, c.toNat < 128) :
    isIdentifier name ↔
      (∀ c ∈ name.toList.head?, ¬ c.isDigit) ∧
        ∀ c ∈ name.toList, c.isAlphanum ∨ c = '_' ∨ c = '$' := by
  unfold isIdentifier
  cases chars : name.toList with
  | nil => exact absurd (String.toList_eq_nil_iff.mp chars) nonempty
  | cons first rest =>
    rw [chars] at ascii
    have continues : ∀ c ∈ rest, (c == '$' || Unicode.continuesIdentifier c) = true ↔
        (c.isAlphanum ∨ c = '_' ∨ c = '$') := by
      intro c among
      rw [Unicode.continuesIdentifier_of_ascii (ascii c (List.mem_cons_of_mem _ among))]
      simp only [Bool.or_eq_true, beq_iff_eq]
      rw [or_comm, or_assoc]
    have starts : (first == '$' || first == '_' || Unicode.startsIdentifier first) = true ↔
        (¬ first.isDigit ∧ (first.isAlphanum ∨ first = '_' ∨ first = '$')) := by
      have isAscii := ascii first (List.mem_cons_self ..)
      rw [Unicode.startsIdentifier_of_ascii isAscii]
      -- letters start an identifier, and digits only go on with one
      refine Unicode.of_ascii (P := fun c => (c == '$' || c == '_' || c.isAlpha) = true ↔
        (¬ c.isDigit ∧ (c.isAlphanum ∨ c = '_' ∨ c = '$'))) ?_ isAscii
      decide
    simp only [Bool.and_eq_true, starts, List.all_eq_true, List.head?_cons, Option.mem_some_iff,
      forall_eq', List.forall_mem_cons, and_assoc]
    exact and_congr_right fun _ => and_congr_right fun _ => forall₂_congr continues

theorem PlainName.isIdentifier {name : String} (plain : PlainName name) : isIdentifier name := by
  obtain ⟨first, isFirst, upper⟩ := plain.starts
  have ascii : ∀ c ∈ name.toList, c.toNat < 128 := fun c among =>
    Unicode.ascii_of_isAlphanum (plain.letters c among)
  have nonempty : name ≠ "" := by
    rintro rfl
    cases isFirst
  refine (isIdentifier_iff_of_ascii nonempty ascii).mpr ⟨?_, fun c among => ?_⟩
  · intro c isFirst'
    obtain rfl : first = c := Option.mem_unique isFirst isFirst'
    refine Unicode.of_ascii (P := fun c => c.isUpper → ¬ c.isDigit) (by decide) ?_ upper
    exact ascii first (List.mem_of_mem_head? isFirst)
  · exact .inl (plain.letters c among)

end ApiTypes
