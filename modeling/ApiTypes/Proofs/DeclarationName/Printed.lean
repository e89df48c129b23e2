import ApiTypes.Proofs.DeclarationName
import ApiTypes.Proofs.Text.Percent
import ApiTypes.Proofs.TypeExpr.Spelling
import Mathlib.Data.List.Basic

/-!
# What is left of a path in a name

On its way into a name a path loses everything but letters and digits, wherever it was written:
between slashes, in an escape, between braces or next to a brace that nothing closes. The letters
and digits stay in their order and only change case, so that as long as they are of ASCII the name
is an identifier, and it is printed as it is.

## Main definitions

* `PathTemplate.Fragment.letters` — what a fragment adds to a name, in lower case

## Main results

* `Text.map_toLower_pascalCase` — Pascal case only changes case
* `PathTemplate.map_toLower_nameText` — the letters of a path in a name
* `declarationName_printed` — names of bodies within ASCII
-/

namespace ApiTypes

/-- The letters and digits of a text, in lower case. -/
def Text.letters (text : List Char) : List Char :=
  (text.filter Char.isAlphanum).map Char.toLower

/-- The letters and digits that a fragment adds to a name, in lower case. -/
def PathTemplate.Fragment.letters : Fragment → List Char
  | .literal text => Text.letters text.toList
  | .param name => ['b', 'y'] ++ Text.letters name.toList

/-! ### Case changes -/

namespace Unicode

variable {c : Char} (letterOrDigit : c.isAlphanum)

include letterOrDigit

theorem toLower_toUpper : c.toUpper.toLower = c.toLower :=
  of_ascii (P := fun c => c.toUpper.toLower = c.toLower) (by decide)
    (ascii_of_isAlphanum letterOrDigit)

theorem toLower_toLower : c.toLower.toLower = c.toLower :=
  of_ascii (P := fun c => c.toLower.toLower = c.toLower) (by decide)
    (ascii_of_isAlphanum letterOrDigit)

end Unicode

namespace Words

variable {word : List Char} (letters : ∀ c ∈ word, c.isAlphanum)

include letters

theorem lowerRest_of_isAlphanum : lowerRest word = word.map Char.toLower := by
  have lowered {c : Char} (letter : c.isAlphanum) : Unicode.toLowercase c = [c.toLower] :=
    Unicode.toLowercase_of_ascii (Unicode.ascii_of_isAlphanum letter)
  fun_induction lowerRest word with
  | case1 => rfl
  -- the sigma with two lower case forms is not of ASCII
  | case2 => exact absurd (letters 'Σ' (by simp)) (by decide)
  | case3 c => exact lowered (letters c (by simp))
  | case4 c rest _ ih =>
    rw [lowered (letters c (by simp)), ih fun d inRest => letters d (by simp [inRest])]
    rfl

theorem map_toLower_capitalize : (capitalize word).map Char.toLower = word.map Char.toLower := by
  cases word with
  | nil => rfl
  | cons c rest =>
    obtain ⟨first, others⟩ := List.forall_mem_cons.mp letters
    have upper : Unicode.toUppercase c = [c.toUpper] :=
      Unicode.toUppercase_of_ascii (Unicode.ascii_of_isAlphanum first)
    have again : (rest.map Char.toLower).map Char.toLower = rest.map Char.toLower := by
      rw [List.map_map]
      exact List.map_congr_left fun d inRest => Unicode.toLower_toLower (others d inRest)
    rw [capitalize, upper, lowerRest_of_isAlphanum others, List.singleton_append, List.map_cons,
      List.map_cons, Unicode.toLower_toUpper first, again]

end Words

/-- Within ASCII, Pascal case keeps the letters and digits of a text in order, up to their case. -/
theorem Text.map_toLower_pascalCase {text : String}
    (ascii : ∀ c ∈ text.toList, Unicode.isAlphanumeric c → c.toNat < 128) :
    (Text.pascalCase text).toList.map Char.toLower = Text.letters text.toList := by
  have kept : text.toList.filter Unicode.isAlphanumeric = text.toList.filter Char.isAlphanum := by
    refine List.filter_congr fun c inText => ?_
    -- beyond ASCII a character is a letter or a digit in neither sense
    by_cases isAscii : c.toNat < 128
    · exact Unicode.isAlphanumeric_of_ascii isAscii
    · have noLetter : Unicode.isAlphanumeric c = false :=
        Bool.eq_false_iff.mpr fun letter => isAscii (ascii c inText letter)
      have noAlphanum : c.isAlphanum = false :=
        Bool.eq_false_iff.mpr fun letter => isAscii (Unicode.ascii_of_isAlphanum letter)
      rw [noLetter, noAlphanum]
  have letters : ∀ word ∈ Words.split text.toList, ∀ c ∈ word, c.isAlphanum := by
    intro word inText c inWord
    have inWords : c ∈ (Words.split text.toList).flatten := List.mem_flatten_of_mem inText inWord
    rw [Words.flatten_split, kept] at inWords
    exact (List.mem_filter.mp inWords).2
  calc (Text.pascalCase text).toList.map Char.toLower
      = (Words.split text.toList).flatMap fun word => (Words.capitalize word).map Char.toLower := by
        rw [Text.pascalCase, String.toList_ofList, List.map_flatMap]
    _ = (Words.split text.toList).flatMap fun word => word.map Char.toLower :=
        List.flatMap_congr fun word inText => Words.map_toLower_capitalize (letters word inText)
    _ = (Words.split text.toList).flatten.map Char.toLower := by
        rw [List.map_flatten, List.flatMap_def]
    _ = Text.letters text.toList := by rw [Words.flatten_split, kept, Text.letters]

/-! ### Names -/

namespace PathTemplate

theorem Fragment.map_toLower_nameText {fragment : Fragment}
    (ascii : ∀ c ∈ fragment.text.toList, Unicode.isAlphanumeric c → c.toNat < 128) :
    fragment.nameText.toList.map Char.toLower = fragment.letters := by
  cases fragment with
  | literal text => exact Text.map_toLower_pascalCase ascii
  | param name =>
    have named : (Text.pascalCase name).toList.map Char.toLower = Text.letters name.toList :=
      Text.map_toLower_pascalCase ascii
    rw [nameText, String.toList_append, List.map_append, named]
    rfl

theorem map_toLower_nameText {template : String}
    (ascii : ∀ fragment ∈ (segments template).flatten, ∀ c ∈ fragment.text.toList,
      Unicode.isAlphanumeric c → c.toNat < 128) :
    (nameText template).toList.map Char.toLower =
      (segments template).flatten.flatMap Fragment.letters := by
  rw [nameText, String.toList_join, List.flatMap_map, List.map_flatMap]
  refine List.flatMap_congr fun fragment inPath => ?_
  exact fragment.map_toLower_nameText (ascii fragment inPath)

end PathTemplate

theorem Method.map_toLower_pascalCase (method : Method) :
    (Text.pascalCase method.text).toList.map Char.toLower = method.text.toList := by
  cases method <;> decide

namespace PlainName

variable {name : String} (plain : PlainName name)

include plain

theorem chars_name : (Token.name name).chars = name.toList := by
  refine nameChars_of_noNull fun null => ?_
  exact absurd (plain.letters _ null) (by decide)

theorem exportedAlias_eq (type : TypeExpr) :
    exportedAlias name type = "export type " ++ name ++ " = " ++ type.text ++ ";\n" := by
  have spelled : String.ofList (nameChars name.toList) = name :=
    (congrArg String.ofList plain.chars_name).trans String.ofList_toList
  unfold exportedAlias
  rw [spelled]

end PlainName

/-- Let the letters and digits of a path, and those of a status, be of ASCII. Then each name of a
body behind the path starts with an upper case letter and has nothing but letters and digits of
ASCII: those of the method, of the path and of the suffix, in order, up to their case. It is an
identifier, and is printed as it is: as a name, and where it is declared. -/
theorem declarationName_printed {template : String} {suffix : Suffix}
    (ascii : ∀ fragment ∈ (PathTemplate.segments template).flatten,
      ∀ c ∈ fragment.text.toList, Unicode.isAlphanumeric c → c.toNat < 128)
    (plain : suffix.IsPlain) (method : Method) :
    let name := declarationName template method suffix
    ((∃ first ∈ name.toList.head?, first.isUpper) ∧ ∀ c ∈ name.toList, c.isAlphanum) ∧
      name.toList.map Char.toLower =
        method.text.toList ++
          (PathTemplate.segments template).flatten.flatMap PathTemplate.Fragment.letters ++
          suffix.text.toList.map Char.toLower ∧
      isIdentifier name ∧ (Token.name name).chars = name.toList ∧
      ∀ type, exportedAlias name type = "export type " ++ name ++ " = " ++ type.text ++ ";\n" := by
  intro name
  have isPlain : PlainName name := plainName_declarationName ascii plain method
  refine ⟨⟨isPlain.starts, isPlain.letters⟩, ?_, isPlain.isIdentifier, isPlain.chars_name,
    isPlain.exportedAlias_eq⟩
  simp only [name, declarationName, String.toList_append, List.map_append,
    method.map_toLower_pascalCase, PathTemplate.map_toLower_nameText ascii]

/-- Words that a hyphen and a change of case part, an escape, a parameter, a brace that nothing
closes, and marks beyond ASCII. -/
theorem declarationName_printed_of_marks :
    let template := "/user-Groups%20a/\x7bpetID\x7d…/b\x7bc\x01"
    let suffix := Suffix.response "2XX"
    let name := declarationName template .get suffix
    ((∀ fragment ∈ (PathTemplate.segments template).flatten,
        ∀ c ∈ fragment.text.toList, Unicode.isAlphanumeric c → c.toNat < 128) ∧ suffix.IsPlain) ∧
      isIdentifier name ∧ (Token.name name).chars = name.toList ∧
      name.toList.map Char.toLower = "getusergroupsabypetidbc2xxresponse".toList := by
  intro template suffix name
  have spaced : Percent.decode "user-Groups%20a".toList = "user-Groups a".toList := by
    have last : Percent.EncodesBytes (Utf8.encode ['a']) (Utf8.encode ['a']) := .self (by decide)
    have space := @Percent.EncodesBytes.escaped 32 _ _ '2' '0' (.inl rfl) (.inl rfl) last
    have free : '%' ∉ "user-Groups".toList := by decide
    have whole : Percent.EncodesBytes (Utf8.encode "user-Groups a".toList)
        (Utf8.encode "user-Groups%20a".toList) :=
      space.append_of_ne (Percent.ne_of_mem_encode free)
    exact whole.decode_eq
  have marked : Percent.decode ['…'] = ['…'] := (Percent.EncodesBytes.self (by decide)).decode_eq
  have read : PathTemplate.segments template =
      [[.literal "user-Groups a"], [.param "petID", .literal "…"], [.literal "b\x7bc\x01"]] := by
    have pieces : (Text.splitWhere (· == '/') template.toList).filter (· ≠ []) =
        ["user-Groups%20a".toList, "\x7bpetID\x7d…".toList, "b\x7bc\x01".toList] := by decide
    have segments : ["user-Groups%20a".toList, "\x7bpetID\x7d…".toList, "b\x7bc\x01".toList].map
        PathTemplate.segment =
          [[.literal (String.ofList (Percent.decode "user-Groups%20a".toList))],
            [.param "petID", .literal (String.ofList (Percent.decode ['…']))],
            [.literal "b\x7bc\x01"]] := rfl
    rw [PathTemplate.segments, pieces, segments, spaced, marked]
    rfl
  have ascii : ∀ fragment ∈ (PathTemplate.segments template).flatten,
      ∀ c ∈ fragment.text.toList, Unicode.isAlphanumeric c → c.toNat < 128 := by
    have checked : (PathTemplate.segments template).flatten.all fun fragment =>
        fragment.text.toList.all fun c => !Unicode.isAlphanumeric c || c.toNat < 128 := by
      rewrite [read]
      decide +kernel
    intro fragment inside c among alphanumeric
    have here := List.all_eq_true.mp (List.all_eq_true.mp checked fragment inside) c among
    simpa [alphanumeric] using here
  have plain : suffix.IsPlain := List.all_eq_true.mp (by decide)
  obtain ⟨-, letters, identifier, printed, -⟩ := declarationName_printed ascii plain .get
  refine ⟨⟨ascii, plain⟩, identifier, printed, letters.trans ?_⟩
  rewrite [read]
  decide

end ApiTypes
