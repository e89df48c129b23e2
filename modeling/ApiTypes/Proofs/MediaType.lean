import ApiTypes.MediaType
import ApiTypes.Proofs.Unicode.Ascii

/-!
# The spellings of JSON

A media type is recognized as JSON in any case, with white space around it and with parameters
after it.

## Main definitions

* `MediaType.SpellsJson` — the ways to write `application/json`

## Main results

* `Unicode.trim_eq` — what is left of a text between its blanks
* `MediaType.essence_eq` — what is left of a media type without its blanks and parameters
* `MediaType.isJson_of_spellsJson` — every spelling of JSON is recognized
-/

namespace ApiTypes

namespace Unicode

theorem dropWhile_isWhiteSpace_append {text : List Char} (nonempty : text ≠ [])
    (visible : ∀ c ∈ text, ¬ isWhiteSpace c) (rest : List Char) :
    (text ++ rest).dropWhile isWhiteSpace = text ++ rest := by
  obtain ⟨first, text, rfl⟩ := List.exists_cons_of_ne_nil nonempty
  exact List.dropWhile_cons_of_neg (visible first (List.mem_cons_self ..))

/-- White space is cut off at both ends. -/
theorem trim_eq {before core after : List Char} (nonempty : core ≠ [])
    (blank : ∀ c ∈ before ++ after, isWhiteSpace c) (visible : ∀ c ∈ core, ¬ isWhiteSpace c) :
    trim (before ++ core ++ after) = core := by
  have blank_before : ∀ c ∈ before, isWhiteSpace c := fun c among =>
    blank c (List.mem_append_left _ among)
  have blank_after : ∀ c ∈ after.reverse, isWhiteSpace c := fun c among =>
    blank c (List.mem_append_right _ (List.mem_reverse.mp among))
  have front : (before ++ core ++ after).dropWhile isWhiteSpace = core ++ after := by
    rw [List.append_assoc, List.dropWhile_append_of_pos blank_before,
      dropWhile_isWhiteSpace_append nonempty visible]
  -- the other end is the same once the text is reversed
  have back : (core ++ after).reverse.dropWhile isWhiteSpace = core.reverse := by
    rw [List.reverse_append, List.dropWhile_append_of_pos blank_after]
    have reversed := dropWhile_isWhiteSpace_append (List.reverse_ne_nil_iff.mpr nonempty)
      (fun c among => visible c (List.mem_reverse.mp among)) []
    rwa [List.append_nil] at reversed
  rw [trim, front, back, List.reverse_reverse]

end Unicode

namespace MediaType

/-- The text is `application/json` with letters of either case, white space around it, and
parameters after it. -/
def SpellsJson (text : String) : Prop :=
  ∃ before essence after parameters : List Char,
    text.toList = before ++ essence ++ after ++ parameters ∧
      (∀ c ∈ before ++ after, Unicode.isWhiteSpace c) ∧
      essence.map Char.toLower = "application/json".toList ∧
      (parameters = [] ∨ parameters.head? = some ';')

/-- Parameters start at the first semicolon, and blanks around the type are not part of it. -/
theorem essence_eq {text : String} {before core after parameters : List Char}
    (split : text.toList = before ++ core ++ after ++ parameters) (nonempty : core ≠ [])
    (blank : ∀ c ∈ before ++ after, Unicode.isWhiteSpace c)
    (visible : ∀ c ∈ core, c ≠ ';' ∧ ¬ Unicode.isWhiteSpace c)
    (ends : parameters = [] ∨ parameters.head? = some ';') : essence text = core := by
  have noSemicolon : ∀ c ∈ before ++ core ++ after, (c != ';') = true := by
    intro c among
    rw [bne_iff_ne]
    rintro rfl
    by_cases inside : ';' ∈ core
    · exact (visible _ inside).1 rfl
    · have outside : ';' ∈ before ++ after := by
        simpa [inside] using among
      exact absurd (blank _ outside) (by decide)
  have cut : parameters.takeWhile (· != ';') = [] := by
    cases parameters with
    | nil => rfl
    | cons c rest =>
      obtain rfl : c = ';' := by simpa using ends
      rfl
  rw [essence, split, List.takeWhile_append_of_pos noSemicolon, cut, List.append_nil]
  exact Unicode.trim_eq nonempty blank fun c among => (visible c among).2

/-- A letter of the media type in either case, or its slash, is no separator, and the two ways to
ignore the case agree on it. -/
theorem plain_of_toLower_mem {c : Char} (spelled : c.toLower ∈ "application/json".toList) :
    (c ≠ ';' ∧ ¬ Unicode.isWhiteSpace c) ∧ foldAscii c = c.toLower := by
  by_cases upper : c.isUpper
  · have ascii := Unicode.ascii_of_isAlphanum (Unicode.isAlphanum_of_isUpper upper)
    refine Unicode.of_ascii (P := fun c => c.isUpper →
      (c ≠ ';' ∧ ¬ Unicode.isWhiteSpace c) ∧ foldAscii c = c.toLower) ?_ ascii upper
    decide
  · -- what is no capital letter is not changed, so it is in the media type itself
    have same : c.toLower = c := by
      unfold Char.isUpper at upper
      unfold Char.toLower
      exact dif_neg fun capital => upper (decide_eq_true capital)
    rw [same] at spelled
    have each : "application/json".toList.all fun c =>
        (c != ';' && !Unicode.isWhiteSpace c) && foldAscii c == c.toLower := by decide
    simpa using List.all_eq_true.mp each c spelled

theorem isJson_of_spellsJson {text : String} (spelled : SpellsJson text) : isJson text := by
  obtain ⟨before, core, after, parameters, split, blank, same, ends⟩ := spelled
  have plain : ∀ c ∈ core,
      (c ≠ ';' ∧ ¬ Unicode.isWhiteSpace c) ∧ foldAscii c = c.toLower :=
    fun c among => plain_of_toLower_mem (same ▸ List.mem_map_of_mem among)
  have nonempty : core ≠ [] := by
    rintro rfl
    simp at same
  have folded : core.map foldAscii = core.map Char.toLower :=
    List.map_congr_left fun c among => (plain c among).2
  rw [isJson, essence_eq split nonempty blank (fun c among => (plain c among).1) ends, folded,
    same]
  exact beq_self_eq_true _

end MediaType

end ApiTypes
