import ApiTypes.Proofs.Unicode.Ascii
import ApiTypes.Text.Words

/-!
# What is left of a text in its words

The words of a text are its letters and digits, cut into pieces. In Pascal case only their case
changes, so a text that has letters and digits of ASCII alone becomes one of ASCII letters and
digits, whatever else there was between them.

## Main results

* `Words.flatten_split` — the letters and digits of a text are those of its words
* `Text.isAlphanum_pascalCase` — Pascal case within ASCII
-/

namespace ApiTypes

namespace Words

/-- A piece is cut without loss. -/
theorem flatten_splitPiece (mode : Mode) (word : List Char) {piece : List Char}
    (nonempty : piece ≠ []) : (splitPiece mode word piece).flatten = word.reverse ++ piece := by
  -- a cut ends the word under way, and what is left starts the next one
  fun_induction splitPiece mode word piece with
  | case1 => exact absurd rfl nonempty
  | case2 mode word c => simp
  | case3 mode word c d rest cut ih => simp [ih]
  | case4 mode word c d rest stays cut ih => simp [ih]
  | case5 mode word c d rest stays stays' ih => simp [ih]

theorem flatten_split (text : List Char) :
    (split text).flatten = text.filter Unicode.isAlphanumeric := by
  have piecewise (piece : List Char) : (splitPiece .unset [] piece).flatten = piece := by
    by_cases nonempty : piece = []
    · rw [nonempty]
      rfl
    · rw [flatten_splitPiece .unset [] nonempty]
      rfl
  have letters := Text.flatten_splitWhere (fun c => !Unicode.isAlphanumeric c) text
  simp only [Bool.not_not] at letters
  rw [split, List.flatMap_def, List.flatten_flatten, List.map_map, ← letters]
  simp [Function.comp_def, piecewise]

theorem isAlphanum_lowerRest {word : List Char} (letters : ∀ c ∈ word, c.isAlphanum) :
    ∀ c ∈ lowerRest word, c.isAlphanum := by
  have lowered {c : Char} (letter : c.isAlphanum) :
      ∀ d ∈ Unicode.toLowercase c, d.isAlphanum := by
    rw [Unicode.toLowercase_of_ascii (Unicode.ascii_of_isAlphanum letter)]
    simpa using Unicode.isAlphanum_toLower letter
  fun_induction lowerRest word with
  | case1 => simp
  -- the sigma with two lower case forms is not of ASCII
  | case2 => exact absurd (letters 'Σ' (by simp)) (by decide)
  | case3 c => exact lowered (letters c (by simp))
  | case4 c rest _ ih =>
    intro d among
    rcases List.mem_append.mp among with first | inRest
    · exact lowered (letters c (by simp)) d first
    · exact ih (fun e inside => letters e (by simp [inside])) d inRest

/-- Letters and digits of ASCII stay such in either case. -/
theorem isAlphanum_capitalize {word : List Char} (letters : ∀ c ∈ word, c.isAlphanum) :
    ∀ c ∈ capitalize word, c.isAlphanum := by
  cases word with
  | nil => simp [capitalize]
  | cons c rest =>
    have letter : c.isAlphanum := letters c (by simp)
    intro d among
    rw [capitalize, Unicode.toUppercase_of_ascii (Unicode.ascii_of_isAlphanum letter)] at among
    rcases List.mem_append.mp among with first | inRest
    · obtain rfl := List.mem_singleton.mp first
      exact Unicode.isAlphanum_toUpper letter
    · exact isAlphanum_lowerRest (fun e inside => letters e (by simp [inside])) d inRest

end Words

/-- If all letters and digits of a text are of ASCII, its Pascal case has nothing else. -/
theorem Text.isAlphanum_pascalCase {text : String}
    (ascii : ∀ c ∈ text.toList, Unicode.isAlphanumeric c → c.toNat < 128) :
    ∀ c ∈ (Text.pascalCase text).toList, c.isAlphanum := by
  intro c among
  simp only [Text.pascalCase, String.toList_ofList, List.mem_flatMap] at among
  obtain ⟨word, inText, among⟩ := among
  refine Words.isAlphanum_capitalize (fun d inWord => ?_) c among
  have kept : d ∈ text.toList.filter Unicode.isAlphanumeric := by
    rw [← Words.flatten_split]
    exact List.mem_flatten_of_mem inText inWord
  obtain ⟨inText, letterOrDigit⟩ := List.mem_filter.mp kept
  rwa [← Unicode.isAlphanumeric_of_ascii (ascii d inText letterOrDigit)]

end ApiTypes
