import ApiTypes.Decoding
import ApiTypes.Json.Pointer
import ApiTypes.Proofs.Text.Split
import Mathlib.Data.Nat.Digits.Defs

/-!
# Pointers that are written are read back

A path through a value can be written as a pointer, whatever the keys on it are: the slashes in a
key are escaped, so that the pointer is cut between its steps and nowhere else, and so are its
tildes, so that no other escape is seen in it. The pointer leads to the end of the path.

## Main definitions

* `Json.descend?` — the value at the end of a path of keys and indexes
* `Json.Pointer.escape` — a key with its slashes and tildes escaped
* `Json.Pointer.ofPath` — the pointer of a path

## Main results

* `Json.Pointer.unescape_escape` — escapes are undone
* `Json.Pointer.index?_toString` — decimal numbers are read as themselves
* `Json.Pointer.parse?_ofPath` — the steps of the pointer are those of the path
* `Json.at?_of_descend?` — and these lead to the end of the path
-/

namespace ApiTypes.Json

open Decoding

/-- The value that the steps lead to, keys in objects and indexes in arrays. -/
def descend? : Path → Json → Option Json
  | [], value => some value
  | .key name :: path, object entries => (Entries.find? name entries).bind (descend? path)
  | .index n :: path, array items => items[n]?.bind (descend? path)
  | _ :: _, _ => none

namespace Pointer

/-- A character of a key as it is written in a pointer. -/
def escapeChar (c : Char) : List Char :=
  if c = '~' then ['~', '0'] else if c = '/' then ['~', '1'] else [c]

/-- A key as it is written in a pointer. -/
def escape (key : List Char) : List Char :=
  key.flatMap escapeChar

/-- The text that a step is looked up by. -/
def stepText : Step → String
  | .key name => name
  | .index n => toString n

/-- A step as it is written in a pointer. -/
def token : Step → List Char
  | .key name => escape name.toList
  | .index n => (toString n).toList

/-- The pointer of a path: each step follows a slash. -/
def ofPath (path : Path) : List Char :=
  path.flatMap fun step => '/' :: token step

/-! ### Keys -/

theorem unescape_cons_of_ne {c : Char} (other : c ≠ '~') (rest : List Char) :
    unescape (c :: rest) = c :: unescape rest := by
  conv_lhs => unfold unescape
  split <;> simp_all

theorem unescape_of_not_mem {text : List Char} (none : '~' ∉ text) : unescape text = text := by
  induction text with
  | nil => rfl
  | cons c rest ih =>
    rw [List.mem_cons, not_or] at none
    rw [unescape_cons_of_ne (Ne.symm none.1), ih none.2]

theorem unescape_escapeChar (c : Char) (rest : List Char) :
    unescape (escapeChar c ++ rest) = c :: unescape rest := by
  unfold escapeChar
  split_ifs with tilde slash
  · rw [tilde]
    rfl
  · rw [slash]
    rfl
  · exact unescape_cons_of_ne tilde rest

/-- The escapes of a key are undone. -/
theorem unescape_escape (key : List Char) : unescape (escape key) = key := by
  induction key with
  | nil => rfl
  | cons c rest ih =>
    rw [escape, List.flatMap_cons, unescape_escapeChar, ← escape, ih]

theorem slash_not_mem_escape (key : List Char) : '/' ∉ escape key := by
  rw [escape, List.mem_flatMap]
  rintro ⟨c, -, among⟩
  unfold escapeChar at among
  split_ifs at among with tilde slash
  · simp at among
  · simp at among
  · exact slash (List.mem_singleton.mp among).symm

/-! ### Indexes -/

/-- Only zero is written with a zero in front. -/
theorem eq_zero_of_toDigits_eq_cons {n : Nat} {rest : List Char}
    (digits : Nat.toDigits 10 n = '0' :: rest) : n = 0 := by
  induction n using Nat.strongRecOn generalizing rest with
  | ind n ih =>
    by_cases small : n < 10
    · rw [Nat.toDigits_of_lt_base small] at digits
      exact Nat.digitChar_eq_zero.mp (List.cons.inj digits).1
    · -- the digits in front of the last one are those of a tenth of the number
      have large : 10 ≤ n := Nat.not_lt.mp small
      rw [Nat.toDigits_of_base_le (by decide) large] at digits
      obtain ⟨first, others, tenth⟩ := List.exists_cons_of_ne_nil (@Nat.toDigits_ne_nil (n / 10) 10)
      rw [tenth, List.cons_append] at digits
      obtain ⟨rfl, -⟩ := List.cons.inj digits
      have zero := ih (n / 10) (by omega) tenth
      omega

theorem toList_toString (n : Nat) : (toString n).toList = Nat.toDigits 10 n :=
  Nat.toList_repr

theorem isDigit_of_mem_toDigits {n : Nat} {c : Char} (among : c ∈ Nat.toDigits 10 n) : c.isDigit :=
  Nat.isDigit_of_mem_toDigits (by decide) (by decide) among

/-- A number is read back from its decimal digits. -/
theorem index?_toString (n : Nat) : index? (toString n) = some n := by
  unfold index?
  rw [toList_toString]
  split
  · next none => exact absurd none Nat.toDigits_ne_nil
  · next second rest leading =>
    -- the only number with a zero in front has no other digit
    obtain rfl := eq_zero_of_toDigits_eq_cons leading
    cases leading
  · rw [if_pos (List.all_eq_true.mpr fun c => isDigit_of_mem_toDigits)]
    exact congrArg some (Nat.ofDigitChars_toDigits (by decide) (by decide))

/-! ### Paths -/

theorem slash_not_mem_token (step : Step) : '/' ∉ token step := by
  cases step with
  | key name => exact slash_not_mem_escape name.toList
  | index n =>
    rw [token, toList_toString]
    exact fun among => absurd (isDigit_of_mem_toDigits among) (by decide)

theorem unescape_token (step : Step) : String.ofList (unescape (token step)) = stepText step := by
  cases step with
  | key name => rw [token, unescape_escape, stepText, String.ofList_toList]
  | index n =>
    have noTilde : '~' ∉ (toString n).toList := by
      rw [toList_toString]
      exact fun among => absurd (isDigit_of_mem_toDigits among) (by decide)
    rw [token, unescape_of_not_mem noTilde, stepText, String.ofList_toList]

/-- The steps of a path are read back from its pointer. -/
theorem parse?_ofPath (path : Path) : parse? (ofPath path) = some (path.map stepText) := by
  cases path with
  | nil => rfl
  | cons step path =>
    have free : ∀ piece ∈ token step :: path.map token, '/' ∉ piece := by
      rw [← List.map_cons, List.forall_mem_map]
      exact fun step _ => slash_not_mem_token step
    have pieces : ofPath (step :: path) =
        '/' :: (token step ++ (path.map token).flatMap ('/' :: ·)) := by
      rw [ofPath, List.flatMap_cons, List.flatMap_map, List.cons_append]
    rw [pieces, parse?, if_pos rfl, Text.splitWhere_flatMap free, ← List.map_cons, List.map_map]
    exact congrArg some (List.map_congr_left fun step _ => unescape_token step)

end Pointer

/-- Looking up the texts of the steps leads to where the steps lead. -/
theorem at?_of_descend? {path : Path} {value node : Json}
    (reached : descend? path value = some node) :
    at? (path.map Pointer.stepText) value = some node := by
  induction path generalizing value with
  | nil => exact reached
  | cons step path ih =>
    rw [List.map_cons, at?]
    cases step with
    | key name =>
      cases value with
      | object entries =>
        obtain ⟨child, found, reached⟩ := Option.bind_eq_some_iff.mp reached
        exact Option.bind_eq_some_iff.mpr ⟨child, found, ih reached⟩
      | null | bool _ | number _ | string _ | array _ => cases reached
    | index n =>
      cases value with
      | array items =>
        obtain ⟨child, found, reached⟩ := Option.bind_eq_some_iff.mp reached
        refine Option.bind_eq_some_iff.mpr ⟨child, ?_, ih reached⟩
        rw [step?, Pointer.stepText, Pointer.index?_toString, Option.bind_some, found]
      | null | bool _ | number _ | string _ | object _ => cases reached

end ApiTypes.Json
