/-!
# Cutting a text at its separators

## Main definitions

* `Text.splitWhere` — the pieces of a text between its separators

## Main results

* `splitWhere_ne_nil` — there is always a piece, if only an empty one
* `splitWhere_append` — a separator between two texts cuts between their pieces
* `flatten_splitWhere` — nothing but the separators is lost
-/

namespace ApiTypes.Text

/-- The pieces between the characters that `sep` holds of, the empty ones included. -/
def splitWhere (sep : Char → Bool) : List Char → List (List Char)
  | [] => [[]]
  | c :: rest =>
    if sep c then [] :: splitWhere sep rest
    else
      match splitWhere sep rest with
      | [] => [[c]]
      | piece :: pieces => (c :: piece) :: pieces

theorem splitWhere_ne_nil (sep : Char → Bool) (text : List Char) :
    splitWhere sep text ≠ [] := by
  cases text with
  | nil => simp [splitWhere]
  | cons c rest =>
    simp only [splitWhere]
    split
    · simp
    · split <;> simp

theorem splitWhere_append {sep : Char → Bool} {c : Char} (hc : sep c = true)
    (left right : List Char) :
    splitWhere sep (left ++ c :: right) = splitWhere sep left ++ splitWhere sep right := by
  induction left with
  | nil => simp [splitWhere, hc]
  | cons d left ih =>
    simp only [List.cons_append, splitWhere, ih]
    split
    · rfl
    · cases h : splitWhere sep left with
      | nil => exact absurd h (splitWhere_ne_nil sep left)
      | cons piece pieces => rfl

theorem flatten_splitWhere (sep : Char → Bool) (text : List Char) :
    (splitWhere sep text).flatten = text.filter (!sep ·) := by
  induction text with
  | nil => rfl
  | cons c rest ih =>
    rw [splitWhere, List.filter_cons, ← ih]
    cases sep c with
    | true => rfl
    | false =>
      cases pieces : splitWhere sep rest with
      | nil => exact absurd pieces (splitWhere_ne_nil sep rest)
      | cons piece others => rfl

end ApiTypes.Text
