import ApiTypes.Text.Split
import Mathlib.Data.List.Basic

/-!
# Cutting a text and joining it again

## Main results

* `Text.splitWhere_eq_splitOnP` — the pieces of a text are those that `List.splitOnP` gives
* `Text.not_mem_of_mem_splitOn` — no piece contains the separator
* `Text.length_splitOn` — there is one piece more than there are separators
* `Text.exists_of_splitOn_eq_append` — a text can be cut where its pieces are
* `Text.splitWhere_flatMap` — pieces with a separator in front of each are cut apart again
-/

namespace ApiTypes.Text

theorem splitWhere_eq_splitOnP (sep : Char → Bool) (text : List Char) :
    splitWhere sep text = text.splitOnP sep := by
  induction text with
  | nil => rfl
  | cons c rest ih =>
    rw [splitWhere, List.splitOnP_cons_eq_if_modifyHead, ← ih]
    split_ifs
    · rfl
    · cases pieces : splitWhere sep rest with
      | nil => exact absurd pieces (splitWhere_ne_nil sep rest)
      | cons piece others => rfl

theorem splitWhere_eq_splitOn (c : Char) (text : List Char) :
    splitWhere (· == c) text = text.splitOn c := by
  rw [splitWhere_eq_splitOnP, List.splitOn_eq_splitOnP]

theorem not_mem_of_mem_splitOn {c : Char} {text piece : List Char}
    (among : piece ∈ text.splitOn c) : c ∉ piece := by
  rw [← splitWhere_eq_splitOn] at among
  induction text generalizing piece with
  | nil =>
    obtain rfl := List.mem_singleton.mp among
    exact List.not_mem_nil
  | cons d rest ih =>
    rw [splitWhere] at among
    split at among
    · rcases List.mem_cons.mp among with rfl | later
      · exact List.not_mem_nil
      · exact ih later
    · next other =>
      split at among
      · next none => exact absurd none (splitWhere_ne_nil _ _)
      · next first others pieces =>
        rcases List.mem_cons.mp among with rfl | later
        · rw [List.mem_cons, not_or]
          refine ⟨?_, ih (by rw [pieces]; exact List.mem_cons_self)⟩
          rintro rfl
          simp at other
        · exact ih (by rw [pieces]; exact List.mem_cons_of_mem _ later)

theorem length_splitOn (c : Char) (text : List Char) :
    (text.splitOn c).length = text.count c + 1 := by
  induction text with
  | nil => rfl
  | cons d rest ih =>
    rw [← splitWhere_eq_splitOn, splitWhere, List.count_cons]
    rw [← splitWhere_eq_splitOn] at ih
    split
    · rw [List.length_cons, ih]
    · split
      · next none => exact absurd none (splitWhere_ne_nil _ _)
      · next pieces =>
        rw [pieces] at ih
        simpa using ih

theorem intercalate_append {c : Char} {first others : List (List Char)} (left : first ≠ [])
    (right : others ≠ []) : [c].intercalate (first ++ others) =
      [c].intercalate first ++ c :: [c].intercalate others := by
  induction first with
  | nil => exact absurd rfl left
  | cons piece first ih =>
    by_cases more : first = []
    · rw [more, List.singleton_append, List.intercalate_cons_of_ne_nil right,
        List.intercalate_singleton, List.append_assoc, List.singleton_append]
    · have more' : first ++ others ≠ [] := List.append_ne_nil_of_left_ne_nil more others
      rw [List.cons_append, List.intercalate_cons_of_ne_nil more',
        List.intercalate_cons_of_ne_nil more, ih more]
      simp only [List.append_assoc]

/-- Where the pieces of a text are parted there is a separator. -/
theorem exists_of_splitOn_eq_append {c : Char} {text : List Char} {first others : List (List Char)}
    (pieces : text.splitOn c = first ++ others) (left : first ≠ []) (right : others ≠ []) :
    ∃ start rest, text = start ++ c :: rest ∧ start.splitOn c = first ∧
      rest.splitOn c = others := by
  have free : ∀ piece ∈ first ++ others, c ∉ piece := by
    rw [← pieces]
    exact fun piece => not_mem_of_mem_splitOn
  rw [List.forall_mem_append] at free
  refine ⟨[c].intercalate first, [c].intercalate others, ?_, ?_, ?_⟩
  · calc text = [c].intercalate (text.splitOn c) := (List.intercalate_splitOn c).symm
      _ = _ := by rw [pieces, intercalate_append left right]
  · exact List.splitOn_intercalate c free.1 left
  · exact List.splitOn_intercalate c free.2 right

theorem splitOn_eq_singleton_iff {c : Char} {text piece : List Char} :
    text.splitOn c = [piece] ↔ text = piece ∧ c ∉ piece := by
  constructor
  · intro pieces
    refine ⟨?_, not_mem_of_mem_splitOn (pieces ▸ List.mem_singleton_self piece)⟩
    calc text = [c].intercalate (text.splitOn c) := (List.intercalate_splitOn c).symm
      _ = piece := by rw [pieces, List.intercalate_singleton]
  · rintro ⟨rfl, free⟩
    exact List.splitOn_eq_singleton free

theorem splitOn_eq_cons_iff {c : Char} {text piece : List Char} {others : List (List Char)}
    (more : others ≠ []) : text.splitOn c = piece :: others ↔
      ∃ rest, text = piece ++ c :: rest ∧ c ∉ piece ∧ rest.splitOn c = others := by
  constructor
  · intro pieces
    obtain ⟨start, rest, rfl, isPiece, rfl⟩ : ∃ start rest, text = start ++ c :: rest ∧
        start.splitOn c = [piece] ∧ rest.splitOn c = others :=
      exists_of_splitOn_eq_append pieces (List.cons_ne_nil _ _) more
    obtain ⟨rfl, free⟩ := splitOn_eq_singleton_iff.mp isPiece
    exact ⟨rest, rfl, free, rfl⟩
  · rintro ⟨rest, rfl, free, rfl⟩
    rw [List.splitOn_append_cons_self, List.splitOn_eq_singleton free, List.singleton_append]

/-- Pieces without separators are the pieces of the text that has a separator in front of each but
the first. -/
theorem splitWhere_flatMap {c : Char} {piece : List Char} {others : List (List Char)}
    (free : ∀ p ∈ piece :: others, c ∉ p) :
    splitWhere (· == c) (piece ++ others.flatMap (c :: ·)) = piece :: others := by
  induction others generalizing piece with
  | nil =>
    have alone : c ∉ piece := free piece List.mem_cons_self
    rw [List.flatMap_nil, List.append_nil, splitWhere_eq_splitOn, List.splitOn_eq_singleton alone]
  | cons next others ih =>
    obtain ⟨first, rest⟩ := List.forall_mem_cons.mp free
    have alone : splitWhere (· == c) piece = [piece] := by
      rw [splitWhere_eq_splitOn, List.splitOn_eq_singleton first]
    rw [List.flatMap_cons, List.cons_append, splitWhere_append (by simp), alone, ih rest,
      List.singleton_append]

end ApiTypes.Text
