import ApiTypes.Proofs.Rendering.Aligned

/-!
# Lines of printed types

A printed type breaks its line only in front of a property, which is indented, and of the brace
that closes an object type. So no line of it but the first could be taken for the start of a
declaration, or is empty.

## Main definitions

* `Indented` — every line but the first starts with a space or with a closing brace

## Main results

* `Indented.append` — such texts can be put together
* `Indented.head?_of_mem_tail` — how the lines start
* `Aligned.indented` — pieces whose keys lie in object types are indented
* `TypeExpr.Rendered.indented_text` — printed types are indented
-/

namespace ApiTypes

/-- Every line break is followed by a space or by a closing brace. -/
def Indented (text : List Char) : Prop :=
  ∀ before after, text = before ++ '\n' :: after → ∃ c ∈ after.head?, c = ' ' ∨ c = '\x7d'

namespace Indented

variable {text other : List Char}

theorem of_not_mem (oneLine : '\n' ∉ text) : Indented text := by
  rintro before after rfl
  exact absurd (List.mem_append_right _ (List.mem_cons_self ..)) oneLine

theorem newline (h : Indented text) (starts : ∃ c ∈ text.head?, c = ' ' ∨ c = '\x7d') :
    Indented ('\n' :: text) := by
  intro before after whole
  cases before with
  | nil =>
    obtain ⟨-, rfl⟩ := List.cons.inj whole
    exact starts
  | cons c before =>
    obtain ⟨-, rfl⟩ := List.cons.inj whole
    exact h before after rfl

theorem append (h : Indented text) (h' : Indented other) : Indented (text ++ other) := by
  intro before after whole
  rcases List.append_eq_append_iff.mp whole with ⟨rest, -, split⟩ | ⟨rest, split, split'⟩
  · exact h' rest after split
  · cases rest with
    | nil => exact h' [] after split'.symm
    | cons c rest =>
      -- a break inside the first text is followed by a character of that text
      obtain ⟨rfl, rfl⟩ := List.cons.inj split'
      obtain ⟨c, first, starts⟩ := h before rest split
      refine ⟨c, ?_, starts⟩
      change c ∈ (rest ++ other).head?
      rw [List.head?_append, Option.mem_def.mp first, Option.some_or]
      rfl

theorem tail {c : Char} (h : Indented (c :: text)) : Indented text := by
  rintro before after rfl
  exact h (c :: before) after rfl

end Indented

/-! ### Printed types -/

/-- A line that starts with spaces, or else with a closing brace. -/
theorem indented_line {depth : Nat} {text : List Char} (oneLine : '\n' ∉ text)
    (starts : 0 < depth ∨ text.head? = some '\x7d') :
    Indented ((Piece.line depth).chars ++ text) := by
  refine .newline (.of_not_mem (by simpa using oneLine)) ?_
  cases depth with
  | zero => exact ⟨'\x7d', starts.resolve_left (Nat.lt_irrefl 0), .inr rfl⟩
  | succ depth => exact ⟨' ', rfl, .inl rfl⟩

/-- Keys stand in an object type, so their lines start with a space. -/
theorem Aligned.indented {opened final : Nat} {pieces : List Piece}
    (aligned : Aligned opened pieces final) : Indented (pieces.flatMap Piece.chars) := by
  induction aligned with
  | nil => exact .of_not_mem (by simp)
  | space _ ih | openBrace _ ih => exact Indented.append (.of_not_mem (by decide)) ih
  | token ordinary _ ih => exact Indented.append (.of_not_mem ordinary.oneLine) ih
  | closeBrace _ ih =>
    rw [List.flatMap_cons, List.flatMap_cons, ← List.append_assoc]
    exact (indented_line (by decide) (.inr rfl)).append ih
  | key name _ ih =>
    rw [List.flatMap_cons, List.flatMap_cons, ← List.append_assoc]
    exact (indented_line (Key.ordinary_ofName name).oneLine (.inl (Nat.succ_pos _))).append ih

theorem TypeExpr.Rendered.indented_text {type : TypeExpr} (h : Rendered type) :
    Indented type.text.toList := by
  rw [text, String.toList_ofList]
  exact (h.aligned_layout 0).indented

end ApiTypes
