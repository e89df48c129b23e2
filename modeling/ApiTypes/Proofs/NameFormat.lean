import ApiTypes.DeclarationName
import Mathlib.Data.List.Infix

/-!
# Formats of exported names

A format either has a place for the bare name, or exports one and the same name for everything.

## Main definitions

* `NameFormat.placeholder`, `NameFormat.HasPlace`

## Main results

* `NameFormat.apply_of_hasPlace`, `NameFormat.apply_of_fixed` — the two kinds of formats
* `NameFormat.apply_injective` — with a place for the bare name, names are kept apart
* `NameFormat.injective_apply_iff` — and only with one
* `NameFormat.apply_bare` — bare names are exported as they are
-/

namespace ApiTypes.NameFormat

/-- The text that the bare name takes the place of. -/
def placeholder : List Char := "\x7bname\x7d".toList

/-- The template has a place for the bare name. -/
def HasPlace (format : NameFormat) : Prop :=
  placeholder <:+: format.template.toList

/-- The name is put into the same place whatever it is, if there is a place. -/
theorem substitute_cases (template : List Char) :
    (∃ before after, template = before ++ placeholder ++ after ∧
        ∀ name, substitute name template = before ++ name ++ after) ∨
      (¬ placeholder <:+: template ∧ ∀ name, substitute name template = template) := by
  induction template with
  | nil => exact .inr ⟨by decide, fun _ => rfl⟩
  | cons c rest ih =>
    by_cases here : ∃ after, c :: rest = placeholder ++ after
    · obtain ⟨after, same⟩ := here
      refine .inl ⟨[], after, same, fun name => ?_⟩
      rw [same]
      rfl
    · -- the place, if there is one, lies in the rest
      have step (name : List Char) : substitute name (c :: rest) = c :: substitute name rest := by
        rw [substitute]
        rintro after rfl rfl
        exact here ⟨after, rfl⟩
      rcases ih with ⟨before, after, split, put⟩ | ⟨no, same⟩
      · refine .inl ⟨c :: before, after, by simp [split], fun name => ?_⟩
        rw [step, put]
        rfl
      · refine .inr ⟨fun somewhere => ?_, fun name => by rw [step, same]⟩
        rcases List.infix_cons_iff.mp somewhere with ⟨after, first⟩ | later
        · exact here ⟨after, first.symm⟩
        · exact no later

variable {format : NameFormat}

theorem apply_of_hasPlace (has : format.HasPlace) :
    ∃ before after : String, ∀ name, format.apply name = before ++ name ++ after := by
  rcases substitute_cases format.template.toList with ⟨before, after, -, put⟩ | ⟨no, -⟩
  · refine ⟨.ofList before, .ofList after, fun name => ?_⟩
    rw [apply, put, String.ofList_append, String.ofList_append, String.ofList_toList]
  · exact absurd has no

theorem apply_of_fixed (fixed : ¬ format.HasPlace) (name : String) :
    format.apply name = format.template := by
  rcases substitute_cases format.template.toList with ⟨before, after, split, -⟩ | ⟨-, same⟩
  · exact absurd ⟨before, after, split.symm⟩ fixed
  · rw [apply, same, String.ofList_toList]

theorem apply_injective (has : format.HasPlace) : Function.Injective format.apply := by
  obtain ⟨before, after, put⟩ := apply_of_hasPlace has
  intro name name' same
  rw [put, put] at same
  have chars := congrArg String.toList same
  simp only [String.toList_append, List.append_cancel_right_eq, List.append_cancel_left_eq] at chars
  exact String.toList_inj.mp chars

theorem injective_apply_iff : Function.Injective format.apply ↔ format.HasPlace := by
  refine ⟨fun injective => ?_, apply_injective⟩
  by_contra fixed
  have same : format.apply "" = format.apply "a" := by
    rw [apply_of_fixed fixed, apply_of_fixed fixed]
  exact absurd (injective same) (by decide)

theorem apply_bare (name : String) : bare.apply name = name := by
  have put : substitute name.toList bare.template.toList = name.toList ++ [] := rfl
  rw [apply, put, List.append_nil, String.ofList_toList]

end ApiTypes.NameFormat
