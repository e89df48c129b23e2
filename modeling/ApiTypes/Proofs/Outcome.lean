import Mathlib.Data.List.Forall2

/-!
# Results of steps that can fail

## Main results

* `Outcome.ok_bind`, `Outcome.error_bind` — what follows a step
* `Outcome.bind_eq_ok_iff`, `Outcome.map_eq_ok_iff`, `Outcome.mapError_eq_ok_iff` — when a step in
  a sequence succeeds
* `Outcome.forall₂_of_mapM_eq_ok` — a list of steps succeeds only if each step does
-/

namespace ApiTypes.Outcome

variable {ε ε' α β : Type} {x : Except ε α}

theorem ok_bind (a : α) (f : α → Except ε β) : .ok a >>= f = f a := rfl

theorem error_bind (e : ε) (f : α → Except ε β) : .error e >>= f = .error e := rfl

theorem throw_eq_error (e : ε) : (throw e : Except ε α) = .error e := rfl

theorem bind_eq_ok_iff {f : α → Except ε β} {b : β} :
    x >>= f = .ok b ↔ ∃ a, x = .ok a ∧ f a = .ok b := by
  cases x with
  | ok a =>
    constructor
    · exact fun h => ⟨a, rfl, h⟩
    · rintro ⟨_, ⟨⟩, h⟩
      exact h
  | error e =>
    constructor
    · rintro ⟨⟩
    · rintro ⟨_, ⟨⟩, _⟩

theorem map_eq_ok_iff {f : α → β} {b : β} : f <$> x = .ok b ↔ ∃ a, x = .ok a ∧ f a = b := by
  cases x <;> simp [Functor.map, Except.map]

theorem mapError_eq_ok_iff {f : ε → ε'} {a : α} : x.mapError f = .ok a ↔ x = .ok a := by
  cases x <;> simp [Except.mapError]

theorem forall₂_of_mapM_eq_ok {f : α → Except ε β} {as : List α} {bs : List β}
    (succeeds : as.mapM f = .ok bs) : List.Forall₂ (fun a b => f a = .ok b) as bs := by
  induction as generalizing bs with
  | nil =>
    rw [List.mapM_nil] at succeeds
    obtain rfl := Except.ok.inj succeeds
    exact .nil
  | cons a as ih =>
    rw [List.mapM_cons] at succeeds
    obtain ⟨b, first, succeeds⟩ := bind_eq_ok_iff.mp succeeds
    obtain ⟨bs', others, succeeds⟩ := bind_eq_ok_iff.mp succeeds
    obtain rfl := Except.ok.inj succeeds
    exact .cons first (ih others)

end ApiTypes.Outcome
