/-!
# Character classes as runs of code points

A class of characters is a list of evenly spaced runs of code points. The tables of this
folder are those of Unicode 17.0 and cover the code points from 128 up; the predicates that use
them treat ASCII by rule, so that a statement about ASCII text never has to look into a table.

## Main definitions

* `Unicode.Run` — the code points `first`, `first + step`, …, up to `last`
* `Unicode.covers` — membership in a list of runs
-/

namespace ApiTypes.Unicode

/-- The code points `first`, `first + step`, `first + 2 * step`, … up to `last`. -/
structure Run where
  first : Nat
  last : Nat
  step : Nat

/-- Whether the code point lies on the run. -/
def Run.holds (run : Run) (code : Nat) : Bool :=
  decide (run.first ≤ code) && decide (code ≤ run.last) && (code - run.first) % run.step == 0

/-- Whether one of the runs holds the code point. -/
def covers (runs : List Run) (code : Nat) : Bool :=
  runs.any (·.holds code)

@[simp] theorem covers_nil (code : Nat) : covers [] code = false := rfl

@[simp] theorem covers_cons (run : Run) (runs : List Run) (code : Nat) :
    covers (run :: runs) code = (run.holds code || covers runs code) := rfl

/-- A code point below the start of every run is in none of them. -/
theorem covers_eq_false_of_lt {runs : List Run} {code : Nat}
    (h : ∀ run ∈ runs, code < run.first) : covers runs code = false := by
  induction runs with
  | nil => rfl
  | cons run runs ih =>
    have hrun : run.holds code = false := by
      have : ¬ run.first ≤ code := Nat.not_le.2 (h run (by simp))
      simp [Run.holds, this]
    rw [covers_cons, hrun, ih fun r hr => h r (by simp [hr])]
    rfl

end ApiTypes.Unicode
