import ApiTypes.Unicode.Alphanumeric
import ApiTypes.Unicode.CaseMapping
import ApiTypes.Unicode.Identifier

/-!
# Characters of ASCII

The tables start beyond ASCII, where the rules alone decide. There are few enough characters of
ASCII to check a property of them one by one.

## Main results

* `Unicode.of_ascii` — a property that each character of ASCII has
* `Unicode.isAlphanumeric_of_ascii`, `Unicode.startsIdentifier_of_ascii`,
  `Unicode.continuesIdentifier_of_ascii` — the classes within ASCII
* `Unicode.toUppercase_of_ascii`, `Unicode.toLowercase_of_ascii` — the case mappings within ASCII
-/

namespace ApiTypes.Unicode

theorem of_ascii {P : Char → Prop} (each : ∀ n : Fin 128, P (Char.ofNat n)) {c : Char}
    (ascii : c.toNat < 128) : P c := by
  have holds := each ⟨c.toNat, ascii⟩
  rwa [Char.ofNat_toNat] at holds

theorem isAlphanum_of_isUpper {c : Char} (upper : c.isUpper) : c.isAlphanum := by
  unfold Char.isAlphanum Char.isAlpha
  rw [upper]
  rfl

theorem ascii_of_isAlphanum {c : Char} (letterOrDigit : c.isAlphanum) : c.toNat < 128 := by
  unfold Char.isAlphanum Char.isAlpha Char.isUpper Char.isLower Char.isDigit at letterOrDigit
  simp only [Bool.or_eq_true, Bool.and_eq_true, decide_eq_true_eq, UInt32.le_iff_toNat_le,
    ge_iff_le] at letterOrDigit
  change ((65 ≤ c.toNat ∧ c.toNat ≤ 90) ∨ (97 ≤ c.toNat ∧ c.toNat ≤ 122)) ∨
    (48 ≤ c.toNat ∧ c.toNat ≤ 57) at letterOrDigit
  omega

/-- No table that starts beyond ASCII holds a character of ASCII. -/
theorem covers_ascii {runs : List Run} (beyond : ∀ run ∈ runs, 128 ≤ run.first) {c : Char}
    (ascii : c.toNat < 128) : covers runs c.toNat = false :=
  covers_eq_false_of_lt fun run among => Nat.lt_of_lt_of_le ascii (beyond run among)

variable {c : Char} (ascii : c.toNat < 128)

include ascii

theorem isAlphanumeric_of_ascii : isAlphanumeric c = c.isAlphanum := by
  have beyond : ∀ run ∈ alphanumericRuns, 128 ≤ run.first := by decide +kernel
  rw [isAlphanumeric, covers_ascii beyond ascii, Bool.or_false]

theorem startsIdentifier_of_ascii : startsIdentifier c = c.isAlpha := by
  have beyond : ∀ run ∈ identifierStartRuns, 128 ≤ run.first := by decide +kernel
  rw [startsIdentifier, covers_ascii beyond ascii, Bool.or_false]

theorem continuesIdentifier_of_ascii :
    continuesIdentifier c = (c.isAlphanum || c == '_') := by
  have beyond : ∀ run ∈ identifierContinueRuns, 128 ≤ run.first := by decide +kernel
  rw [continuesIdentifier, covers_ascii beyond ascii, Bool.or_false]

theorem toUppercase_of_ascii : toUppercase c = [c.toUpper] := if_pos ascii

theorem toLowercase_of_ascii : toLowercase c = [c.toLower] := if_pos ascii

omit ascii

theorem isAlphanum_toUpper (letterOrDigit : c.isAlphanum) : c.toUpper.isAlphanum :=
  of_ascii (P := fun c => c.isAlphanum → c.toUpper.isAlphanum) (by decide)
    (ascii_of_isAlphanum letterOrDigit) letterOrDigit

theorem isAlphanum_toLower (letterOrDigit : c.isAlphanum) : c.toLower.isAlphanum :=
  of_ascii (P := fun c => c.isAlphanum → c.toLower.isAlphanum) (by decide)
    (ascii_of_isAlphanum letterOrDigit) letterOrDigit

end ApiTypes.Unicode
