import Mathlib.Logic.Function.Basic

/-!
# UTF-16

A string of a script is a sequence of 16-bit code units. A character of the basic plane is one
unit; any other is a pair of surrogates, which no character has as its code.

## Main definitions

* `Utf16.units` — the code units of a code point
* `Utf16.encode` — the code units of a text

## Main results

* `Utf16.encode_injective` — the code units say which text it is
-/

namespace ApiTypes.Utf16

/-- The code units of a code point. A surrogate alone is its own unit. -/
def units (code : Nat) : List UInt16 :=
  if code < 0x10000 then [.ofNat code]
  else [.ofNat (0xD800 + (code - 0x10000) / 0x400), .ofNat (0xDC00 + (code - 0x10000) % 0x400)]

/-- The code units of a text. -/
def encode (text : List Char) : List UInt16 :=
  text.flatMap fun c => units c.toNat

@[simp]
theorem encode_nil : encode [] = [] := rfl

@[simp]
theorem encode_cons (c : Char) (rest : List Char) :
    encode (c :: rest) = units c.toNat ++ encode rest := rfl

theorem eq_of_ofNat_eq {m n : Nat} (hm : m < 0x10000) (hn : n < 0x10000)
    (same : UInt16.ofNat m = UInt16.ofNat n) : m = n := by
  have toNat := congrArg UInt16.toNat same
  rwa [UInt16.toNat_ofNat_of_lt' hm, UInt16.toNat_ofNat_of_lt' hn] at toNat

/-- Characters are not surrogates, and there are none beyond the last plane. -/
theorem code_bounds (c : Char) :
    c.toNat < 0xD800 ∨ (0xE000 ≤ c.toNat ∧ c.toNat < 0x110000) := by
  rcases c.valid with low | ⟨high, last⟩
  · exact .inl low
  · exact .inr ⟨high, last⟩

/-- The units in front of a text show its first character. -/
theorem units_append_inj {c d : Char} {us vs : List UInt16}
    (same : units c.toNat ++ us = units d.toNat ++ vs) : c = d ∧ us = vs := by
  have boundsC := code_bounds c
  have boundsD := code_bounds d
  rw [units, units] at same
  -- a unit of the basic plane is no surrogate, so the two are of one length
  split at same <;> split at same <;>
    simp only [List.cons_append, List.nil_append, List.cons.injEq] at same
  · have code := eq_of_ofNat_eq (by omega) (by omega) same.1
    exact ⟨Char.toNat_inj.mp code, same.2⟩
  · have code := eq_of_ofNat_eq (by omega) (by omega) same.1
    omega
  · have code := eq_of_ofNat_eq (by omega) (by omega) same.1
    omega
  · have high := eq_of_ofNat_eq (by omega) (by omega) same.1
    have low := eq_of_ofNat_eq (by omega) (by omega) same.2.1
    exact ⟨Char.toNat_inj.mp (by omega), same.2.2⟩

theorem units_ne_nil (code : Nat) : units code ≠ [] := by
  unfold units
  split <;> exact List.cons_ne_nil _ _

theorem encode_injective : Function.Injective encode := by
  intro text other same
  -- the first characters agree by their units, and then the rests do
  induction text generalizing other with
  | nil =>
    cases other with
    | nil => rfl
    | cons d rest => simp [units_ne_nil] at same
  | cons c rest ih =>
    cases other with
    | nil => simp [units_ne_nil] at same
    | cons d rest' =>
      obtain ⟨rfl, rests⟩ := units_append_inj same
      rw [ih rests]

end ApiTypes.Utf16
