import ApiTypes.Text.Utf8
import Mathlib.Tactic.SplitIfs

/-!
# UTF-8 is read back

The bytes of a character are read as that character, whatever follows them: the first byte says
how many more there are, and for each further one the range that shuts out overlong forms and
surrogates holds the byte that was written.

## Main results

* `Utf8.toNat_of_mem_encodeChar` — the bytes of a character
* `Utf8.scanFrom_encodeChar` — the bytes of one character
* `Utf8.decodeLossy_encode` — the bytes of a text
-/

namespace ApiTypes.Utf8

theorem toNat_continuation (code : Nat) : (continuation code).toNat = 128 + code % 64 := by
  rw [continuation, UInt8.toNat_ofNat']
  omega

theorem encodeChar_ne_nil (c : Char) : encodeChar c ≠ [] := by
  simp only [encodeChar]
  split_ifs <;> exact List.cons_ne_nil _ _

/-- A character of ASCII is one byte, and no byte of another character could be mistaken for it. -/
theorem toNat_of_mem_encodeChar {c : Char} {byte : UInt8} (among : byte ∈ encodeChar c) :
    byte.toNat = c.toNat ∨ 128 ≤ byte.toNat := by
  have scalar : c.toNat < 0xD800 ∨ 0xDFFF < c.toNat ∧ c.toNat < 0x110000 := c.valid
  have further (code : Nat) : 128 ≤ (continuation code).toNat := by
    rw [toNat_continuation]
    omega
  simp only [encodeChar] at among
  split_ifs at among with one two three
  · obtain rfl := List.mem_singleton.mp among
    left
    rw [UInt8.toNat_ofNat']
    omega
  all_goals
    right
    rcases List.mem_cons.mp among with rfl | among
    · rw [UInt8.toNat_ofNat']
      omega
    · simp only [List.mem_cons, List.not_mem_nil, or_false] at among
      rcases among with rfl | rfl | rfl <;> exact further _

/-- A byte in the range that is asked for adds its six bits. -/
theorem scanFrom_continuation {low high : Nat} (bits more code : Nat) (rest : List UInt8)
    (above : low ≤ 128 + code % 64) (below : 128 + code % 64 ≤ high) :
    scanFrom (some ⟨bits, low, high, more⟩) (continuation code :: rest) =
      match more with
      | 0 => some (Char.ofNat (bits * 64 + code % 64)) :: scanFrom none rest
      | more + 1 => scanFrom (some ⟨bits * 64 + code % 64, 0x80, 0xBF, more⟩) rest := by
  have inRange : low ≤ (continuation code).toNat ∧ (continuation code).toNat ≤ high := by
    rw [toNat_continuation]
    exact ⟨above, below⟩
  have added : (continuation code).toNat - 0x80 = code % 64 := by
    rw [toNat_continuation]
    omega
  have step : scanFrom (some ⟨bits, low, high, more⟩) (continuation code :: rest) =
      match more with
      | 0 => some (Char.ofNat (bits * 64 + ((continuation code).toNat - 0x80))) ::
          scanFrom none rest
      | more + 1 => scanFrom
          (some ⟨bits * 64 + ((continuation code).toNat - 0x80), 0x80, 0xBF, more⟩) rest := by
    rw [scanFrom]
    exact if_pos inRange
  rw [step, added]

theorem scanFrom_lead {byte : UInt8} {p : Pending} (lead : Lead.ofByte byte = .pending p)
    (rest : List UInt8) : scanFrom none (byte :: rest) = scanFrom (some p) rest := by
  rw [scanFrom, scanFrom.start, lead]

theorem ofByte_ascii {code : Nat} (small : code < 0x80) :
    Lead.ofByte (UInt8.ofNat code) = .char (Char.ofNat code) := by
  have toNat : (UInt8.ofNat code).toNat = code := by
    rw [UInt8.toNat_ofNat']
    omega
  simp [Lead.ofByte, toNat, small]

theorem ofByte_two {code : Nat} (low : 0x80 ≤ code) (high : code < 0x800) :
    Lead.ofByte (UInt8.ofNat (0xC0 + code / 64)) = .pending ⟨code / 64, 0x80, 0xBF, 0⟩ := by
  have toNat : (UInt8.ofNat (0xC0 + code / 64)).toNat = 0xC0 + code / 64 := by
    rw [UInt8.toNat_ofNat']
    omega
  simp only [Lead.ofByte, toNat]
  rw [if_neg (by omega), if_neg (by omega), if_pos (by omega), Nat.add_sub_cancel_left]

/-- What the first of three bytes asks of the second one, which carries the middle bits. -/
theorem ofByte_three {code : Nat} (low : 0x800 ≤ code) (high : code < 0x10000)
    (scalar : code < 0xD800 ∨ 0xDFFF < code) :
    ∃ first last, Lead.ofByte (UInt8.ofNat (0xE0 + code / 4096)) =
        .pending ⟨code / 4096, first, last, 1⟩ ∧
      first ≤ 128 + code / 64 % 64 ∧ 128 + code / 64 % 64 ≤ last := by
  have toNat : (UInt8.ofNat (0xE0 + code / 4096)).toNat = 0xE0 + code / 4096 := by
    rw [UInt8.toNat_ofNat']
    omega
  simp only [Lead.ofByte, toNat]
  rw [if_neg (by omega), if_neg (by omega), if_neg (by omega)]
  split_ifs with overlong surrogates
  · have zero : code / 4096 = 0 := by omega
    exact ⟨0xA0, 0xBF, by rw [zero], by omega, by omega⟩
  · have thirteen : code / 4096 = 0xD := by omega
    exact ⟨0x80, 0x9F, by rw [thirteen], by omega, by omega⟩
  · exact ⟨0x80, 0xBF, by rw [Nat.add_sub_cancel_left], by omega, by omega⟩
  · omega
  · omega
  · omega
  · omega

theorem ofByte_four {code : Nat} (low : 0x10000 ≤ code) (high : code < 0x110000) :
    ∃ first last, Lead.ofByte (UInt8.ofNat (0xF0 + code / 262144)) =
        .pending ⟨code / 262144, first, last, 2⟩ ∧
      first ≤ 128 + code / 4096 % 64 ∧ 128 + code / 4096 % 64 ≤ last := by
  have toNat : (UInt8.ofNat (0xF0 + code / 262144)).toNat = 0xF0 + code / 262144 := by
    rw [UInt8.toNat_ofNat']
    omega
  simp only [Lead.ofByte, toNat]
  rw [if_neg (by omega), if_neg (by omega), if_neg (by omega), if_neg (by omega),
    if_neg (by omega), if_neg (by omega)]
  split_ifs with overlong middle past
  · have zero : code / 262144 = 0 := by omega
    exact ⟨0x90, 0xBF, by rw [zero], by omega, by omega⟩
  · exact ⟨0x80, 0xBF, by rw [Nat.add_sub_cancel_left], by omega, by omega⟩
  · have four : code / 262144 = 4 := by omega
    exact ⟨0x80, 0x8F, by rw [four], by omega, by omega⟩
  · omega

/-- The bytes of a character are read as that character. -/
theorem scanFrom_encodeChar (c : Char) (rest : List UInt8) :
    scanFrom none (encodeChar c ++ rest) = some c :: scanFrom none rest := by
  have scalar : c.toNat < 0xD800 ∨ 0xDFFF < c.toNat ∧ c.toNat < 0x110000 := c.valid
  have same {code : Nat} (eq : code = c.toNat) : Char.ofNat code = c := by
    rw [eq, Char.ofNat_toNat]
  simp only [encodeChar]
  split_ifs with one two three
  · rw [List.singleton_append, scanFrom, scanFrom.start, ofByte_ascii one, same rfl]
  · have lead := ofByte_two (Nat.not_lt.mp one) two
    rw [List.cons_append, scanFrom_lead lead, List.singleton_append,
      scanFrom_continuation _ _ _ _ (by omega) (by omega), same (by omega)]
  · obtain ⟨first, last, lead, above, below⟩ :=
      ofByte_three (Nat.not_lt.mp two) three (scalar.imp_right And.left)
    rw [List.cons_append, scanFrom_lead lead, List.cons_append,
      scanFrom_continuation _ _ _ _ above below, List.singleton_append]
    simp only
    rw [scanFrom_continuation _ _ _ _ (by omega) (by omega), same (by omega)]
  · have bound : c.toNat < 0x110000 := by omega
    obtain ⟨first, last, lead, above, below⟩ := ofByte_four (Nat.not_lt.mp three) bound
    rw [List.cons_append, scanFrom_lead lead, List.cons_append,
      scanFrom_continuation _ _ _ _ above below, List.cons_append]
    simp only
    rw [scanFrom_continuation _ _ _ _ (by omega) (by omega), List.singleton_append]
    simp only
    rw [scanFrom_continuation _ _ _ _ (by omega) (by omega), same (by omega)]

/-- A text is read back from its bytes. -/
theorem decodeLossy_encode (text : List Char) : decodeLossy (encode text) = text := by
  have scanned : scan (encode text) = text.map some := by
    unfold scan
    induction text with
    | nil => rw [encode, List.flatMap_nil, scanFrom, List.map_nil]
    | cons c rest ih =>
      rw [encode, List.flatMap_cons, ← encode, scanFrom_encodeChar, ih, List.map_cons]
  rw [decodeLossy, scanned, List.map_map]
  exact List.map_id text

end ApiTypes.Utf8
