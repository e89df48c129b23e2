import ApiTypes.Proofs.Text.Utf8
import ApiTypes.Text.Percent

/-!
# Percent-encoded text is read back

A text may be encoded in many ways: its characters stand for themselves or are escaped byte by
byte, and the digits of an escape are of either case. Whichever way is chosen, decoding gives the
text back, if at least every `%` is escaped.

## Main definitions

* `Percent.IsHexDigit` — hexadecimal digits and their values
* `Percent.Escapes` — the ways to escape bytes
* `Percent.Encodes` — the ways to encode a text
* `Percent.EncodesBytes` — the ways to encode bytes, whatever characters they belong to

## Main results

* `Percent.Encodes.decode_eq` — decoding undoes every one of them
* `Percent.EncodesBytes.decode_eq` — even those that tell apart the bytes of one character
* `Percent.exists_encodesBytes` — every text can be encoded
-/

namespace ApiTypes.Percent

/-- The character is the hexadecimal digit with the value, in upper or lower case. -/
def IsHexDigit (c : Char) (value : Nat) : Prop :=
  c ∈ "0123456789ABCDEF".toList[value]? ∨ c ∈ "0123456789abcdef".toList[value]?

/-- The characters escape the bytes one by one, each as `%` and two hexadecimal digits. -/
inductive Escapes : List UInt8 → List Char → Prop
  | nil : Escapes [] []
  | cons {byte : UInt8} {bytes : List UInt8} {high low : Char} {written : List Char}
      (isHigh : IsHexDigit high (byte.toNat / 16)) (isLow : IsHexDigit low (byte.toNat % 16))
      (rest : Escapes bytes written) : Escapes (byte :: bytes) ('%' :: high :: low :: written)

/-- The second text encodes the first one: each character stands for itself, if it is not reserved,
or its bytes in UTF-8 are escaped. -/
inductive Encodes (reserved : List Char) : List Char → List Char → Prop
  | nil : Encodes reserved [] []
  | plain {c : Char} {text written : List Char} (free : c ∉ reserved)
      (rest : Encodes reserved text written) : Encodes reserved (c :: text) (c :: written)
  | escaped {c : Char} {text word written : List Char}
      (word_escapes : Escapes (Utf8.encodeChar c) word)
      (rest : Encodes reserved text written) : Encodes reserved (c :: text) (word ++ written)

/-! ### Digits -/

/-- The values of digits, and what a digit is not. -/
theorem IsHexDigit.spec {c : Char} {value : Nat} (digit : IsHexDigit c value) :
    c.toNat < 128 ∧ hexValue? (UInt8.ofNat c.toNat) = some value ∧
      c ∉ ['%', '/', '\x7b', '\x7d'] := by
  have bound : value < 16 := by
    rcases digit with digit | digit
    · exact (List.getElem?_eq_some_iff.mp digit).1
    · exact (List.getElem?_eq_some_iff.mp digit).1
  have each : ∀ v < 16, (("0123456789ABCDEF".toList[v]?).toList ++
      ("0123456789abcdef".toList[v]?).toList).all fun c => decide (c.toNat < 128 ∧
        hexValue? (UInt8.ofNat c.toNat) = some v ∧ c ∉ ['%', '/', '\x7b', '\x7d']) := by
    decide
  have among : c ∈ ("0123456789ABCDEF".toList[value]?).toList ++
      ("0123456789abcdef".toList[value]?).toList := by
    rwa [List.mem_append, Option.mem_toList, Option.mem_toList]
  exact of_decide_eq_true (List.all_eq_true.mp (each value bound) c among)

theorem encodeChar_of_ascii {c : Char} (ascii : c.toNat < 128) :
    Utf8.encodeChar c = [UInt8.ofNat c.toNat] := by
  simp only [Utf8.encodeChar]
  rw [if_pos ascii]

/-- Two digits give the byte. -/
theorem escape?_eq {byte : UInt8} {high low : Char} (isHigh : IsHexDigit high (byte.toNat / 16))
    (isLow : IsHexDigit low (byte.toNat % 16)) :
    escape? (UInt8.ofNat high.toNat) (UInt8.ofNat low.toNat) = some byte := by
  rw [escape?, isHigh.spec.2.1, isLow.spec.2.1]
  simp only [Nat.div_add_mod, UInt8.ofNat_toNat]

/-! ### Decoding -/

theorem decodeBytes_cons_of_ne {byte : UInt8} (other : byte ≠ 37) (rest : List UInt8) :
    decodeBytes (byte :: rest) = byte :: decodeBytes rest := by
  rw [decodeBytes.eq_def]
  simp only [if_neg other]

theorem decodeBytes_append_of_ne {bytes : List UInt8} (other : ∀ byte ∈ bytes, byte ≠ 37)
    (rest : List UInt8) : decodeBytes (bytes ++ rest) = bytes ++ decodeBytes rest := by
  induction bytes with
  | nil => rfl
  | cons byte bytes ih =>
    rw [List.cons_append, decodeBytes_cons_of_ne (other byte List.mem_cons_self),
      ih fun b among => other b (List.mem_cons_of_mem _ among), List.cons_append]

/-- Only the percent sign itself has its byte in UTF-8. -/
theorem ne_of_mem_encodeChar {c : Char} (other : c ≠ '%') :
    ∀ byte ∈ Utf8.encodeChar c, byte ≠ 37 := by
  rintro _ among rfl
  rcases Utf8.toNat_of_mem_encodeChar among with same | above
  · exact other (Char.ext (UInt32.toNat.inj same.symm))
  · exact absurd above (by decide)

theorem ne_of_mem_encode {text : List Char} (free : '%' ∉ text) :
    ∀ byte ∈ Utf8.encode text, byte ≠ 37 := by
  intro byte among
  obtain ⟨c, inText, inChar⟩ := List.mem_flatMap.mp among
  exact ne_of_mem_encodeChar (fun same => free (same ▸ inText)) byte inChar

/-- Escaped bytes are read back. -/
theorem Escapes.decodeBytes_eq {bytes : List UInt8} {written : List Char}
    (escapes : Escapes bytes written) (rest : List UInt8) :
    decodeBytes (Utf8.encode written ++ rest) = bytes ++ decodeBytes rest := by
  induction escapes with
  | nil => rfl
  | cons isHigh isLow _ ih =>
    have percent : Utf8.encodeChar '%' = [37] := rfl
    simp only [Utf8.encode, List.flatMap_cons, percent, encodeChar_of_ascii isHigh.spec.1,
      encodeChar_of_ascii isLow.spec.1, List.cons_append, List.nil_append]
    rw [decodeBytes, if_pos rfl]
    simp only [escape?_eq isHigh isLow]
    rw [← ih, Utf8.encode]

theorem Encodes.decodeBytes_eq {reserved text written : List Char} (percent : '%' ∈ reserved)
    (encodes : Encodes reserved text written) :
    decodeBytes (Utf8.encode written) = Utf8.encode text := by
  induction encodes with
  | nil => rfl
  | @plain c text written free _ ih =>
    have other : c ≠ '%' := fun same => free (same ▸ percent)
    rw [Utf8.encode, List.flatMap_cons, ← Utf8.encode,
      decodeBytes_append_of_ne (ne_of_mem_encodeChar other), ih]
    rfl
  | escaped word_escapes _ ih =>
    rw [Utf8.encode, List.flatMap_append, ← Utf8.encode, ← Utf8.encode,
      word_escapes.decodeBytes_eq, ih]
    rfl

/-- A text is read back from any of its encodings, if they escape the percent sign. -/
theorem Encodes.decode_eq {reserved text written : List Char} (percent : '%' ∈ reserved)
    (encodes : Encodes reserved text written) : decode written = text := by
  rw [decode, encodes.decodeBytes_eq percent, Utf8.decodeLossy_encode]

/-! ### What an encoding is made of -/

theorem Escapes.not_mem {bytes : List UInt8} {written : List Char}
    (escapes : Escapes bytes written) {c : Char} (mark : c ∈ ['/', '\x7b', '\x7d']) :
    c ∉ written := by
  have notPercent : c ≠ '%' := by
    rintro rfl
    simp at mark
  have notDigit {digit : Char} {value : Nat} (isDigit : IsHexDigit digit value) : c ≠ digit := by
    rintro rfl
    exact isDigit.spec.2.2 (List.mem_cons_of_mem _ mark)
  induction escapes with
  | nil => exact List.not_mem_nil
  | cons isHigh isLow _ ih =>
    simp [notPercent, notDigit isHigh, notDigit isLow, ih]

/-- A mark that is reserved does not occur in an encoding. -/
theorem Encodes.not_mem {reserved text written : List Char}
    (encodes : Encodes reserved text written) {c : Char} (isReserved : c ∈ reserved)
    (mark : c ∈ ['/', '\x7b', '\x7d']) : c ∉ written := by
  induction encodes with
  | nil => exact List.not_mem_nil
  | plain free _ ih =>
    rw [List.mem_cons, not_or]
    exact ⟨fun same => free (same ▸ isReserved), ih⟩
  | escaped word_escapes _ ih =>
    rw [List.mem_append, not_or]
    exact ⟨word_escapes.not_mem mark, ih⟩

theorem Encodes.ne_nil {reserved text written : List Char}
    (encodes : Encodes reserved text written) (nonempty : text ≠ []) : written ≠ [] := by
  rintro rfl
  cases text with
  | nil => exact nonempty rfl
  | cons c text =>
    -- the first character has at least one byte
    generalize same : ([] : List Char) = written at encodes
    cases encodes with
    | plain => cases same
    | @escaped _ _ word written word_escapes _ =>
      obtain ⟨rfl, -⟩ := List.append_eq_nil_iff.mp same.symm
      generalize bytes : Utf8.encodeChar c = encoded at word_escapes
      cases word_escapes
      exact Utf8.encodeChar_ne_nil c bytes

/-! ### Byte by byte -/

/-- The second byte list encodes the first one: each byte stands for itself, if it is no percent
sign, or it is escaped. -/
inductive EncodesBytes : List UInt8 → List UInt8 → Prop
  | nil : EncodesBytes [] []
  | plain {byte : UInt8} {bytes written : List UInt8} (free : byte ≠ 37)
      (rest : EncodesBytes bytes written) : EncodesBytes (byte :: bytes) (byte :: written)
  | escaped {byte : UInt8} {bytes written : List UInt8} {high low : Char}
      (isHigh : IsHexDigit high (byte.toNat / 16)) (isLow : IsHexDigit low (byte.toNat % 16))
      (rest : EncodesBytes bytes written) :
      EncodesBytes (byte :: bytes) (Utf8.encode ['%', high, low] ++ written)

theorem EncodesBytes.decodeBytes_eq {bytes written : List UInt8}
    (encodes : EncodesBytes bytes written) : decodeBytes written = bytes := by
  induction encodes with
  | nil => rfl
  | plain free _ ih => rw [decodeBytes_cons_of_ne free, ih]
  | escaped isHigh isLow _ ih =>
    have single := Escapes.cons isHigh isLow .nil
    rw [single.decodeBytes_eq, ih, List.singleton_append]

/-- A text is read back from any encoding of its bytes. -/
theorem EncodesBytes.decode_eq {text written : List Char}
    (encodes : EncodesBytes (Utf8.encode text) (Utf8.encode written)) : decode written = text := by
  rw [decode, encodes.decodeBytes_eq, Utf8.decodeLossy_encode]

theorem EncodesBytes.append_of_ne {bytes : List UInt8} (free : ∀ byte ∈ bytes, byte ≠ 37)
    {rest written : List UInt8} (encodes : EncodesBytes rest written) :
    EncodesBytes (bytes ++ rest) (bytes ++ written) := by
  induction bytes with
  | nil => exact encodes
  | cons byte bytes ih =>
    obtain ⟨first, others⟩ := List.forall_mem_cons.mp free
    exact .plain first (ih others)

/-- A text without percent signs encodes itself. -/
theorem EncodesBytes.self {text : List Char} (free : '%' ∉ text) :
    EncodesBytes (Utf8.encode text) (Utf8.encode text) := by
  have whole := EncodesBytes.nil.append_of_ne (ne_of_mem_encode free)
  rwa [List.append_nil] at whole

/-- Every text can be encoded: it is enough to escape the percent signs. -/
theorem exists_encodesBytes (text : List Char) :
    ∃ written, EncodesBytes (Utf8.encode text) (Utf8.encode written) := by
  induction text with
  | nil => exact ⟨[], .nil⟩
  | cons c rest ih =>
    obtain ⟨written, encodes⟩ := ih
    by_cases percent : c = '%'
    · subst percent
      have isHigh : IsHexDigit '2' (37 / 16) := .inl (by decide)
      have isLow : IsHexDigit '5' (37 % 16) := .inl (by decide)
      exact ⟨'%' :: '2' :: '5' :: written, @EncodesBytes.escaped 37 _ _ _ _ isHigh isLow encodes⟩
    · exact ⟨c :: written, encodes.append_of_ne (ne_of_mem_encodeChar percent)⟩

end ApiTypes.Percent
