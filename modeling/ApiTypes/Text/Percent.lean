import ApiTypes.Text.Utf8

/-!
# Percent-encoding

In percent-encoded text `%` and two hexadecimal digits stand for a byte; a `%` without two
digits after it stands for itself. The bytes are read as UTF-8, with U+FFFD for whatever is not
well-formed.

## Main definitions

* `Percent.decodeBytes` — undoes the encoding of a byte list
* `Percent.decode` — undoes the encoding of a text
-/

namespace ApiTypes.Percent

/-- The value of a hexadecimal digit, given as its character's code. -/
def hexValue? (byte : UInt8) : Option Nat :=
  let b := byte.toNat
  if 48 ≤ b ∧ b ≤ 57 then some (b - 48)
  else if 65 ≤ b ∧ b ≤ 70 then some (b - 55)
  else if 97 ≤ b ∧ b ≤ 102 then some (b - 87)
  else none

/-- The byte that `%` and the two given bytes stand for. -/
def escape? (high low : UInt8) : Option UInt8 :=
  match hexValue? high, hexValue? low with
  | some h, some l => some (UInt8.ofNat (16 * h + l))
  | _, _ => none

/-- Replaces each escape by its byte. -/
def decodeBytes : List UInt8 → List UInt8
  | [] => []
  | byte :: rest =>
    if byte = 37 then
      match rest with
      | high :: low :: rest' =>
        match escape? high low with
        | some value => value :: decodeBytes rest'
        | none => byte :: decodeBytes (high :: low :: rest')
      | rest => byte :: decodeBytes rest
    else byte :: decodeBytes rest

/-- The text that a percent-encoded text stands for. -/
def decode (text : List Char) : List Char :=
  Utf8.decodeLossy (decodeBytes (Utf8.encode text))

end ApiTypes.Percent
