/-!
# UTF-8

Characters as bytes and back. Reading works byte by byte with the sequence under way as its
state, so that it also says where a sequence breaks off: a byte that cannot continue the
sequence ends it as one bad character and is then read afresh.

## Main definitions

* `Utf8.encode` — the bytes of a text
* `Utf8.scan` — the characters of a byte list, `none` standing for each bad sequence
* `Utf8.decode?` — the text, if no sequence is bad
* `Utf8.decodeLossy` — the text with U+FFFD in place of each bad sequence
-/

namespace ApiTypes.Utf8

/-- A continuation byte with the low six bits of `code`. -/
def continuation (code : Nat) : UInt8 := UInt8.ofNat (128 + code % 64)

/-- The bytes of one character. -/
def encodeChar (c : Char) : List UInt8 :=
  let code := c.toNat
  if code < 0x80 then
    [UInt8.ofNat code]
  else if code < 0x800 then
    [UInt8.ofNat (0xC0 + code / 64), continuation code]
  else if code < 0x10000 then
    [UInt8.ofNat (0xE0 + code / 4096), continuation (code / 64), continuation code]
  else
    [UInt8.ofNat (0xF0 + code / 262144), continuation (code / 4096), continuation (code / 64),
      continuation code]

/-- The bytes of a text. -/
def encode (text : List Char) : List UInt8 :=
  text.flatMap encodeChar

/-- A sequence that still needs bytes: the bits read so far, the range that the next byte must
lie in, and how many bytes must follow that one. -/
structure Pending where
  bits : Nat
  low : Nat
  high : Nat
  more : Nat

/-- What a byte means at the start of a sequence: a whole character, the lead of a longer
sequence, or nothing. The ranges leave out overlong forms, surrogates and code points past
U+10FFFF. -/
inductive Lead where
  | char (c : Char)
  | pending (p : Pending)
  | bad

/-- Reads a byte at the start of a sequence. -/
def Lead.ofByte (byte : UInt8) : Lead :=
  let b := byte.toNat
  if b < 0x80 then .char (Char.ofNat b)
  else if b < 0xC2 then .bad
  else if b < 0xE0 then .pending ⟨b - 0xC0, 0x80, 0xBF, 0⟩
  else if b = 0xE0 then .pending ⟨0, 0xA0, 0xBF, 1⟩
  else if b = 0xED then .pending ⟨0xD, 0x80, 0x9F, 1⟩
  else if b < 0xF0 then .pending ⟨b - 0xE0, 0x80, 0xBF, 1⟩
  else if b = 0xF0 then .pending ⟨0, 0x90, 0xBF, 2⟩
  else if b < 0xF4 then .pending ⟨b - 0xF0, 0x80, 0xBF, 2⟩
  else if b = 0xF4 then .pending ⟨4, 0x80, 0x8F, 2⟩
  else .bad

/-- The characters of the bytes, with `none` for each sequence that breaks off. -/
def scanFrom : Option Pending → List UInt8 → List (Option Char)
  | none, [] => []
  | some _, [] => [none]
  | none, byte :: rest => start byte rest
  | some p, byte :: rest =>
    if p.low ≤ byte.toNat ∧ byte.toNat ≤ p.high then
      let bits := p.bits * 64 + (byte.toNat - 0x80)
      match p.more with
      | 0 => some (Char.ofNat bits) :: scanFrom none rest
      | more + 1 => scanFrom (some ⟨bits, 0x80, 0xBF, more⟩) rest
    else
      none :: start byte rest
where
  /-- Reads on with a byte that starts a sequence. -/
  start (byte : UInt8) (rest : List UInt8) : List (Option Char) :=
    match Lead.ofByte byte with
    | .char c => some c :: scanFrom none rest
    | .pending p => scanFrom (some p) rest
    | .bad => none :: scanFrom none rest

/-- The characters of the bytes, with `none` for each bad sequence. -/
def scan (bytes : List UInt8) : List (Option Char) :=
  scanFrom none bytes

/-- The text of the bytes, if they are well-formed. -/
def decode? (bytes : List UInt8) : Option (List Char) :=
  (scan bytes).mapM id

/-- The text of the bytes, with U+FFFD for each bad sequence. -/
def decodeLossy (bytes : List UInt8) : List Char :=
  (scan bytes).map (·.getD '\uFFFD')

end ApiTypes.Utf8
