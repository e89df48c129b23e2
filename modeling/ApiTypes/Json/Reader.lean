import ApiTypes.Json
import ApiTypes.Number.Width

/-!
# Reading JSON text

A value and white space around it. An integer that fits 64 bits stays an integer, all other
numbers become binary; the text `-0` is the binary negative zero. Escapes of surrogates must
come in pairs.

## Main definitions

* `Json.parse` — the value of a text
* `Json.Reader.numberOfParts?` — the number with the given sign, digits and exponent
-/

namespace ApiTypes.Json

namespace Reader

/-- The value of a run of decimal digits. -/
def digitsValue (digits : List Char) : Nat :=
  digits.foldl (fun n c => 10 * n + (c.toNat - 48)) 0

/-- The value of a run of hexadecimal digits, `none` if one of them is no such digit. -/
def hexValue? (digits : List Char) : Option Nat :=
  digits.foldlM (fun n c =>
    if c.isDigit then some (16 * n + (c.toNat - 48))
    else if 'a' ≤ c ∧ c ≤ 'f' then some (16 * n + (c.toNat - 87))
    else if 'A' ≤ c ∧ c ≤ 'F' then some (16 * n + (c.toNat - 55))
    else none) 0

/-- The number of a decimal text: an integer if it has neither fraction nor exponent, is not
`-0` and fits 64 bits, else the nearest binary number. -/
def numberOfParts? (negative : Bool) (whole fraction : List Char) (exponent : Option Int) :
    Option Number :=
  let magnitude := digitsValue whole
  let n : Int := if negative then -magnitude else magnitude
  if fraction = [] ∧ exponent = none ∧ fitsWidth 64 n ∧ ¬ (negative ∧ magnitude = 0) then
    some (.integer n)
  else
    .binary <$> Binary64.ofDecimal? negative (digitsValue (whole ++ fraction))
      (exponent.getD 0 - fraction.length)

/-- Drops the white space in front. -/
def skipSpace (text : List Char) : List Char :=
  text.dropWhile fun c => c == ' ' || c == '\t' || c == '\n' || c == '\r'

/-- The digits in front, of which there must be one. -/
def digits1 (text : List Char) : Option (List Char × List Char) :=
  match text.takeWhile Char.isDigit with
  | [] => none
  | digits => some (digits, text.dropWhile Char.isDigit)

/-- The exponent of a number, if one is there. -/
def exponentPart : List Char → Option (Option Int × List Char)
  | c :: rest =>
    if c = 'e' ∨ c = 'E' then
      match rest with
      | '-' :: rest => (digits1 rest).map fun (d, r) => (some (-(digitsValue d : Int)), r)
      | '+' :: rest => (digits1 rest).map fun (d, r) => (some (digitsValue d : Int), r)
      | rest => (digits1 rest).map fun (d, r) => (some (digitsValue d : Int), r)
    else some (none, c :: rest)
  | [] => some (none, [])

/-- The fraction of a number, if one is there. -/
def fractionPart : List Char → Option (List Char × List Char)
  | '.' :: rest => digits1 rest
  | text => some ([], text)

/-- The digits before the point: one zero, or digits that start with another one. -/
def wholePart : List Char → Option (List Char × List Char)
  | '0' :: rest => some (['0'], rest)
  | text => digits1 text

/-- A number. -/
def number (text : List Char) : Option (Number × List Char) := do
  let (negative, text) :=
    match text with
    | '-' :: rest => (true, rest)
    | text => (false, text)
  let (whole, text) ← wholePart text
  let (fraction, text) ← fractionPart text
  let (exponent, text) ← exponentPart text
  let n ← numberOfParts? negative whole fraction exponent
  return (n, text)

/-- The character of a simple escape. -/
def simpleEscape? : Char → Option Char
  | '"' => some '"'
  | '\\' => some '\\'
  | '/' => some '/'
  | 'b' => some '\x08'
  | 'f' => some '\x0c'
  | 'n' => some '\n'
  | 'r' => some '\r'
  | 't' => some '\t'
  | _ => none

/-- The character of one UTF-16 unit, or of a pair of them. -/
def ofUnits? (high : Nat) (low : Option Nat) : Option Char :=
  match low with
  | none => if 0xD800 ≤ high ∧ high < 0xE000 then none else some (Char.ofNat high)
  | some low =>
    if 0xD800 ≤ high ∧ high < 0xDC00 ∧ 0xDC00 ≤ low ∧ low < 0xE000 then
      some (Char.ofNat (0x10000 + (high - 0xD800) * 1024 + (low - 0xDC00)))
    else none

/-- The characters of a string up to its closing quote. -/
def stringBody : List Char → Option (List Char × List Char)
  | [] => none
  | '"' :: rest => some ([], rest)
  | '\\' :: 'u' :: a :: b :: c :: d :: rest =>
    match hexValue? [a, b, c, d] with
    | none => none
    | some high =>
      if 0xD800 ≤ high ∧ high < 0xDC00 then
        match rest with
        | '\\' :: 'u' :: e :: f :: g :: h :: rest =>
          match (hexValue? [e, f, g, h]).bind fun low => ofUnits? high (some low) with
          | some x => (stringBody rest).map fun (s, r) => (x :: s, r)
          | none => none
        | _ => none
      else
        match ofUnits? high none with
        | some x => (stringBody rest).map fun (s, r) => (x :: s, r)
        | none => none
  | '\\' :: c :: rest =>
    match simpleEscape? c with
    | some x => (stringBody rest).map fun (s, r) => (x :: s, r)
    | none => none
  | c :: rest =>
    if c.toNat < 32 ∨ c = '\\' then none
    else (stringBody rest).map fun (s, r) => (c :: s, r)

mutual

/-- A value, with white space in front. `fuel` bounds the number of steps. -/
def value : Nat → List Char → Option (Json × List Char)
  | 0, _ => none
  | fuel + 1, text =>
    match skipSpace text with
    | 'n' :: 'u' :: 'l' :: 'l' :: rest => some (.null, rest)
    | 't' :: 'r' :: 'u' :: 'e' :: rest => some (.bool true, rest)
    | 'f' :: 'a' :: 'l' :: 's' :: 'e' :: rest => some (.bool false, rest)
    | '"' :: rest => (stringBody rest).map fun (s, r) => (.string (String.ofList s), r)
    | '[' :: rest =>
      match skipSpace rest with
      | ']' :: rest => some (.array [], rest)
      | rest => (items fuel rest).map fun (xs, r) => (.array xs, r)
    | '\x7b' :: rest =>
      match skipSpace rest with
      | '\x7d' :: rest => some (.object [], rest)
      | rest => (entries fuel [] rest).map fun (es, r) => (.object es, r)
    | text => (number text).map fun (n, r) => (.number n, r)

/-- The items of an array up to its bracket. -/
def items : Nat → List Char → Option (List Json × List Char)
  | 0, _ => none
  | fuel + 1, text => do
    let (item, text) ← value fuel text
    match skipSpace text with
    | ',' :: rest =>
      let (more, rest) ← items fuel rest
      return (item :: more, rest)
    | ']' :: rest => return ([item], rest)
    | _ => none

/-- The entries of an object up to its brace, added to those already read. -/
def entries : Nat → List (String × Json) → List Char → Option (List (String × Json) × List Char)
  | 0, _, _ => none
  | fuel + 1, read, text => do
    let '"' :: text := skipSpace text | none
    let (key, text) ← stringBody text
    let ':' :: text := skipSpace text | none
    let (item, text) ← value fuel text
    let read := Entries.insert (String.ofList key) item read
    match skipSpace text with
    | ',' :: rest => entries fuel read rest
    | '\x7d' :: rest => return (read, rest)
    | _ => none

end

end Reader

/-- The value of a text. -/
def parse (text : String) : Option Json :=
  let chars := text.toList
  match Reader.value (2 * chars.length + 2) chars with
  | some (v, rest) => if Reader.skipSpace rest = [] then some v else none
  | none => none

end ApiTypes.Json
