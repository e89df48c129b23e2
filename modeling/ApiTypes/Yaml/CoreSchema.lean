import ApiTypes.Number.Binary64
import ApiTypes.Number.Width

/-!
# What scalars stand for

A plain scalar stands for `null`, a boolean, an integer, a floating point number, or else its
text. Integers are decimal or have one of the marks `0x`, `0o` and `0b`; a decimal one with a
leading zero is text. Integers that fit 64 bits are held exactly, larger ones of up to 128 bits
are refused, and still larger ones are read as floating point numbers. A floating point number
past the range of the format is text.

## Main definitions

* `Yaml.Plain.isNull`, `Yaml.Plain.bool?`, `Yaml.Plain.integer?`, `Yaml.Plain.float?`
* `Yaml.Plain.meaning` — what a plain scalar stands for
-/

namespace ApiTypes.Yaml

/-- What a plain scalar stands for. The infinities and what is not a number are no finite
numbers. -/
inductive Plain where
  | null
  | bool (value : Bool)
  | integer (value : Int)
  | hugeInteger
  | finite (value : Binary64)
  | notFinite
  | text
deriving DecidableEq, Repr

namespace Plain

/-- Whether the text spells `null`. -/
def isNull (text : String) : Bool :=
  ["null", "Null", "NULL", "~"].contains text

/-- The boolean that the text spells. -/
def bool? (text : String) : Option Bool :=
  if ["true", "True", "TRUE"].contains text then some true
  else if ["false", "False", "FALSE"].contains text then some false
  else none

/-- The value of a digit in a base of up to sixteen. -/
def digit? (base : Nat) (c : Char) : Option Nat :=
  let value :=
    if c.isDigit then c.toNat - 48
    else if 'a' ≤ c ∧ c ≤ 'f' then c.toNat - 87
    else if 'A' ≤ c ∧ c ≤ 'F' then c.toNat - 55
    else base
  if value < base then some value else none

/-- The number that the digits spell in the base. There must be one. -/
def natural? (base : Nat) (digits : List Char) : Option Nat :=
  if digits = [] then none
  else digits.foldlM (fun n c => (base * n + ·) <$> digit? base c) 0

/-- Splits off a sign: whether it is a minus, and the rest. -/
def splitSign : List Char → Bool × List Char
  | '-' :: rest => (true, rest)
  | '+' :: rest => (false, rest)
  | unsigned => (false, unsigned)

/-- Whether the text is digits with a leading zero, apart from its sign. -/
def hasLeadingZero (text : List Char) : Bool :=
  match (splitSign text).2 with
  | '0' :: second :: rest => (second :: rest).all Char.isDigit
  | _ => false

/-- The magnitude that an integer without its sign spells. -/
def magnitude? : List Char → Option Nat
  | '0' :: 'x' :: digits => natural? 16 digits
  | '0' :: 'o' :: digits => natural? 8 digits
  | '0' :: 'b' :: digits => natural? 2 digits
  | digits => if hasLeadingZero digits then none else natural? 10 digits

/-- The integer that the text spells, if it has at most 128 bits: `hugeInteger` if it does not fit
64 bits. -/
def integer? (text : List Char) : Option Plain :=
  let (negative, digits) := splitSign text
  (magnitude? digits).bind fun magnitude =>
    let n : Int := if negative then -magnitude else magnitude
    if fitsWidth 64 n then some (.integer n)
    else if fitsWidth 128 n then some .hugeInteger
    else none

/-- The exponent of a decimal: nothing, or a mark, a sign and digits. -/
def exponent? : List Char → Option Int
  | [] => some 0
  | c :: rest =>
    if c = 'e' ∨ c = 'E' then
      let (negative, digits) := splitSign rest
      (natural? 10 digits).map fun n => if negative then -(n : Int) else n
    else none

/-- The finite number nearest to the decimal that the text spells, given its sign. The point may
stand before, between or after the digits. -/
def decimal? (negative : Bool) (text : List Char) : Option Binary64 := do
  let whole := text.takeWhile Char.isDigit
  let rest := text.dropWhile Char.isDigit
  let (fraction, rest) :=
    match rest with
    | '.' :: rest => (rest.takeWhile Char.isDigit, rest.dropWhile Char.isDigit)
    | rest => ([], rest)
  let digits ← natural? 10 (whole ++ fraction)
  let exponent ← exponent? rest
  Binary64.ofDecimal? negative digits (exponent - fraction.length)

/-- The floating point number that the text spells. -/
def float? (text : String) : Option Plain :=
  let (negative, unsigned) := splitSign text.toList
  if [".inf", ".Inf", ".INF"].contains (String.ofList unsigned) ∨
      [".nan", ".NaN", ".NAN"].contains text then
    some .notFinite
  else .finite <$> decimal? negative unsigned

/-- What the plain scalar stands for. -/
def meaning (text : String) : Plain :=
  if text = "" ∨ isNull text then .null
  else
    match bool? text with
    | some b => .bool b
    | none =>
      match integer? text.toList with
      | some n => n
      | none => if hasLeadingZero text.toList then .text else (float? text).getD .text

end Plain

end ApiTypes.Yaml
