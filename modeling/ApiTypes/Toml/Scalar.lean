import ApiTypes.Number.Width
import ApiTypes.Toml

/-!
# Bare TOML scalars

A value without quotes or brackets is a boolean, a number, or a date, a time of day, or both.
Underscores may stand between digits. Numbers past every range are refused.

## Main definitions

* `Toml.scalar?` — the value that a bare word spells
-/

namespace ApiTypes.Toml

/-- The value of a digit in a base of up to sixteen. -/
def digit? (base : Nat) (c : Char) : Option Nat :=
  let value :=
    if c.isDigit then c.toNat - 48
    else if 'a' ≤ c ∧ c ≤ 'f' then c.toNat - 87
    else if 'A' ≤ c ∧ c ≤ 'F' then c.toNat - 55
    else base
  if value < base then some value else none

/-- Reads digits on, where `n` is their value so far and a digit came last. An underscore must
stand between two digits. -/
def digitsFrom (base n : Nat) : List Char → Option Nat
  | [] => some n
  | '_' :: c :: rest => (digit? base c).bind fun d => digitsFrom base (base * n + d) rest
  | c :: rest => (digit? base c).bind fun d => digitsFrom base (base * n + d) rest

/-- The number that digits spell. There must be one. -/
def digits? (base : Nat) : List Char → Option Nat
  | [] => none
  | c :: rest => (digit? base c).bind fun d => digitsFrom base d rest

/-- The number that decimal digits spell. A zero stands in front of no other digit. -/
def decimal? : List Char → Option Nat
  | '0' :: _ :: _ => none
  | digits => digits? 10 digits

/-- Splits off a sign: whether it is a minus, and the rest. -/
def splitSign : List Char → Bool × List Char
  | '-' :: rest => (true, rest)
  | '+' :: rest => (false, rest)
  | unsigned => (false, unsigned)

/-- The integer that a word spells: decimal with or without a sign, or unsigned in another
base. -/
def integer? : List Char → Option Int
  | '0' :: 'x' :: digits => (digits? 16 digits).map Int.ofNat
  | '0' :: 'o' :: digits => (digits? 8 digits).map Int.ofNat
  | '0' :: 'b' :: digits => (digits? 2 digits).map Int.ofNat
  | word =>
    let (negative, digits) := splitSign word
    (decimal? digits).map fun n => if negative then -(n : Int) else n

/-- Whether the text is an exponent: a mark, a sign if need be, and digits. -/
def isExponent : List Char → Bool
  | c :: rest => (c == 'e' || c == 'E') && (digits? 10 (splitSign rest).2).isSome
  | [] => false

/-- Whether a word spells a number with a fraction or an exponent, or one of the names for what
is not finite. -/
def isFloat (word : List Char) : Bool :=
  let unsigned := (splitSign word).2
  if unsigned = "inf".toList ∨ unsigned = "nan".toList then true
  else
    let inNumber (c : Char) : Bool := c.isDigit || c == '_'
    let whole := unsigned.takeWhile inNumber
    let rest := unsigned.dropWhile inNumber
    (decimal? whole).isSome &&
      match rest with
      | '.' :: rest =>
        let fraction := rest.takeWhile inNumber
        let rest := rest.dropWhile inNumber
        (digits? 10 fraction).isSome && (rest == [] || isExponent rest)
      | rest => isExponent rest

/-- The number that two digits spell, at the front of a text. -/
def twoDigits : List Char → Option (Nat × List Char)
  | a :: b :: rest =>
    if a.isDigit ∧ b.isDigit then some (10 * (a.toNat - 48) + (b.toNat - 48), rest) else none
  | _ => none

/-- The number of days of a month. -/
def daysOf (year month : Nat) : Nat :=
  if month = 2 then
    if year % 4 = 0 ∧ (year % 100 ≠ 0 ∨ year % 400 = 0) then 29 else 28
  else if [4, 6, 9, 11].contains month then 30
  else 31

/-- What follows a date at the front of a text. -/
def afterDate (text : List Char) : Option (List Char) := do
  let (century, text) ← twoDigits text
  let (year, text) ← twoDigits text
  let '-' :: text := text | none
  let (month, text) ← twoDigits text
  let '-' :: text := text | none
  let (day, text) ← twoDigits text
  if 1 ≤ month ∧ month ≤ 12 ∧ 1 ≤ day ∧ day ≤ daysOf (100 * century + year) month then
    some text
  else none

/-- What follows the fraction of a second, if there is one. -/
def afterFraction : List Char → Option (List Char)
  | '.' :: c :: rest => if c.isDigit then some (rest.dropWhile Char.isDigit) else none
  | '.' :: [] => none
  | text => some text

/-- What follows a time of day at the front of a text. Seconds may be left out. -/
def afterTime (text : List Char) : Option (List Char) := do
  let (hour, text) ← twoDigits text
  let ':' :: text := text | none
  let (minute, text) ← twoDigits text
  if hour ≤ 23 ∧ minute ≤ 59 then
    match text with
    | ':' :: text =>
      let (second, text) ← twoDigits text
      if second ≤ 60 then afterFraction text else none
    | text => some text
  else none

/-- Whether a text is a distance from universal time. -/
def isOffset : List Char → Bool
  | ['Z'] | ['z'] => true
  | c :: rest =>
    (c == '+' || c == '-') &&
      match twoDigits rest with
      | some (hour, ':' :: rest) =>
        match twoDigits rest with
        | some (minute, []) => decide (hour ≤ 23) && decide (minute ≤ 59)
        | _ => false
      | _ => false
  | [] => false

/-- Whether a word spells a date, a time of day, or both. -/
def isDateTime (word : List Char) : Bool :=
  match afterDate word with
  | some [] => true
  | some (c :: time) =>
    (c == 'T' || c == 't' || c == ' ') &&
      match afterTime time with
      | some rest => rest == [] || isOffset rest
      | none => false
  | none => afterTime word == some []

/-- The value that a bare word spells. -/
def scalar? (word : List Char) : Option Value :=
  if word = "true".toList then some (.boolean true)
  else if word = "false".toList then some (.boolean false)
  else
    match integer? word with
    | some n => if fitsWidth 128 n then some (.integer n) else none
    | none =>
      if isFloat word then some .float
      else if isDateTime word then some .dateTime
      else none

end ApiTypes.Toml
