import ApiTypes.Number.Binary64

/-!
# The shortest decimal of a binary number

Of the decimals that round to a given binary number, one has the fewest digits; where several
have, the nearest to the number is taken, and of two at the same distance the even one. The
search goes through the decimal grids from the coarsest on and tests the two neighbours of the
number on each grid, in exact arithmetic.

## Main definitions

* `Binary64.shortest` — the digits and the power of ten
* `Binary64.text` — the number as a text
-/

namespace ApiTypes

namespace Binary64

/-- A number between its two rounding limits, all three over one denominator: the decimals that
round to the number lie between the limits, which count only if `closed`. -/
structure Interval where
  low : Nat
  value : Nat
  high : Nat
  den : Nat
  closed : Bool

/-- The decimals that round to the number. The lower limit is nearer at a power of two, where
the numbers below lie closer together. -/
def interval (x : Binary64) : Interval :=
  let narrow := x.significand = Nat.pow 2 52 ∧ minExponent < x.exponent
  let low := 4 * x.significand - (if narrow then 1 else 2)
  let value := 4 * x.significand
  let high := 4 * x.significand + 2
  let closed := x.significand % 2 = 0
  let exponent := x.exponent - 2
  if 0 ≤ exponent then
    let unit := Nat.pow 2 exponent.toNat
    ⟨low * unit, value * unit, high * unit, 1, closed⟩
  else
    ⟨low, value, high, Nat.pow 2 (-exponent).toNat, closed⟩

/-- The interval in units of `10 ^ power`. -/
def Interval.inUnits (i : Interval) (power : Int) : Interval :=
  if 0 ≤ power then { i with den := i.den * Nat.pow 10 power.toNat }
  else
    let unit := Nat.pow 10 (-power).toNat
    { i with low := i.low * unit, value := i.value * unit, high := i.high * unit }

/-- Whether the whole number lies in the interval. -/
def Interval.holds (i : Interval) (n : Nat) : Bool :=
  if i.closed then decide (i.low ≤ n * i.den) && decide (n * i.den ≤ i.high)
  else decide (i.low < n * i.den) && decide (n * i.den < i.high)

/-- The whole number in the interval that is nearest to the value, if one of its two neighbours
lies in the interval. -/
def Interval.nearest? (i : Interval) : Option Nat :=
  let below := i.value / i.den
  let above := below + 1
  match i.holds below && below != 0, i.holds above with
  | true, true =>
    let left := i.value - below * i.den
    let right := above * i.den - i.value
    if left < right then some below
    else if right < left then some above
    else if below % 2 = 0 then some below else some above
  | true, false => some below
  | false, true => some above
  | false, false => none

/-- Tries the powers of ten from `power` down. -/
def searchFrom (i : Interval) (power : Int) : Nat → Nat × Int
  | 0 => (i.value / i.den, 0)
  | fuel + 1 =>
    match (i.inUnits power).nearest? with
    | some n => (n, power)
    | none => searchFrom i (power - 1) fuel

/-- A power of ten above the value. -/
def startPower (i : Interval) : Int :=
  if i.den ≤ i.value then (Nat.toDigits 10 (i.value / i.den)).length
  else 2 - (Nat.toDigits 10 (i.den / i.value)).length

/-- The digits and the power of ten of the shortest decimal of a number other than zero. -/
def shortest (x : Binary64) : Nat × Int :=
  let i := interval x
  searchFrom i (startPower i) 25

/-- Decimal digits with the point after the first `whole` of them. Positions on either side
that the digits do not reach are filled with zeros, and each side has a digit. -/
def positional (digits : List Char) (whole : Int) : List Char :=
  if whole ≤ 0 then ['0', '.'] ++ List.replicate (-whole).toNat '0' ++ digits
  else
    let n := whole.toNat
    if digits.length ≤ n then digits ++ List.replicate (n - digits.length) '0' ++ ['.', '0']
    else digits.take n ++ '.' :: digits.drop n

/-- One digit before the point, and the power of ten with its sign. -/
def scientific (digits : List Char) (whole : Int) : List Char :=
  let power := whole - 1
  let mantissa :=
    match digits with
    | first :: second :: rest => first :: '.' :: second :: rest
    | digits => digits
  mantissa ++ 'e' :: (if 0 ≤ power then '+' else '-') :: Nat.toDigits 10 power.natAbs

/-- The digits of the number's magnitude: positional from `10 ^ -5` up to below `10 ^ 16`, else
scientific. -/
def magnitudeText (x : Binary64) : List Char :=
  if x.significand = 0 then ['0', '.', '0']
  else
    let (n, power) := shortest x
    let digits := Nat.toDigits 10 n
    let whole := digits.length + power
    if -5 < whole ∧ whole ≤ 16 then positional digits whole else scientific digits whole

/-- The shortest text that reads back as the number. -/
def text (x : Binary64) : String :=
  String.ofList ((if x.negative then ['-'] else []) ++ magnitudeText x)

end Binary64

end ApiTypes
