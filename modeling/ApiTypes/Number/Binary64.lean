/-!
# Binary floating point numbers

The finite numbers of the 64 bit binary format, held exactly: a sign, a significand of at most
53 binary digits and a power of two. All arithmetic is on natural numbers.

## Main definitions

* `Binary64` — the number `± significand * 2 ^ exponent`
* `Binary64.ofDecimal?` — the number nearest to a decimal, unless that is out of range
-/

namespace ApiTypes

/-- The number `± significand * 2 ^ exponent`. The numbers that `ofDecimal?` gives have a
significand below `2 ^ 53` and an exponent of at least `-1074`, with the significand at least
`2 ^ 52` unless the exponent is `-1074`. -/
structure Binary64 where
  negative : Bool
  significand : Nat
  exponent : Int
deriving DecidableEq, Repr

namespace Binary64

/-- The least exponent of the format. -/
def minExponent : Int := -1074

/-- The greatest exponent of the format. -/
def maxExponent : Int := 971

/-- The zero with the given sign. -/
def zero (negative : Bool) : Binary64 := ⟨negative, 0, minExponent⟩

/-- The whole number nearest to `num / den`; a tie goes to the even one. -/
def roundDiv (num den : Nat) : Nat :=
  let quotient := num / den
  let twice := 2 * (num % den)
  if den < twice ∨ (twice = den ∧ quotient % 2 = 1) then quotient + 1 else quotient

/-- The significand of `num / den` at the given exponent, as a fraction. -/
def scaled (num den : Nat) (exponent : Int) : Nat × Nat :=
  if 0 ≤ exponent then (num, den * Nat.pow 2 exponent.toNat)
  else (num * Nat.pow 2 (-exponent).toNat, den)

/-- The exponent at which the significand of `num / den` has 53 binary digits, or the least
exponent if that is larger. -/
def exponentFor (num den : Nat) : Int :=
  let low : Int := (num.log2 : Int) - den.log2 - 53
  let (n, d) := scaled num den low
  max minExponent (if Nat.pow 2 53 * d ≤ n then low + 1 else low)

/-- The number nearest to `± num / den`, `none` past the range of the format. -/
def ofRatio? (negative : Bool) (num den : Nat) : Option Binary64 :=
  let exponent := exponentFor num den
  let (n, d) := scaled num den exponent
  let significand := roundDiv n d
  let (significand, exponent) :=
    if significand = Nat.pow 2 53 then (Nat.pow 2 52, exponent + 1) else (significand, exponent)
  if maxExponent < exponent then none else some ⟨negative, significand, exponent⟩

/-- The number nearest to `± digits * 10 ^ scale`, `none` past the range of the format. A decimal
of `n` digits lies between `10 ^ (n - 1 + scale)` and `10 ^ (n + scale)`, so that one far out of
range or far too small is told by its length alone. -/
def ofDecimal? (negative : Bool) (digits : Nat) (scale : Int) : Option Binary64 :=
  let length := (Nat.toDigits 10 digits).length
  if digits = 0 then some (zero negative)
  else if 310 < length + scale then none
  else if length + scale < -330 then some (zero negative)
  else if 0 ≤ scale then ofRatio? negative (digits * Nat.pow 10 scale.toNat) 1
  else ofRatio? negative digits (Nat.pow 10 (-scale).toNat)

end Binary64

end ApiTypes
