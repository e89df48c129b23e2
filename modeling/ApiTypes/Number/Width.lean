/-!
# Widths of integers

## Main definitions

* `fitsWidth` — whether an integer fits a number of bits
-/

namespace ApiTypes

/-- Whether the integer fits the number of bits, with a sign if it is negative and without one
otherwise. -/
def fitsWidth (bits : Nat) (n : Int) : Bool :=
  if n < 0 then decide (n.natAbs ≤ Nat.pow 2 (bits - 1)) else decide (n.natAbs < Nat.pow 2 bits)

end ApiTypes
