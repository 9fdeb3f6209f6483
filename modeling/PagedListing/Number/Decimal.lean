import PagedListing.Number.Double

set_option autoImplicit false

/-!
# Decimal fractions

A number written with a point or an exponent, kept as its sign, its digits and the power
of ten that scales them, so that writing it back loses nothing.
-/

namespace PagedListing.Number

/-- The number `± digits * 10 ^ exponent`. -/
structure Decimal where
  negative : Bool
  digits : Nat
  exponent : Int
deriving DecidableEq, Repr

namespace Decimal

/-- A number that is too large for every double, which stands for infinity. -/
def infinite (negative : Bool) : Decimal := ⟨negative, 1, 309⟩

/-- The number of digits in front of the point: the number lies below `10 ^ places`. -/
def places (value : Decimal) : Int := value.digits.repr.length + value.exponent

/-- The nearest double; `none` when the number is too large for one. A number whose
places lie outside the range of doubles is settled without computing the power of ten. -/
def toDouble? (value : Decimal) : Option Double :=
  if value.digits = 0 ∨ value.places < -330 then
    some { Double.zero with negative := value.negative }
  else if 310 < value.places then none
  else if 0 ≤ value.exponent then
    Double.ofRatio? value.negative (value.digits * Nat.pow 10 value.exponent.toNat) 1
  else Double.ofRatio? value.negative value.digits (Nat.pow 10 (-value.exponent).toNat)

def isInfinite (value : Decimal) : Bool := value.toDouble?.isNone

def isZero (value : Decimal) : Bool := value.digits == 0

end Decimal

end PagedListing.Number
