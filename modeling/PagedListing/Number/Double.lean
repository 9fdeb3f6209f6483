set_option autoImplicit false

/-!
# Double-precision rounding

The nearest double of a quotient, ties going to the even significand, in exact integer
arithmetic. A double is kept as `± significand * 2 ^ exponent`.
-/

namespace PagedListing.Number

/-- A finite double: at most 53 bits, and an exponent of at least -1074. -/
structure Double where
  negative : Bool
  significand : Nat
  exponent : Int
deriving DecidableEq, Repr

/-- The nearest integer to a quotient, a half going to the even neighbour. -/
def divRoundEven (numerator denominator : Nat) : Nat :=
  let quotient := numerator / denominator
  let twice := 2 * (numerator % denominator)
  if twice < denominator then quotient
  else if denominator < twice then quotient + 1
  else quotient + quotient % 2

/-- Numerator and denominator of a fraction divided by `2 ^ exponent`. -/
def unscale (numerator denominator : Nat) (exponent : Int) : Nat × Nat :=
  if 0 ≤ exponent then (numerator, denominator * Nat.pow 2 exponent.toNat)
  else (numerator * Nat.pow 2 (-exponent).toNat, denominator)

/-- The exponent of the greatest power of two that does not exceed a positive fraction. -/
def binaryExponent (numerator denominator : Nat) : Int :=
  let guess : Int := numerator.log2 - denominator.log2
  let (scaled, unit) := unscale numerator denominator guess
  if unit ≤ scaled then guess else guess - 1

namespace Double

def zero : Double := ⟨false, 0, -1074⟩

/-- The nearest double of a fraction with a positive denominator; `none` when the
fraction is too large for any finite double. -/
def ofRatio? (negative : Bool) (numerator denominator : Nat) : Option Double :=
  if numerator = 0 then some { zero with negative }
  else
    let exponent := max (binaryExponent numerator denominator - 52) (-1074)
    let (scaled, unit) := unscale numerator denominator exponent
    let significand := divRoundEven scaled unit
    if 971 < exponent ∨ (exponent = 971 ∧ significand = Nat.pow 2 53) then none
    else some ⟨negative, significand, exponent⟩

def ratio (value : Double) : Nat × Nat :=
  if 0 ≤ value.exponent then (value.significand * Nat.pow 2 value.exponent.toNat, 1)
  else (value.significand, Nat.pow 2 (-value.exponent).toNat)

def ceil (value : Double) : Int :=
  let (numerator, denominator) := value.ratio
  if value.negative then -(numerator / denominator : Nat)
  else ((numerator + (denominator - 1)) / denominator : Nat)

def truncate (value : Double) : Int :=
  let (numerator, denominator) := value.ratio
  if value.negative then -(numerator / denominator : Nat) else (numerator / denominator : Nat)

def isIntegral (value : Double) : Bool :=
  let (numerator, denominator) := value.ratio
  numerator % denominator == 0

def ofInt? (value : Int) : Option Double := ofRatio? (value < 0) value.natAbs 1

def div? (dividend divisor : Double) : Option Double :=
  let (numerator, denominator) := dividend.ratio
  let (divisorNumerator, divisorDenominator) := divisor.ratio
  ofRatio? (dividend.negative != divisor.negative)
    (numerator * divisorDenominator) (denominator * divisorNumerator)

end Double

/-- The least integer that is not below the double nearest to a quotient, for a positive
divisor; `none` when no finite double is near. -/
def ceilQuotient? (dividend : Int) (divisor : Nat) : Option Int :=
  (Double.ofRatio? (dividend < 0) dividend.natAbs divisor).map Double.ceil

end PagedListing.Number
