import PagedListing.Number.Double

set_option autoImplicit false

/-!
# Shortest decimal text of a double

Of the decimals that read back as a given double, the one with the fewest digits, and of
those the nearest. Fixed notation is used from `10 ^ -4` up to `10 ^ 16`, and a text
without exponent keeps at least one digit after the point.
-/

namespace PagedListing.Number

/-- The exponent of the greatest power of ten that does not exceed a positive fraction,
found by descending from an upper bound for it. -/
def decimalExponentFrom (numerator denominator : Nat) : Nat → Int → Int
  | 0, guess => guess
  | fuel + 1, guess =>
      let reached :=
        if 0 ≤ guess then decide (denominator * Nat.pow 10 guess.toNat ≤ numerator)
        else decide (denominator ≤ numerator * Nat.pow 10 (-guess).toNat)
      if reached then guess else decimalExponentFrom numerator denominator fuel (guess - 1)

/-- The exponent of the greatest power of ten that does not exceed a positive fraction.
Ten lies between the third and the fourth power of two, which bounds the search. -/
def decimalExponent (numerator denominator : Nat) : Int :=
  let binary := binaryExponent numerator denominator
  let upper := if 0 ≤ binary then binary / 3 + 1 else binary / 4 + 1
  decimalExponentFrom numerator denominator (binary.natAbs + 4) upper

def inUnits (numerator denominator : Nat) (exponent : Int) : Nat × Nat :=
  if 0 ≤ exponent then (numerator, denominator * Nat.pow 10 exponent.toNat)
  else (numerator * Nat.pow 10 (-exponent).toNat, denominator)

namespace Double

/-- Whether `digits * 10 ^ exponent` is read back as the magnitude of `value`. The
interval of such numbers reaches half a unit up and down, a quarter down where the
exponent changes, and includes its ends when the significand is even. -/
def readsBack (value : Double) (digits : Nat) (exponent : Int) : Bool :=
  let narrow := value.significand == Nat.pow 2 52 && -1074 < value.exponent
  let scale : Double → Nat × Nat := fun bound => inUnits bound.ratio.1 bound.ratio.2 exponent
  let low := scale
    { value with
      significand := 4 * value.significand - (if narrow then 1 else 2)
      exponent := value.exponent - 2 }
  let high := scale
    { value with significand := 4 * value.significand + 2, exponent := value.exponent - 2 }
  if value.significand % 2 = 0 then
    decide (low.1 ≤ digits * low.2) && decide (digits * high.2 ≤ high.1)
  else decide (low.1 < digits * low.2) && decide (digits * high.2 < high.1)

/-- The nearest decimal of a given precision that reads back, if the two neighbours on
that grid include one: its digits and the exponent of its last place. -/
def decimalOf? (value : Double) (leading : Int) (precision : Nat) : Option (Nat × Int) :=
  let exponent := leading - precision + 1
  let (numerator, unit) := inUnits value.ratio.1 value.ratio.2 exponent
  let below := numerator / unit
  let nearest := divRoundEven numerator unit
  let other := if nearest = below then below + 1 else below
  if value.readsBack nearest exponent then some (nearest, exponent)
  else if value.readsBack other exponent then some (other, exponent)
  else none

/-- The shortest decimal that reads back. Seventeen digits always do. -/
def shortestDecimal (value : Double) : Nat × Int :=
  let (numerator, denominator) := value.ratio
  let leading := decimalExponent numerator denominator
  ((List.range 17).findSome? fun less => value.decimalOf? leading (less + 1)).getD
    (0, 0)

end Double

def dropTrailingZeros : Nat → Nat × Int → Nat × Int
  | 0, decimal => decimal
  | fuel + 1, (digits, exponent) =>
      if digits % 10 = 0 ∧ digits ≠ 0 then dropTrailingZeros fuel (digits / 10, exponent + 1)
      else (digits, exponent)

/-- Positional digits of `digits * 10 ^ exponent`, with at least one after the point. -/
def fixedNotation (digits : List Char) (exponent : Int) : List Char :=
  if 0 ≤ exponent then digits ++ List.replicate exponent.toNat '0' ++ ['.', '0']
  else
    let fraction := (-exponent).toNat
    let padded := List.replicate (fraction + 1 - digits.length) '0' ++ digits
    let whole := padded.length - fraction
    padded.take whole ++ '.' :: padded.drop whole

def exponentText (exponent : Int) : List Char :=
  let digits := exponent.natAbs.repr.toList
  (if exponent < 0 then '-' else '+') ::
    (List.replicate (2 - digits.length) '0' ++ digits)

/-- One digit, a point and the other digits if there are any, and the exponent. -/
def exponentNotation (digits : List Char) (leading : Int) : List Char :=
  let mantissa := match digits with
    | first :: second :: rest => first :: '.' :: second :: rest
    | short => short
  mantissa ++ 'e' :: exponentText leading

def Double.text (value : Double) : List Char :=
  let magnitude :=
    if value.significand = 0 then ['0', '.', '0']
    else
      let (number, exponent) := dropTrailingZeros 20 value.shortestDecimal
      let digits := number.repr.toList
      let leading := exponent + digits.length - 1
      if -4 ≤ leading ∧ leading < 16 then fixedNotation digits exponent
      else exponentNotation digits leading
  if value.negative then '-' :: magnitude else magnitude

end PagedListing.Number
