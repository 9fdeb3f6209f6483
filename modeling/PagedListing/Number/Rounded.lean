import PagedListing.Number.Shortest

set_option autoImplicit false

/-!
# Rounded decimal text of a double

The magnitude of a double with a given number of digits, rounded from its exact value
with ties going to the even digit. The sign is left to the caller.
-/

namespace PagedListing.Number

namespace Double

/-- Digits before a point and a given number of them after it. A point without digits
after it is written only on demand. -/
def placesText (keepPoint : Bool) (places : Nat) (digits : List Char) : List Char :=
  let padded := List.replicate (places + 1 - digits.length) '0' ++ digits
  let whole := padded.length - places
  if places = 0 then padded ++ (if keepPoint then ['.'] else [])
  else padded.take whole ++ '.' :: padded.drop whole

def fixedText (keepPoint : Bool) (places : Nat) (value : Double) : List Char :=
  let (numerator, unit) := inUnits value.ratio.1 value.ratio.2 (-places)
  placesText keepPoint places (divRoundEven numerator unit).repr.toList

/-- The number with a given positive count of digits that is nearest to a double, and
the exponent of its first digit. -/
def significantDigits (count : Nat) (value : Double) : List Char × Int :=
  if value.significand = 0 then (List.replicate count '0', 0)
  else
    let leading := decimalExponent value.ratio.1 value.ratio.2
    let (numerator, unit) := inUnits value.ratio.1 value.ratio.2 (leading - count + 1)
    let digits := (divRoundEven numerator unit).repr.toList
    if digits.length = count then (digits, leading) else (digits.take count, leading + 1)

/-- One digit before the point, a given number of them after it, and an exponent. -/
def scientificText (keepPoint : Bool) (places : Nat) (value : Double) : List Char :=
  let (digits, leading) := value.significantDigits (places + 1)
  placesText keepPoint places digits ++ 'e' :: exponentText leading

def dropZeros (text : List Char) : List Char :=
  if '.' ∈ text then
    let trimmed := (text.reverse.dropWhile (· = '0')).reverse
    if trimmed.getLast? = some '.' then trimmed.dropLast else trimmed
  else text

/-- More digits than the exact value of any double has. -/
def exactDigits : Nat := 1100

/-- A given number of digits in all, positional unless the number is very small or has
more digits before the point. Zeros at the end are kept only on demand. -/
def generalText (keepZeros : Bool) (precision : Nat) (value : Double) : List Char :=
  let count := max (if keepZeros then precision else min precision exactDigits) 1
  let (digits, leading) := value.significantDigits count
  let tidy := fun text => if keepZeros then text else dropZeros text
  if -4 ≤ leading ∧ leading < count then
    tidy (placesText keepZeros (count - 1 - leading).toNat digits)
  else tidy (placesText keepZeros (count - 1) digits) ++ 'e' :: exponentText leading

end Double

end PagedListing.Number
