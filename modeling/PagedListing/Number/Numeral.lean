set_option autoImplicit false

/-!
# Decimal numerals

Integers as text: a minus sign if negative, then decimal digits without leading zeros.
Numerals of more than `maxDigits` digits are neither written nor read.
-/

namespace PagedListing.Number

def maxDigits : Nat := 4300

/-- The numeral of an integer, however long. -/
def numeral (value : Int) : String :=
  if value < 0 then "-" ++ value.natAbs.repr else value.natAbs.repr

/-- Whether the numeral of an integer stays within `maxDigits`. -/
def isWritable (value : Int) : Bool := value.natAbs < Nat.pow 10 maxDigits

def numeral? (value : Int) : Option String :=
  if isWritable value then some (numeral value) else none

theorem isWritable_iff {value : Int} :
    isWritable value = true ↔ value.natAbs < Nat.pow 10 maxDigits := by
  rw [isWritable, decide_eq_true_iff]

/-- The writable integers are those whose numerals have at most `maxDigits` digits. -/
theorem isWritable_iff_length {value : Int} :
    isWritable value = true ↔ value.natAbs.repr.length ≤ maxDigits := by
  rw [Nat.length_repr_le_iff (by decide), isWritable_iff, Nat.pow_eq]

end PagedListing.Number
