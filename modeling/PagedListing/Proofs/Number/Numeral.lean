import PagedListing.Proofs.Number.Spelling

set_option autoImplicit false

/-!
# Numerals written and read

A numeral is read back as the integer it was written from, and no text is read as an integer
whose numeral could not be written.
-/

namespace PagedListing.Number

open PagedListing.Text

theorem readInt?_numeral {value : Int} (writable : isWritable value = true) :
    readInt? (numeral value) = some value :=
  readInt?_of_spelling writable (spelling_numeral value)

theorem optionalInt_map_numeral {value : Option Int}
    (writable : ∀ number ∈ value, isWritable number = true) :
    optionalInt (value.map numeral) = value := by
  cases value with
  | none => rfl
  | some number => exact optionalInt_of_spelling (writable number rfl) (spelling_numeral number)

/-- Integers whose numerals can be written are told apart by them. -/
theorem numeral_inj {value other : Int} (writable : isWritable value = true)
    (otherWritable : isWritable other = true) (same : numeral value = numeral other) :
    value = other := by
  have read := readInt?_numeral writable
  rw [same, readInt?_numeral otherWritable] at read
  exact (Option.some.inj read).symm

theorem digitValue?_lt {c : Char} {value : Nat} (digit : digitValue? c = some value) :
    value < 10 := by
  obtain ⟨start, -, found⟩ := List.exists_of_findSome?_eq_some digit
  split at found
  · have := Option.some.inj found
    omega
  · cases found

theorem ofDigits_lt {base : Nat} {values : List Nat} (small : ∀ value ∈ values, value < base) :
    ofDigits base values < base ^ values.length := by
  have folded (start bound : Nat) (below : start < bound) :
      values.foldl (fun number value => number * base + value) start <
        bound * base ^ values.length := by
    induction values generalizing start bound with
    | nil => simpa using below
    | cons value rest ih =>
        have digit := small value List.mem_cons_self
        have next : start * base + value < bound * base := by
          calc start * base + value < start * base + base := by omega
            _ = (start + 1) * base := by rw [Nat.succ_mul]
            _ ≤ bound * base := Nat.mul_le_mul_right base below
        have later := ih (fun other member => small other (List.mem_cons_of_mem value member))
          (start * base + value) (bound * base) next
        rw [List.length_cons, Nat.pow_succ', ← Nat.mul_assoc]
        exact later
  have whole := folded 0 1 Nat.one_pos
  rwa [Nat.one_mul] at whole

theorem ofDigits_values_lt (digits : List Char) :
    ofDigits 10 (digits.filterMap digitValue?) < 10 ^ digits.length := by
  have small : ∀ value ∈ digits.filterMap digitValue?, value < 10 := by
    intro value member
    obtain ⟨c, -, digit⟩ := List.mem_filterMap.mp member
    exact digitValue?_lt digit
  exact Nat.lt_of_lt_of_le (ofDigits_lt small)
    (Nat.pow_le_pow_right (by decide) (List.length_filterMap_le digitValue? digits))

/-- What is read as an integer is short enough to be written again. -/
theorem isWritable_of_readInt? {text : String} {value : Int}
    (read : readInt? text = some value) : isWritable value = true := by
  rw [isWritable_iff, Nat.pow_eq]
  unfold readInt? readInt at read
  simp only at read
  split at read
  case h_1 => cases read
  case h_2 digits grouped =>
    by_cases long : maxDigits < digits.length
    · rw [if_pos long] at read
      cases read
    · rw [if_neg long] at read
      split at read
      case isTrue => cases read
      case isFalse =>
        have magnitude : ofDigits 10 (digits.filterMap digitValue?) < 10 ^ maxDigits :=
          Nat.lt_of_lt_of_le (ofDigits_values_lt digits)
            (Nat.pow_le_pow_right (by decide) (Nat.le_of_not_lt long))
        rw [← Option.some.inj read]
        generalize 10 ^ maxDigits = limit at magnitude ⊢
        split
        · rwa [Int.natAbs_neg, Int.natAbs_natCast]
        · rwa [Int.natAbs_natCast]

theorem isWritable_of_optionalInt {text : Option String} {value : Int}
    (read : optionalInt text = some value) : isWritable value = true := by
  cases text with
  | none => cases read
  | some text =>
      unfold optionalInt at read
      simp only at read
      split at read
      · cases read
      · exact isWritable_of_readInt? read

theorem isWritable_of_le {value bound : Int} (nonneg : 0 ≤ value) (below : value ≤ bound)
    (writable : isWritable bound = true) : isWritable value = true := by
  have smaller : value.natAbs ≤ bound.natAbs := by omega
  rw [isWritable_iff] at writable ⊢
  exact Nat.lt_of_le_of_lt smaller writable

theorem isWritable_of_lt_two_pow {value : Int} (nonneg : 0 ≤ value) (small : value < 2 ^ 64) :
    isWritable value = true := by
  have magnitude : value.natAbs < 10 ^ 20 := by omega
  have limit {digits : Nat} (many : 20 ≤ digits) : Nat.pow 10 20 ≤ Nat.pow 10 digits :=
    Nat.pow_le_pow_right (by decide) many
  exact isWritable_iff.mpr (Nat.lt_of_lt_of_le magnitude (limit (by decide)))

theorem isWritable_iff_lt {value : Int} (nonneg : 0 ≤ value) :
    isWritable value = true ↔ value < 10 ^ maxDigits := by
  rw [isWritable_iff, Nat.pow_eq]
  generalize maxDigits = digits
  rw [← Int.ofNat_lt, Int.natAbs_of_nonneg nonneg, Int.natCast_pow]
  rfl

end PagedListing.Number
