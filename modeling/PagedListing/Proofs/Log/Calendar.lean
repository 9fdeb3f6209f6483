import PagedListing.Log.Time
import PagedListing.Proofs.Number.Nearest

set_option autoImplicit false

/-!
# Times in the calendar

A time is written exactly if the double it is kept as lies in the years 1 to 9999. Near both ends
of the calendar the doubles are several microseconds apart.
-/

namespace PagedListing.Log

open PagedListing.Number

/-! ## Years -/

/-- Where a year stands whose March begins an era of 400 years. -/
theorem year_ofDays_iff (days : Int) :
    (1 ≤ (Date.ofDays days).year ∧ (Date.ofDays days).year ≤ 9999) ↔
      -719162 ≤ days ∧ days ≤ 2932896 := by
  unfold Date.ofDays
  simp only [Int.fdiv_eq_ediv_of_nonneg _ (by decide : (0 : Int) ≤ 146097)]
  have split := Int.mul_ediv_add_emod (days + 719468) 146097
  have least := Int.emod_nonneg (days + 719468) (by decide : (146097 : Int) ≠ 0)
  have most := Int.emod_lt_of_pos (days + 719468) (by decide : (0 : Int) < 146097)
  generalize (days + 719468) / 146097 = era at split ⊢
  have rest : days + 719468 - era * 146097 = (days + 719468) % 146097 := by omega
  rw [rest]
  generalize (days + 719468) % 146097 = dayOfEra at split least most ⊢
  obtain rfl : days = 146097 * era + dayOfEra - 719468 := by omega
  have first : 0 ≤ (dayOfEra - dayOfEra / 1460 + dayOfEra / 36524 - dayOfEra / 146096) / 365 := by
    omega
  have last : (dayOfEra - dayOfEra / 1460 + dayOfEra / 36524 - dayOfEra / 146096) / 365 ≤ 399 := by
    omega
  rcases (by omega : era < 0 ∨ era = 0 ∨ (0 < era ∧ era < 24) ∨ era = 24 ∨ 24 < era) with
    before | rfl | inside | rfl | behind
  · split <;> split <;> omega
  · split <;> split <;> omega
  · split <;> split <;> omega
  · split <;> split <;> omega
  · split <;> split <;> omega

def InYears (whole : Int) : Prop :=
  -62135596800000000 ≤ whole ∧ whole < 253402300800000000

theorem exists_timeText_iff (whole : Int) :
    (∃ text, timeText whole = .ok text) ↔ InYears whole := by
  have years := year_ofDays_iff (whole.fdiv 86400000000)
  rw [Int.fdiv_eq_ediv_of_nonneg _ (by decide)] at years
  have days : (-719162 ≤ whole / 86400000000 ∧ whole / 86400000000 ≤ 2932896) ↔ InYears whole := by
    unfold InYears
    omega
  rw [← days, ← years, timeText, Int.fdiv_eq_ediv_of_nonneg _ (by decide)]
  constructor
  · rintro ⟨text, written⟩
    by_contra outside
    rw [if_neg outside] at written
    split at written <;> cases written
  · intro inside
    rw [if_pos inside]
    exact ⟨_, rfl⟩

theorem InYears.isClockSecond {whole : Int} (inside : InYears whole) :
    isClockSecond (whole.fdiv 1000000) = true := by
  obtain ⟨least, most⟩ := inside
  rw [Int.fdiv_eq_ediv_of_nonneg _ (by decide), Log.isClockSecond, Bool.and_eq_true,
    decide_eq_true_iff, decide_eq_true_iff, Nat.pow_eq]
  omega

theorem exists_writtenAt_iff_inYears (microseconds : Int) :
    (∃ text, writtenAt microseconds = .ok text) ↔
      ∃ seconds, secondsOf? microseconds = some seconds ∧ InYears (microsecondsOf seconds) := by
  unfold writtenAt
  cases secondsOf? microseconds with
  | none => simp
  | some seconds =>
      simp only [Option.some.injEq, exists_eq_left', ← exists_timeText_iff]
      constructor
      · rintro ⟨text, written⟩
        split at written
        · exact ⟨text, written⟩
        · cases written
      · intro written
        rwa [if_pos ((exists_timeText_iff _).mp written).isClockSecond]

/-! ## Microseconds -/

section

variable {seconds : Double} {bound : Nat}

theorem exists_fractionOf (seconds : Double) :
    ∃ places product, fractionOf seconds = divRoundEven product.ratio.1 product.ratio.2 ∧
      Double.Rounds (1000000 * (seconds.ratio.1 % seconds.ratio.2)) seconds.ratio.2 places false
        product := by
  have positive := seconds.ratio_pos
  have proper := Nat.mod_lt seconds.ratio.1 positive
  obtain ⟨places, product, rounds⟩ := Double.exists_rounds false positive
    (by omega : 1000000 * (seconds.ratio.1 % seconds.ratio.2) < 2 ^ 53 * seconds.ratio.2)
  refine ⟨places, product, ?_, rounds⟩
  rw [fractionOf]
  simp only [rounds.result]

/-- Rounding the fraction keeps it on the same side of each whole microsecond. -/
theorem fractionOf_le
    (below : 1000000 * (seconds.ratio.1 % seconds.ratio.2) ≤ bound * seconds.ratio.2) :
    fractionOf seconds ≤ bound := by
  obtain ⟨places, product, fraction, rounds⟩ := exists_fractionOf seconds
  rw [fraction]
  exact divRoundEven_le product.ratio_pos (rounds.le seconds.ratio_pos below)

theorem le_fractionOf
    (above : bound * seconds.ratio.2 ≤ 1000000 * (seconds.ratio.1 % seconds.ratio.2)) :
    bound ≤ fractionOf seconds := by
  obtain ⟨places, product, fraction, rounds⟩ := exists_fractionOf seconds
  rw [fraction]
  exact le_divRoundEven product.ratio_pos (rounds.ge seconds.ratio_pos above)

def magnitudeOf (seconds : Double) : Nat :=
  1000000 * (seconds.ratio.1 / seconds.ratio.2) + fractionOf seconds

theorem microsecondsOf_eq (seconds : Double) :
    microsecondsOf seconds =
      if seconds.negative then -(magnitudeOf seconds : Int) else magnitudeOf seconds := rfl

/-- Counted in parts of a unit, a fraction is its whole units' parts and those of its rest. -/
theorem mul_eq_of_division (parts numerator denominator : Nat) :
    parts * numerator =
      parts * (numerator / denominator) * denominator + parts * (numerator % denominator) := by
  rw [Nat.mul_assoc, ← Nat.mul_add, Nat.div_add_mod']

theorem magnitudeOf_le (below : 1000000 * seconds.ratio.1 ≤ bound * seconds.ratio.2) :
    magnitudeOf seconds ≤ bound := by
  rw [mul_eq_of_division 1000000 seconds.ratio.1 seconds.ratio.2] at below
  have reached : 1000000 * (seconds.ratio.1 / seconds.ratio.2) ≤ bound :=
    Nat.le_of_mul_le_mul_right (Nat.le_trans (Nat.le_add_right _ _) below) seconds.ratio_pos
  obtain ⟨left, split⟩ := Nat.exists_eq_add_of_le reached
  rw [split, Nat.add_mul] at below
  rw [split]
  exact Nat.add_le_add_left (fractionOf_le (Nat.le_of_add_le_add_left below)) _

theorem le_magnitudeOf (above : bound * seconds.ratio.2 ≤ 1000000 * seconds.ratio.1) :
    bound ≤ magnitudeOf seconds := by
  rw [mul_eq_of_division 1000000 seconds.ratio.1 seconds.ratio.2] at above
  rcases Nat.le_total bound (1000000 * (seconds.ratio.1 / seconds.ratio.2)) with reached | missed
  · exact Nat.le_trans reached (Nat.le_add_right _ _)
  · obtain ⟨left, split⟩ := Nat.exists_eq_add_of_le missed
    rw [split, Nat.add_mul] at above
    rw [split]
    exact Nat.add_le_add_left (le_fractionOf (Nat.le_of_add_le_add_left above)) _

theorem exists_magnitudeOf_le {count : Nat} (negative : Bool) (power significand bound : Nat)
    (small : power ≤ 52) (normal : 2 ^ 52 ≤ significand)
    (less : count < 2 ^ (power + 1) * 1000000)
    (close : 2 * (count * 2 ^ (52 - power)) < (2 * significand + 1) * 1000000)
    (covered : 1000000 * significand ≤ bound * 2 ^ (52 - power)) :
    ∃ seconds, Double.ofRatio? negative count 1000000 = some seconds ∧
      magnitudeOf seconds ≤ bound := by
  obtain ⟨seconds, rounded, below⟩ := Double.exists_le_of_close negative
    (by decide : 0 < 1000000) small normal less close
  refine ⟨seconds, rounded, magnitudeOf_le ?_⟩
  apply Nat.le_of_mul_le_mul_right _ (Nat.two_pow_pos (52 - power))
  calc 1000000 * seconds.ratio.1 * 2 ^ (52 - power)
      = 1000000 * (seconds.ratio.1 * 2 ^ (52 - power)) := Nat.mul_assoc _ _ _
    _ ≤ 1000000 * (significand * seconds.ratio.2) := Nat.mul_le_mul_left _ below
    _ = 1000000 * significand * seconds.ratio.2 := (Nat.mul_assoc _ _ _).symm
    _ ≤ bound * 2 ^ (52 - power) * seconds.ratio.2 := Nat.mul_le_mul_right _ covered
    _ = bound * seconds.ratio.2 * 2 ^ (52 - power) := Nat.mul_right_comm _ _ _

theorem le_magnitudeOf_of_far {negative : Bool} {count : Nat} (power significand bound : Nat)
    (small : power ≤ 52) (normal : 2 ^ 52 ≤ significand) (fits : significand < 2 ^ 53)
    (far : (2 * significand + 1) * 1000000 < 2 * (count * 2 ^ (52 - power)))
    (covered : bound * 2 ^ (52 - power) ≤ 1000000 * (significand + 1))
    (rounded : Double.ofRatio? negative count 1000000 = some seconds) :
    bound ≤ magnitudeOf seconds := by
  have above := Double.lt_of_far (by decide : 0 < 1000000) small normal fits far rounded
  apply le_magnitudeOf
  apply Nat.le_of_mul_le_mul_right _ (Nat.two_pow_pos (52 - power))
  calc bound * seconds.ratio.2 * 2 ^ (52 - power)
      = bound * 2 ^ (52 - power) * seconds.ratio.2 := Nat.mul_right_comm _ _ _
    _ ≤ 1000000 * (significand + 1) * seconds.ratio.2 := Nat.mul_le_mul_right _ covered
    _ = 1000000 * ((significand + 1) * seconds.ratio.2) := Nat.mul_assoc _ _ _
    _ ≤ 1000000 * (seconds.ratio.1 * 2 ^ (52 - power)) := Nat.mul_le_mul_left _ above
    _ = 1000000 * seconds.ratio.1 * 2 ^ (52 - power) := (Nat.mul_assoc _ _ _).symm

end

/-! ## The ends of the calendar -/

/-- The microseconds whose double lies in the years 1 to 9999. At both ends the doubles stand
several microseconds apart. -/
def InCalendar (microseconds : Int) : Prop :=
  -62135596800000003 ≤ microseconds ∧ microseconds ≤ 253402300799999984

instance (microseconds : Int) : Decidable (InCalendar microseconds) :=
  inferInstanceAs (Decidable (_ ∧ _))

section

variable {count : Nat} {seconds : Double}

theorem secondsOf?_natCast (count : Nat) :
    secondsOf? count = Double.ofRatio? false count 1000000 := by
  rw [secondsOf?, Int.natAbs_natCast, decide_eq_false (Int.not_lt.mpr (Int.natCast_nonneg count))]

theorem secondsOf?_neg_natCast (positive : 0 < count) :
    secondsOf? (-count) = Double.ofRatio? true count 1000000 := by
  have below : -(count : Int) < 0 := Int.neg_neg_of_pos (Int.natCast_pos.mpr positive)
  rw [secondsOf?, Int.natAbs_neg, Int.natAbs_natCast, decide_eq_true below]

theorem microsecondsOf_eq_of_after (rounded : Double.ofRatio? false count 1000000 = some seconds) :
    microsecondsOf seconds = magnitudeOf seconds := by
  rw [microsecondsOf_eq, Double.negative_of_ofRatio? rounded, if_neg Bool.false_ne_true]

theorem microsecondsOf_eq_of_before (rounded : Double.ofRatio? true count 1000000 = some seconds) :
    microsecondsOf seconds = -(magnitudeOf seconds : Int) := by
  rw [microsecondsOf_eq, Double.negative_of_ofRatio? rounded, if_pos rfl]

/-- At the start of the calendar, between `2 ^ 35` and `2 ^ 36` seconds before 1970, the doubles
are `2 ^ -17` seconds apart. -/
theorem exists_inYears_before_iff :
    (∃ seconds, Double.ofRatio? true count 1000000 = some seconds ∧
      InYears (microsecondsOf seconds)) ↔ count ≤ 62135596800000003 := by
  constructor
  · rintro ⟨seconds, rounded, least, -⟩
    rw [microsecondsOf_eq_of_before rounded] at least
    by_contra outside
    have reached := le_magnitudeOf_of_far 35 (62135596800 * 2 ^ 17) 62135596800000001
      (by decide) (by decide) (by decide) (by omega) (by decide) rounded
    omega
  · intro inside
    obtain ⟨seconds, rounded, below⟩ := exists_magnitudeOf_le true 35 (62135596800 * 2 ^ 17)
      62135596800000000 (by decide) (by decide) (by omega : count < 2 ^ 36 * 1000000) (by omega)
      (by decide)
    refine ⟨seconds, rounded, ?_⟩
    rw [microsecondsOf_eq_of_before rounded]
    exact ⟨by omega, by omega⟩

/-- At the end of the calendar, between `2 ^ 37` and `2 ^ 38` seconds after 1970, the doubles are
`2 ^ -15` seconds apart. -/
theorem exists_inYears_after_iff :
    (∃ seconds, Double.ofRatio? false count 1000000 = some seconds ∧
      InYears (microsecondsOf seconds)) ↔ count ≤ 253402300799999984 := by
  constructor
  · rintro ⟨seconds, rounded, -, most⟩
    rw [microsecondsOf_eq_of_after rounded] at most
    by_contra outside
    have reached := le_magnitudeOf_of_far 37 (253402300800 * 2 ^ 15 - 1) 253402300800000000
      (by decide) (by decide) (by decide) (by omega) (by decide) rounded
    omega
  · intro inside
    obtain ⟨seconds, rounded, below⟩ := exists_magnitudeOf_le false 37
      (253402300800 * 2 ^ 15 - 1) 253402300799999999 (by decide) (by decide)
      (by omega : count < 2 ^ 38 * 1000000) (by omega) (by decide)
    refine ⟨seconds, rounded, ?_⟩
    rw [microsecondsOf_eq_of_after rounded]
    exact ⟨by omega, by omega⟩

end

/-- A time is written exactly if it lies in the calendar. -/
theorem exists_writtenAt_iff (microseconds : Int) :
    (∃ text, writtenAt microseconds = .ok text) ↔ InCalendar microseconds := by
  rw [exists_writtenAt_iff_inYears]
  unfold InCalendar
  rcases Int.lt_or_le microseconds 0 with before | after
  · obtain ⟨count, rfl⟩ : ∃ count : Nat, microseconds = -count := ⟨microseconds.natAbs, by omega⟩
    rw [secondsOf?_neg_natCast (by omega), exists_inYears_before_iff]
    omega
  · obtain ⟨count, rfl⟩ := Int.eq_ofNat_of_zero_le after
    rw [secondsOf?_natCast, exists_inYears_after_iff]
    omega

end PagedListing.Log
