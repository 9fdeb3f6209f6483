import Mathlib.Data.Nat.Log
import Mathlib.Tactic.Ring
import PagedListing.Number.Double

set_option autoImplicit false

/-!
# Rounded quotients

A quotient that is rounded to a double and then up to an integer. Rounding never crosses an
integer while the dividend stays within `2 ^ 53`: a proper fraction above an integer is then
more than half a step of the doubles around it.
-/

namespace PagedListing.Number

theorem ceil_eq {numerator denominator : Nat} (whole : Nat) (positive : 0 < denominator)
    (above : whole * denominator < numerator + denominator)
    (below : numerator ≤ whole * denominator) :
    (numerator + (denominator - 1)) / denominator = whole := by
  apply Nat.div_eq_of_lt_le
  · omega
  · rw [Nat.succ_mul]
    omega

theorem divRoundEven_mul {denominator : Nat} (positive : 0 < denominator) (whole : Nat) :
    divRoundEven (whole * denominator) denominator = whole := by
  simp [divRoundEven, positive]

theorem divRoundEven_le {numerator denominator bound : Nat} (positive : 0 < denominator)
    (below : numerator ≤ bound * denominator) : divRoundEven numerator denominator ≤ bound := by
  have split := Nat.div_add_mod numerator denominator
  have small := Nat.mod_lt numerator positive
  have floor : numerator / denominator ≤ bound := Nat.div_le_of_le_mul (by rwa [Nat.mul_comm])
  unfold divRoundEven
  dsimp only
  rcases Nat.lt_or_eq_of_le floor with less | same
  · split
    · omega
    · split <;> omega
  · have exact : numerator % denominator = 0 := by
      rw [same, Nat.mul_comm] at split
      omega
    rw [exact, Nat.mul_zero, if_pos positive]
    exact floor

theorem lt_divRoundEven {numerator denominator bound : Nat} (positive : 0 < denominator)
    (above : (2 * bound + 1) * denominator < 2 * numerator) :
    bound < divRoundEven numerator denominator := by
  have split := Nat.div_add_mod numerator denominator
  have small := Nat.mod_lt numerator positive
  have floor : bound ≤ numerator / denominator := by
    rw [Nat.le_div_iff_mul_le positive]
    rw [Nat.add_mul, Nat.mul_assoc] at above
    omega
  unfold divRoundEven
  dsimp only
  rcases Nat.lt_or_eq_of_le floor with less | same
  · split
    · exact less
    · split <;> omega
  · have half : denominator < 2 * (numerator % denominator) := by
      rw [← same, Nat.mul_comm] at split
      rw [Nat.add_mul, Nat.mul_assoc] at above
      omega
    rw [if_neg (by omega), if_pos half]
    omega

/-- A quotient rounds up to the same integer whether or not it is first rounded to a multiple
of `1 / scale`, if such multiples are fine enough for its denominator. -/
theorem ceil_divRoundEven {numerator denominator scale : Nat} (positive : 0 < denominator)
    (scaled : 0 < scale) (fine : numerator % denominator ≠ 0 → denominator < 2 * scale) :
    (divRoundEven (numerator * scale) denominator + (scale - 1)) / scale =
      (numerator + (denominator - 1)) / denominator := by
  have split := Nat.div_add_mod' numerator denominator
  have small := Nat.mod_lt numerator positive
  generalize numerator / denominator = whole at split
  generalize numerator % denominator = rest at split small fine
  subst split
  rcases Nat.eq_zero_or_pos rest with rfl | proper
  · have product : (whole * denominator + 0) * scale = whole * scale * denominator := by ring
    rw [product, divRoundEven_mul positive, ceil_eq _ scaled (by omega) (Nat.le_refl _),
      Nat.add_zero, ceil_eq _ positive (by omega) (Nat.le_refl _)]
  · have next : (whole + 1) * denominator = whole * denominator + denominator := by ring
    have nextScaled : (whole + 1) * scale = whole * scale + scale := by ring
    have below : divRoundEven ((whole * denominator + rest) * scale) denominator ≤
        (whole + 1) * scale := by
      apply divRoundEven_le positive
      calc (whole * denominator + rest) * scale
          ≤ (whole + 1) * denominator * scale := Nat.mul_le_mul_right scale (by omega)
        _ = (whole + 1) * scale * denominator := by ring
    have above : whole * scale < divRoundEven ((whole * denominator + rest) * scale)
        denominator := by
      apply lt_divRoundEven positive
      calc (2 * (whole * scale) + 1) * denominator
          = 2 * (whole * scale * denominator) + denominator := by ring
        _ < 2 * (whole * scale * denominator) + 2 * scale := by
            have := fine (by omega)
            omega
        _ ≤ 2 * (whole * scale * denominator) + 2 * (rest * scale) := by
            have := Nat.le_mul_of_pos_left scale proper
            omega
        _ = 2 * ((whole * denominator + rest) * scale) := by ring
    have rounded := ceil_eq (whole + 1) scaled (by omega) below
    rw [rounded, ceil_eq (whole + 1) positive (by omega) (by omega)]

theorem unscale_natCast (numerator denominator power : Nat) :
    unscale numerator denominator power = (numerator, denominator * 2 ^ power) := by
  rw [unscale, if_pos (Int.natCast_nonneg power), Int.toNat_natCast, Nat.pow_eq]

theorem unscale_neg_natCast (numerator denominator power : Nat) :
    unscale numerator denominator (-power) = (numerator * 2 ^ power, denominator) := by
  cases power with
  | zero => simp [unscale]
  | succ power =>
      rw [unscale, if_neg (by omega), Int.neg_neg, Int.toNat_natCast, Nat.pow_eq]

theorem binaryExponent_nonpos {numerator denominator : Nat} (less : numerator < denominator) :
    binaryExponent numerator denominator ≤ 0 := by
  have logs : numerator.log2 ≤ denominator.log2 := by
    rw [Nat.log2_eq_log_two, Nat.log2_eq_log_two]
    exact Nat.log_mono_right less.le
  unfold binaryExponent
  dsimp only
  split <;> omega

/-- A quotient that is at least one has a power of two below it, although the logarithms may give
an exponent that is too high by one. -/
theorem exists_binaryExponent {numerator denominator : Nat} (positive : 0 < denominator)
    (least : denominator ≤ numerator) :
    ∃ power : Nat, binaryExponent numerator denominator = power ∧
      2 ^ power * denominator ≤ numerator := by
  have logs : denominator.log2 ≤ numerator.log2 := by
    rw [Nat.log2_eq_log_two, Nat.log2_eq_log_two]
    exact Nat.log_mono_right least
  obtain ⟨guess, guessed⟩ := Nat.exists_eq_add_of_le logs
  have difference : (numerator.log2 : Int) - denominator.log2 = guess := by omega
  unfold binaryExponent
  simp only [difference, unscale_natCast]
  split
  case isTrue reached => exact ⟨guess, rfl, by rwa [Nat.mul_comm]⟩
  case isFalse missed =>
    cases guess with
    | zero => omega
    | succ power =>
        refine ⟨power, by omega, ?_⟩
        calc 2 ^ power * denominator
            ≤ 2 ^ power * 2 ^ (denominator.log2 + 1) :=
              Nat.mul_le_mul_left _ Nat.lt_log2_self.le
          _ = 2 ^ numerator.log2 := by rw [← Nat.pow_add, guessed]; congr 1; omega
          _ ≤ numerator := Nat.log2_self_le (by omega)

theorem Double.ratio_neg_natCast (significand places : Nat) :
    (Double.ratio ⟨false, significand, -places⟩) = (significand, 2 ^ places) := by
  cases places with
  | zero => simp [Double.ratio]
  | succ places =>
      simp only [Double.ratio]
      rw [if_neg (by omega), Int.neg_neg, Int.toNat_natCast, Nat.pow_eq]

theorem Double.ceil_neg_natCast (significand places : Nat) :
    (Double.ceil ⟨false, significand, -places⟩) =
      ((significand + (2 ^ places - 1)) / 2 ^ places : Nat) := by
  rw [Double.ceil, Double.ratio_neg_natCast]
  rfl

/-- The nearest double of a quotient whose step is not above one, rounded up. -/
theorem ceilQuotient?_of_places {numerator denominator places : Nat} (positive : 0 < numerator)
    (step : max (binaryExponent numerator denominator - 52) (-1074) = -(places : Int)) :
    ceilQuotient? numerator denominator = some
      (((divRoundEven (numerator * 2 ^ places) denominator + (2 ^ places - 1)) / 2 ^ places :
        Nat) : Int) := by
  have sign : decide ((numerator : Int) < 0) = false := by simp
  have finite : ¬(971 < -(places : Int) ∨ (-(places : Int) = 971 ∧
      divRoundEven (numerator * 2 ^ places) denominator = Nat.pow 2 53)) := by omega
  rw [ceilQuotient?, sign, Int.natAbs_natCast, Double.ofRatio?, if_neg (by omega)]
  simp only [step, unscale_neg_natCast]
  rw [if_neg finite, Option.map_some, Double.ceil_neg_natCast]

theorem ceilQuotient?_zero (divisor : Nat) : ceilQuotient? 0 divisor = some 0 := by
  have ceil := Double.ceil_neg_natCast 0 1074
  rw [Nat.zero_add, Nat.div_eq_of_lt (by have := Nat.two_pow_pos 1074; omega)] at ceil
  exact congrArg some ceil

/-- A proper fraction is rounded up to one, or lost in the rounding. -/
theorem ceilQuotient?_of_lt {dividend divisor : Nat} (positive : 0 < dividend)
    (less : dividend < divisor) :
    ∃ whole : Nat, whole ≤ 1 ∧ ceilQuotient? dividend divisor = some (whole : Int) := by
  have exponent := binaryExponent_nonpos less
  obtain ⟨places, step⟩ : ∃ places : Nat,
      max (binaryExponent dividend divisor - 52) (-1074) = -(places : Int) :=
    ⟨(-(max (binaryExponent dividend divisor - 52) (-1074))).toNat, by omega⟩
  refine ⟨_, ?_, ceilQuotient?_of_places positive step⟩
  have rounded : divRoundEven (dividend * 2 ^ places) divisor ≤ 2 ^ places := by
    apply divRoundEven_le (by omega)
    rw [Nat.mul_comm]
    exact Nat.mul_le_mul_left _ less.le
  have scaled := Nat.two_pow_pos places
  apply Nat.le_of_lt_succ
  apply Nat.div_lt_of_lt_mul
  omega

theorem ceilQuotient?_of_ge {dividend divisor : Nat} (positive : 0 < divisor)
    (least : divisor ≤ dividend) (exact : dividend ≤ 2 ^ 53) :
    ceilQuotient? dividend divisor =
      some (((dividend + (divisor - 1)) / divisor : Nat) : Int) := by
  obtain ⟨power, exponent, reached⟩ := exists_binaryExponent positive least
  rcases Nat.lt_or_ge 52 power with large | small
  · have powers : 2 ^ 53 ≤ 2 ^ power := Nat.pow_le_pow_right (by decide) large
    have product : 2 ^ 53 * divisor ≤ 2 ^ power * divisor := Nat.mul_le_mul_right _ powers
    obtain rfl : divisor = 1 := by omega
    obtain rfl : dividend = 2 ^ 53 := by omega
    decide
  · have step : max (binaryExponent dividend divisor - 52) (-1074) =
        -((52 - power : Nat) : Int) := by omega
    rw [ceilQuotient?_of_places (by omega) step,
      ceil_divRoundEven positive (Nat.two_pow_pos _)]
    intro proper
    have floor : 2 ^ power ≤ dividend / divisor := (Nat.le_div_iff_mul_le positive).mpr reached
    have split := Nat.div_add_mod' dividend divisor
    have below : 2 ^ power * divisor < 2 ^ power * (2 * 2 ^ (52 - power)) := by
      calc 2 ^ power * divisor ≤ dividend / divisor * divisor := Nat.mul_le_mul_right _ floor
        _ < 2 ^ 53 := by omega
        _ = 2 ^ (power + (1 + (52 - power))) := by congr 1; omega
        _ = 2 ^ power * (2 * 2 ^ (52 - power)) := by rw [Nat.pow_add, Nat.pow_add, Nat.pow_one]
    exact Nat.lt_of_mul_lt_mul_left below

/-- Up to `2 ^ 53` the rounded quotient, rounded up to at least one, is the exact quotient
rounded up to at least one. -/
theorem max_ceilQuotient? {dividend divisor : Nat} (positive : 0 < divisor)
    (exact : dividend ≤ 2 ^ 53) :
    (ceilQuotient? dividend divisor).map (max 1) =
      some (max 1 (((dividend + (divisor - 1)) / divisor : Nat) : Int)) := by
  rcases Nat.eq_zero_or_pos dividend with rfl | proper
  · rw [Nat.zero_add, Nat.div_eq_of_lt (by omega)]
    exact congrArg (Option.map (max 1)) (ceilQuotient?_zero divisor)
  · rcases Nat.lt_or_ge dividend divisor with less | least
    · obtain ⟨whole, small, rounded⟩ := ceilQuotient?_of_lt proper less
      rw [rounded, ceil_eq 1 positive (by omega) (by omega), Option.map_some]
      congr 1
      omega
    · rw [ceilQuotient?_of_ge positive least exact, Option.map_some]

end PagedListing.Number
