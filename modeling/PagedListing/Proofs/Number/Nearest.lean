import PagedListing.Proofs.Number.Rounding

set_option autoImplicit false

/-!
# The double nearest to a fraction

Rounding a fraction to a double keeps it on the same side of every integer up to `2 ^ 53`. Between
two powers of two the doubles are a fixed step apart, and a fraction is rounded past one of them
only from the middle of a step on.
-/

namespace PagedListing.Number.Double

variable {negative : Bool} {numerator denominator : Nat} {value : Double}

theorem ratio_pos (value : Double) : 0 < value.ratio.2 := by
  unfold ratio
  split
  · exact Nat.one_pos
  · exact Nat.two_pow_pos _

theorem ratio_of_steps (negative : Bool) (significand steps : Nat) :
    ratio ⟨negative, significand, steps⟩ = (significand * 2 ^ steps, 1) := by
  simp only [ratio]
  rw [if_pos (Int.natCast_nonneg steps), Int.toNat_natCast, Nat.pow_eq]

theorem negative_of_ofRatio? (rounded : ofRatio? negative numerator denominator = some value) :
    value.negative = negative := by
  unfold ofRatio? at rounded
  split at rounded
  · cases rounded
    rfl
  · simp only at rounded
    split at rounded
    · cases rounded
    · cases rounded
      rfl

/-- The double of a fraction is the nearest multiple of a step that is at most one. -/
structure Rounds (numerator denominator places : Nat) (negative : Bool) (value : Double) :
    Prop where
  result : ofRatio? negative numerator denominator = some value
  ratio : value.ratio = (divRoundEven (numerator * 2 ^ places) denominator, 2 ^ places)

theorem exists_rounds_of_step {places : Nat} (proper : 0 < numerator)
    (step : max (binaryExponent numerator denominator - 52) (-1074) = -(places : Int)) :
    ∃ value, Rounds numerator denominator places negative value := by
  refine ⟨⟨negative, divRoundEven (numerator * 2 ^ places) denominator, -places⟩, ?_,
    ratio_neg_natCast _ places⟩
  rw [ofRatio?, if_neg proper.ne']
  simp only [step, unscale_neg_natCast]
  rw [if_neg (by omega)]

theorem exists_rounds_of_power {power : Nat} (negative : Bool) (positive : 0 < denominator)
    (small : power ≤ 52) (least : 2 ^ power * denominator ≤ numerator)
    (less : numerator < 2 ^ (power + 1) * denominator) :
    ∃ value, Rounds numerator denominator (52 - power) negative value := by
  have scaled := Nat.mul_pos (Nat.two_pow_pos power) positive
  have proper : denominator ≤ numerator :=
    Nat.le_trans (Nat.le_mul_of_pos_left _ (Nat.two_pow_pos power)) least
  have whole : numerator / denominator ≠ 0 := (Nat.div_pos proper positive).ne'
  have exponent : binaryExponent numerator denominator = (power : Int) := by
    rw [binaryExponent_eq_log2 positive proper, (Nat.log2_eq_iff whole).mpr
      ⟨(Nat.le_div_iff_mul_le positive).mpr least, (Nat.div_lt_iff_lt_mul positive).mpr less⟩]
  exact exists_rounds_of_step (by omega) (by omega)

/-- Below `2 ^ 53` the doubles are at most one apart. -/
theorem exists_rounds (negative : Bool) (positive : 0 < denominator)
    (fine : numerator < 2 ^ 53 * denominator) :
    ∃ places value, Rounds numerator denominator places negative value := by
  rcases Nat.eq_zero_or_pos numerator with rfl | proper
  · refine ⟨1074, { zero with negative }, rfl, ?_⟩
    rw [Nat.zero_mul, ← Nat.zero_mul denominator, divRoundEven_mul positive]
    exact ratio_neg_natCast 0 1074
  · have exponent : binaryExponent numerator denominator ≤ 52 := by
      rcases Nat.lt_or_ge numerator denominator with less | least
      · have := binaryExponent_nonpos less
        omega
      · obtain ⟨power, exponent, reached⟩ := exists_binaryExponent positive least
        have powers : 2 ^ power < 2 ^ 53 :=
          Nat.lt_of_mul_lt_mul_right (Nat.lt_of_le_of_lt reached fine)
        have := (Nat.pow_lt_pow_iff_right (by decide)).mp powers
        omega
    obtain ⟨places, step⟩ : ∃ places : Nat,
        max (binaryExponent numerator denominator - 52) (-1074) = -(places : Int) :=
      ⟨(-(max (binaryExponent numerator denominator - 52) (-1074))).toNat, by omega⟩
    exact ⟨places, exists_rounds_of_step proper step⟩

namespace Rounds

variable {places bound : Nat}

theorem le (rounds : Rounds numerator denominator places negative value)
    (positive : 0 < denominator) (below : numerator ≤ bound * denominator) :
    value.ratio.1 ≤ bound * value.ratio.2 := by
  rw [rounds.ratio]
  apply divRoundEven_le positive
  rw [Nat.mul_right_comm]
  exact Nat.mul_le_mul_right _ below

theorem ge (rounds : Rounds numerator denominator places negative value)
    (positive : 0 < denominator) (above : bound * denominator ≤ numerator) :
    bound * value.ratio.2 ≤ value.ratio.1 := by
  rw [rounds.ratio]
  apply le_divRoundEven positive
  rw [Nat.mul_right_comm]
  exact Nat.mul_le_mul_right _ above

end Rounds

/-- From `2 ^ 53` on no double is smaller. -/
theorem le_of_coarse (positive : 0 < denominator) (coarse : 2 ^ 53 * denominator ≤ numerator)
    (rounded : ofRatio? negative numerator denominator = some value) :
    2 ^ 53 * value.ratio.2 ≤ value.ratio.1 := by
  have large : 2 ^ 53 ≤ numerator / denominator := (Nat.le_div_iff_mul_le positive).mpr coarse
  obtain ⟨steps, several, least, -, step⟩ := exists_steps positive large
  have chosen : max (binaryExponent numerator denominator - 52) (-1074) = (steps : Int) := by omega
  have proper : numerator ≠ 0 := by omega
  rw [ofRatio?, if_neg proper] at rounded
  simp only [chosen, unscale_natCast] at rounded
  split at rounded
  · cases rounded
  · cases rounded
    rw [ratio_of_steps]
    have significand : 2 ^ 52 ≤ divRoundEven numerator (denominator * 2 ^ steps) :=
      le_divRoundEven (Nat.mul_pos positive (Nat.two_pow_pos steps)) least
    calc 2 ^ 53 * 1 = 2 ^ 52 * 2 ^ 1 := by decide
      _ ≤ divRoundEven numerator (denominator * 2 ^ steps) * 2 ^ steps :=
        Nat.mul_le_mul significand (Nat.pow_le_pow_right (by decide) several)

theorem le_of_ofRatio? {bound : Nat} (positive : 0 < denominator) (exact : bound ≤ 2 ^ 53)
    (above : bound * denominator ≤ numerator)
    (rounded : ofRatio? negative numerator denominator = some value) :
    bound * value.ratio.2 ≤ value.ratio.1 := by
  rcases Nat.lt_or_ge numerator (2 ^ 53 * denominator) with fine | coarse
  · obtain ⟨places, nearest, rounds⟩ := exists_rounds negative positive fine
    rw [rounds.result, Option.some_inj] at rounded
    exact rounded ▸ rounds.ge positive above
  · exact Nat.le_trans (Nat.mul_le_mul_right _ exact) (le_of_coarse positive coarse rounded)

section

variable {power significand : Nat}

/-- A fraction short of the middle behind a double is rounded to that double at most. -/
theorem exists_le_of_close (negative : Bool) (positive : 0 < denominator) (small : power ≤ 52)
    (normal : 2 ^ 52 ≤ significand) (less : numerator < 2 ^ (power + 1) * denominator)
    (close : 2 * (numerator * 2 ^ (52 - power)) < (2 * significand + 1) * denominator) :
    ∃ value, ofRatio? negative numerator denominator = some value ∧
      value.ratio.1 * 2 ^ (52 - power) ≤ significand * value.ratio.2 := by
  have scaled : 2 ^ power * 2 ^ (52 - power) = 2 ^ 52 := pow_mul_pow_sub 2 small
  rcases Nat.lt_or_ge numerator (2 ^ power * denominator) with lower | least
  · have finer : 2 ^ power ≤ 2 ^ 53 := Nat.pow_le_pow_right (by decide) (by omega)
    have fine : numerator < 2 ^ 53 * denominator :=
      Nat.lt_of_lt_of_le lower (Nat.mul_le_mul_right _ finer)
    obtain ⟨places, value, rounds⟩ := exists_rounds negative positive fine
    refine ⟨value, rounds.result, ?_⟩
    calc value.ratio.1 * 2 ^ (52 - power)
        ≤ 2 ^ power * value.ratio.2 * 2 ^ (52 - power) :=
          Nat.mul_le_mul_right _ (rounds.le positive lower.le)
      _ = 2 ^ 52 * value.ratio.2 := by rw [Nat.mul_right_comm, scaled]
      _ ≤ significand * value.ratio.2 := Nat.mul_le_mul_right _ normal
  · obtain ⟨value, rounds⟩ := exists_rounds_of_power negative positive small least less
    refine ⟨value, rounds.result, ?_⟩
    rw [rounds.ratio]
    apply Nat.mul_le_mul_right
    by_contra exceeded
    have middle := (lt_divRoundEven_iff positive).mp (Nat.lt_of_not_le exceeded)
    omega

/-- A fraction past the middle behind a double is rounded to the next one at least. -/
theorem lt_of_far (positive : 0 < denominator) (small : power ≤ 52)
    (normal : 2 ^ 52 ≤ significand) (fits : significand < 2 ^ 53)
    (far : (2 * significand + 1) * denominator < 2 * (numerator * 2 ^ (52 - power)))
    (rounded : ofRatio? negative numerator denominator = some value) :
    (significand + 1) * value.ratio.2 ≤ value.ratio.1 * 2 ^ (52 - power) := by
  have scaled : 2 ^ power * 2 ^ (52 - power) = 2 ^ 52 := pow_mul_pow_sub 2 small
  rcases Nat.lt_or_ge numerator (2 ^ (power + 1) * denominator) with less | higher
  · have least : 2 ^ power * denominator ≤ numerator := by
      apply Nat.le_of_mul_le_mul_right _ (Nat.two_pow_pos (52 - power))
      have middle : (2 * significand + 1) * denominator =
          2 * (significand * denominator) + denominator := by ring
      calc 2 ^ power * denominator * 2 ^ (52 - power) = 2 ^ 52 * denominator := by
            rw [Nat.mul_right_comm, scaled]
        _ ≤ significand * denominator := Nat.mul_le_mul_right _ normal
        _ ≤ numerator * 2 ^ (52 - power) := by omega
    obtain ⟨nearest, rounds⟩ := exists_rounds_of_power negative positive small least less
    rw [rounds.result, Option.some_inj] at rounded
    rw [← rounded, rounds.ratio]
    exact Nat.mul_le_mul_right _ (lt_divRoundEven positive far)
  · have exact : 2 ^ (power + 1) ≤ 2 ^ 53 := Nat.pow_le_pow_right (by decide) (by omega)
    have above := le_of_ofRatio? positive exact higher rounded
    calc (significand + 1) * value.ratio.2 ≤ 2 * 2 ^ 52 * value.ratio.2 :=
          Nat.mul_le_mul_right _ fits
      _ = 2 ^ (power + 1) * value.ratio.2 * 2 ^ (52 - power) := by rw [← scaled]; ring
      _ ≤ value.ratio.1 * 2 ^ (52 - power) := Nat.mul_le_mul_right _ above

end

end PagedListing.Number.Double
