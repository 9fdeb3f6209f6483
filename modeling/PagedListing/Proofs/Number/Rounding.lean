import PagedListing.Proofs.Number.Quotient

set_option autoImplicit false

/-!
# Quotients that survive rounding

A quotient that is rounded to a double and then up to an integer. Below `2 ^ 53` the doubles
lie closer than the integers, and the integer is wrong if the fraction is too small to be
seen; from there on it is wrong if it is no double itself.
-/

namespace PagedListing.Number

variable {dividend divisor : Nat}

theorem ceil_bounds (positive : 0 < divisor) :
    (dividend + (divisor - 1)) / divisor * divisor < dividend + divisor ∧
      dividend ≤ (dividend + (divisor - 1)) / divisor * divisor := by
  have split := Nat.div_add_mod' (dividend + (divisor - 1)) divisor
  have small := Nat.mod_lt (dividend + (divisor - 1)) positive
  omega

theorem ceil_lt_two (positive : 0 < divisor) (less : dividend < divisor) :
    (dividend + (divisor - 1)) / divisor < 2 := by
  rw [Nat.div_lt_iff_lt_mul positive]
  omega

theorem ceil_of_proper (positive : 0 < divisor) (proper : dividend % divisor ≠ 0) :
    (dividend + (divisor - 1)) / divisor = dividend / divisor + 1 := by
  have split := Nat.div_add_mod' dividend divisor
  have small := Nat.mod_lt dividend positive
  apply ceil_eq _ positive <;> rw [Nat.succ_mul] <;> omega

theorem ceil_of_dvd (positive : 0 < divisor) (none : dividend % divisor = 0) :
    (dividend + (divisor - 1)) / divisor = dividend / divisor := by
  have split := Nat.div_add_mod' dividend divisor
  apply ceil_eq _ positive <;> omega

theorem div_mod_of_between {numerator denominator floor : Nat}
    (least : floor * denominator ≤ numerator) (less : numerator < (floor + 1) * denominator) :
    numerator / denominator = floor ∧ numerator = floor * denominator + numerator % denominator := by
  have quotient : numerator / denominator = floor := Nat.div_eq_of_lt_le least less
  have split := Nat.div_add_mod' numerator denominator
  rw [quotient] at split
  exact ⟨quotient, split.symm⟩

/-- An integer is exceeded past the middle to the next one, and in the middle if it is odd. -/
theorem lt_divRoundEven_iff {numerator denominator bound : Nat} (positive : 0 < denominator) :
    bound < divRoundEven numerator denominator ↔
      (2 * bound + 1) * denominator < 2 * numerator ∨
        (2 * bound + 1) * denominator = 2 * numerator ∧ bound % 2 = 1 := by
  have product : (2 * bound + 1) * denominator = 2 * (bound * denominator) + denominator := by ring
  have next : (bound + 1) * denominator = bound * denominator + denominator := by ring
  rcases Nat.lt_trichotomy (2 * numerator) ((2 * bound + 1) * denominator) with
    below | middle | above
  · have most : divRoundEven numerator denominator ≤ bound := by
      rcases Nat.lt_or_ge numerator (bound * denominator) with less | least
      · exact divRoundEven_le positive less.le
      · obtain ⟨floor, split⟩ := div_mod_of_between least (by omega)
        unfold divRoundEven
        dsimp only
        rw [floor, if_pos (by omega)]
    constructor
    · intro exceeded
      omega
    · rintro (above | ⟨middle, -⟩) <;> omega
  · obtain ⟨floor, split⟩ : numerator / denominator = bound ∧ _ :=
      div_mod_of_between (by omega) (by omega)
    unfold divRoundEven
    dsimp only
    rw [floor, if_neg (by omega), if_neg (by omega)]
    omega
  · exact ⟨fun _ => .inl above, fun _ => lt_divRoundEven positive above⟩

theorem le_divRoundEven {numerator denominator bound : Nat} (positive : 0 < denominator)
    (reached : bound * denominator ≤ numerator) : bound ≤ divRoundEven numerator denominator := by
  have floor : bound ≤ numerator / denominator := (Nat.le_div_iff_mul_le positive).mpr reached
  unfold divRoundEven
  dsimp only
  split
  · exact floor
  · split <;> omega

theorem divRoundEven_eq_of_close {numerator denominator nearest : Nat}
    (positive : 0 < denominator) (below : numerator ≤ nearest * denominator)
    (close : 2 * (nearest * denominator) < 2 * numerator + denominator) :
    divRoundEven numerator denominator = nearest := by
  apply Nat.le_antisymm (divRoundEven_le positive below)
  cases nearest with
  | zero => exact Nat.zero_le _
  | succ previous =>
      apply lt_divRoundEven positive
      have middle : 2 * ((previous + 1) * denominator) =
          (2 * previous + 1) * denominator + denominator := by ring
      omega

theorem le_binaryExponent {numerator denominator power : Nat} (positive : 0 < denominator)
    (reached : 2 ^ power * denominator ≤ numerator) :
    (power : Int) ≤ binaryExponent numerator denominator := by
  have least : denominator ≤ numerator :=
    Nat.le_trans (Nat.le_mul_of_pos_left _ (Nat.two_pow_pos power)) reached
  have logs : power + denominator.log2 ≤ numerator.log2 := by
    rw [Nat.le_log2 (by omega), Nat.pow_add]
    exact Nat.le_trans (Nat.mul_le_mul_left _ (Nat.log2_self_le (by omega))) reached
  obtain ⟨guess, guessed⟩ := Nat.exists_eq_add_of_le (Nat.le_trans (Nat.le_add_left _ _) logs)
  have difference : (numerator.log2 : Int) - denominator.log2 = guess := by omega
  unfold binaryExponent
  simp only [difference, unscale_natCast]
  split
  case isTrue => omega
  case isFalse missed =>
    have higher : 2 ^ power < 2 ^ guess := by
      apply Nat.lt_of_mul_lt_mul_right (a := denominator)
      rw [Nat.mul_comm (2 ^ guess)]
      omega
    have := (Nat.pow_lt_pow_iff_right (by decide)).mp higher
    omega

theorem binaryExponent_eq_log2 {numerator denominator : Nat} (positive : 0 < denominator)
    (least : denominator ≤ numerator) :
    binaryExponent numerator denominator = ((numerator / denominator).log2 : Int) := by
  have whole : numerator / denominator ≠ 0 := (Nat.div_pos least positive).ne'
  obtain ⟨power, exponent, reached⟩ := exists_binaryExponent positive least
  have missed : numerator / denominator < 2 ^ (power + 1) := by
    rw [Nat.div_lt_iff_lt_mul positive]
    by_contra above
    have := le_binaryExponent positive (Nat.le_of_not_lt above)
    omega
  rw [exponent, (Nat.log2_eq_iff whole).mpr
    ⟨(Nat.le_div_iff_mul_le positive).mpr reached, missed⟩]

/-- Whether the fraction of a quotient is rounded up to the next integer and not lost. It is
more than half a step of the doubles around the quotient, or just half a step next to a
double with an odd significand. -/
def FractionCounts (dividend divisor : Nat) : Prop :=
  divisor < 2 ^ (53 - (dividend / divisor).log2) * (dividend % divisor) ∨
    divisor = 2 * (dividend % divisor) ∧ 2 ^ 52 ≤ dividend / divisor ∧
      dividend / divisor % 2 = 1

theorem fractionCounts_iff {places : Nat} (positive : 0 < divisor)
    (steps : (dividend / divisor).log2 + places = 52) :
    FractionCounts dividend divisor ↔
      dividend / divisor * 2 ^ places < divRoundEven (dividend * 2 ^ places) divisor := by
  have split := Nat.div_add_mod' dividend divisor
  have halves : 53 - (dividend / divisor).log2 = places + 1 := by omega
  rw [lt_divRoundEven_iff positive, FractionCounts, halves]
  generalize dividend % divisor = rest at split
  generalize dividend / divisor = whole at split steps
  have lower : (2 * (whole * 2 ^ places) + 1) * divisor =
      2 * (whole * 2 ^ places * divisor) + divisor := by ring
  have scaled : 2 * (dividend * 2 ^ places) =
      2 * (whole * 2 ^ places * divisor) + 2 ^ (places + 1) * rest := by rw [← split]; ring
  rw [lower, scaled, Nat.add_lt_add_iff_left, Nat.add_left_cancel_iff]
  refine or_congr Iff.rfl ?_
  constructor
  · rintro ⟨half, large, odd⟩
    have exponent : 52 ≤ whole.log2 := (Nat.le_log2 (by omega)).mpr large
    obtain rfl : places = 0 := by omega
    exact ⟨half, by rwa [Nat.pow_zero, Nat.mul_one]⟩
  · rintro ⟨half, odd⟩
    cases places with
    | zero =>
        rw [Nat.pow_zero, Nat.mul_one] at odd
        have large : 2 ^ 52 ≤ whole := (Nat.le_log2 (by omega)).mp (by omega)
        exact ⟨half, large, odd⟩
    | succ places =>
        rw [Nat.pow_succ, ← Nat.mul_assoc] at odd
        omega

/-- Below `2 ^ 53` a quotient becomes its whole part or the integer behind it. -/
theorem ceilQuotient?_of_whole (positive : 0 < divisor) (least : divisor ≤ dividend)
    (fine : dividend / divisor < 2 ^ 53) :
    (FractionCounts dividend divisor →
      ceilQuotient? dividend divisor = some ((dividend / divisor + 1 : Nat) : Int)) ∧
    (¬FractionCounts dividend divisor →
      ceilQuotient? dividend divisor = some ((dividend / divisor : Nat) : Int)) := by
  have whole : 0 < dividend / divisor := Nat.div_pos least positive
  have small : (dividend / divisor).log2 ≤ 52 := Nat.le_of_lt_succ ((Nat.log2_lt whole.ne').mpr fine)
  obtain ⟨places, steps⟩ := Nat.exists_eq_add_of_le small
  have exponent := binaryExponent_eq_log2 positive least
  have step : max (binaryExponent dividend divisor - 52) (-1074) = -(places : Int) := by omega
  have scaled := Nat.two_pow_pos places
  have floor : dividend / divisor * 2 ^ places * divisor ≤ dividend * 2 ^ places := by
    rw [Nat.mul_right_comm]
    exact Nat.mul_le_mul_right _ (Nat.div_mul_le_self dividend divisor)
  have next : dividend * 2 ^ places ≤ (dividend / divisor + 1) * 2 ^ places * divisor := by
    rw [Nat.mul_right_comm]
    exact Nat.mul_le_mul_right _ (Nat.lt_mul_of_div_lt (Nat.lt_succ_self _) positive).le
  rw [fractionCounts_iff positive steps.symm, ceilQuotient?_of_places (by omega) step]
  have most : divRoundEven (dividend * 2 ^ places) divisor ≤ (dividend / divisor + 1) * 2 ^ places :=
    divRoundEven_le positive next
  constructor
  · intro counts
    rw [ceil_eq (dividend / divisor + 1) scaled (by rw [Nat.succ_mul]; omega) most]
  · intro lost
    have reached := le_divRoundEven positive floor
    rw [ceil_eq (dividend / divisor) scaled (by omega) (by omega)]

theorem Double.ceil_natCast (significand steps : Nat) :
    (Double.ceil ⟨false, significand, steps⟩) = (significand * 2 ^ steps : Nat) := by
  have ratio : (Double.ratio ⟨false, significand, steps⟩) = (significand * 2 ^ steps, 1) := by
    simp only [Double.ratio]
    rw [if_pos (Int.natCast_nonneg steps), Int.toNat_natCast, Nat.pow_eq]
  rw [Double.ceil, ratio]
  exact congrArg Int.ofNat (Nat.div_one _)

theorem ceilQuotient?_of_steps {steps : Nat} (positive : 0 < dividend)
    (step : binaryExponent dividend divisor - 52 = (steps : Int)) :
    ceilQuotient? dividend divisor =
      if 971 < steps ∨ steps = 971 ∧
          divRoundEven dividend (divisor * 2 ^ steps) = 2 ^ 53 then none
      else some ((divRoundEven dividend (divisor * 2 ^ steps) * 2 ^ steps : Nat) : Int) := by
  have sign : decide ((dividend : Int) < 0) = false := by simp
  have chosen : max (binaryExponent dividend divisor - 52) (-1074) = (steps : Int) := by omega
  rw [ceilQuotient?, sign, Int.natAbs_natCast, Double.ofRatio?, if_neg (by omega)]
  simp only [chosen, unscale_natCast, Nat.pow_eq]
  split
  case isTrue overflows =>
    rw [if_pos (by omega)]
    rfl
  case isFalse fits =>
    rw [if_neg (by omega), Option.map_some, Double.ceil_natCast]

theorem between_steps {steps : Nat} (positive : 0 < divisor)
    (exponent : (dividend / divisor).log2 = 52 + steps) :
    2 ^ 52 * (divisor * 2 ^ steps) ≤ dividend ∧ dividend < 2 ^ 53 * (divisor * 2 ^ steps) := by
  have whole : dividend / divisor ≠ 0 := by
    intro none
    rw [none] at exponent
    have : Nat.log2 0 = 0 := by decide
    omega
  obtain ⟨least, less⟩ := (Nat.log2_eq_iff whole).mp exponent
  rw [Nat.le_div_iff_mul_le positive] at least
  rw [Nat.div_lt_iff_lt_mul positive] at less
  constructor
  · calc 2 ^ 52 * (divisor * 2 ^ steps) = 2 ^ (52 + steps) * divisor := by ring
      _ ≤ dividend := least
  · calc dividend < 2 ^ (52 + steps + 1) * divisor := less
      _ = 2 ^ 53 * (divisor * 2 ^ steps) := by ring

/-- From `2 ^ 53` on the doubles around a quotient are a power of two above one apart. -/
theorem exists_steps (positive : 0 < divisor) (large : 2 ^ 53 ≤ dividend / divisor) :
    ∃ steps : Nat, 0 < steps ∧
      2 ^ 52 * (divisor * 2 ^ steps) ≤ dividend ∧ dividend < 2 ^ 53 * (divisor * 2 ^ steps) ∧
      binaryExponent dividend divisor - 52 = (steps : Int) := by
  have exponent : 53 ≤ (dividend / divisor).log2 := (Nat.le_log2 (by omega)).mpr large
  obtain ⟨steps, told⟩ := Nat.exists_eq_add_of_le (Nat.le_trans (by decide : 52 ≤ 53) exponent)
  obtain ⟨least, less⟩ := between_steps positive told
  have proper : divisor ≤ dividend := by
    by_contra short
    rw [Nat.div_eq_of_lt (Nat.lt_of_not_le short)] at large
    omega
  refine ⟨steps, by omega, least, less, ?_⟩
  rw [binaryExponent_eq_log2 positive proper, told]
  omega

def IsDouble (whole : Nat) : Prop :=
  ∃ significand power, significand < 2 ^ 53 ∧ power ≤ 971 ∧ whole = significand * 2 ^ power

theorem isDouble_of_le {whole : Nat} (small : whole ≤ 2 ^ 53) : IsDouble whole := by
  rcases Nat.lt_or_eq_of_le small with less | rfl
  · exact ⟨whole, 0, less, by decide, by rw [Nat.pow_zero, Nat.mul_one]⟩
  · exact ⟨2 ^ 52, 1, by decide, by decide, by decide⟩

theorem le_power_of_reached {significand power steps : Nat} (short : significand < 2 ^ 53)
    (reached : 2 ^ 52 * 2 ^ steps ≤ significand * 2 ^ power) : steps ≤ power := by
  have powers : 2 ^ (52 + steps) < 2 ^ (53 + power) := by
    calc 2 ^ (52 + steps) = 2 ^ 52 * 2 ^ steps := Nat.pow_add 2 52 steps
      _ ≤ significand * 2 ^ power := reached
      _ < 2 ^ 53 * 2 ^ power := Nat.mul_lt_mul_of_pos_right short (Nat.two_pow_pos power)
      _ = 2 ^ (53 + power) := (Nat.pow_add 2 53 power).symm
  have exponents := (Nat.pow_lt_pow_iff_right (by decide)).mp powers
  omega

/-- From `2 ^ 53` on a quotient is rounded up to the right integer just if that is a double. -/
theorem ceilQuotient?_eq_some_iff {ceiling : Nat} (positive : 0 < divisor)
    (large : 2 ^ 53 ≤ dividend / divisor) (above : ceiling * divisor < dividend + divisor)
    (below : dividend ≤ ceiling * divisor) :
    ceilQuotient? dividend divisor = some (ceiling : Int) ↔ IsDouble ceiling := by
  obtain ⟨steps, several, least, less, step⟩ := exists_steps positive large
  have unit : 0 < divisor * 2 ^ steps := Nat.mul_pos positive (Nat.two_pow_pos steps)
  have most := divRoundEven_le unit less.le
  rw [ceilQuotient?_of_steps (by omega) step]
  constructor
  · intro rounded
    split at rounded
    · contradiction
    · rename_i fits
      have same := Int.ofNat.inj (Option.some.inj rounded)
      rcases Nat.lt_or_eq_of_le most with proper | full
      · exact ⟨_, steps, proper, by omega, same.symm⟩
      · refine ⟨2 ^ 52, steps + 1, by decide, by omega, ?_⟩
        rw [← same, full, Nat.pow_succ]
        ring
  · rintro ⟨significand, power, short, bounded, rfl⟩
    have finer : steps ≤ power := by
      apply le_power_of_reached short
      apply Nat.le_of_mul_le_mul_right _ positive
      calc 2 ^ 52 * 2 ^ steps * divisor = 2 ^ 52 * (divisor * 2 ^ steps) := by ring
        _ ≤ significand * 2 ^ power * divisor := Nat.le_trans least below
    obtain ⟨extra, rfl⟩ := Nat.exists_eq_add_of_le finer
    have product : significand * 2 ^ (steps + extra) * divisor =
        significand * 2 ^ extra * (divisor * 2 ^ steps) := by ring
    have double : 2 * divisor ≤ divisor * 2 ^ steps := by
      rw [Nat.mul_comm]
      exact Nat.mul_le_mul_left divisor (Nat.le_self_pow several.ne' 2)
    have nearest : divRoundEven dividend (divisor * 2 ^ steps) = significand * 2 ^ extra :=
      divRoundEven_eq_of_close unit (by omega) (by omega)
    rw [if_neg, nearest]
    · congr 2
      ring
    · rintro (further | ⟨last, full⟩)
      · omega
      · obtain rfl : extra = 0 := by omega
        rw [nearest, Nat.pow_zero, Nat.mul_one] at full
        omega

theorem exists_ceilQuotient?_of_lt (less : dividend < divisor) :
    ∃ whole : Nat, whole ≤ 1 ∧ ceilQuotient? dividend divisor = some (whole : Int) := by
  rcases Nat.eq_zero_or_pos dividend with rfl | proper
  · exact ⟨0, by decide, ceilQuotient?_zero divisor⟩
  · exact ceilQuotient?_of_lt proper less

theorem exists_ceilQuotient?_of_fine (positive : 0 < divisor)
    (fine : dividend / divisor < 2 ^ 53) : ∃ whole, ceilQuotient? dividend divisor = some whole := by
  rcases Nat.lt_or_ge dividend divisor with less | least
  · obtain ⟨whole, -, rounded⟩ := exists_ceilQuotient?_of_lt less
    exact ⟨whole, rounded⟩
  · obtain ⟨counted, lost⟩ := ceilQuotient?_of_whole positive least fine
    by_cases counts : FractionCounts dividend divisor
    · exact ⟨_, counted counts⟩
    · exact ⟨_, lost counts⟩

/-- The significand leaves its 53 bits at the last step, or the step is behind the last one,
just if the quotient is as far as half a step behind the greatest double. -/
theorem overflows_iff {steps top : Nat} (positive : 0 < divisor)
    (least : 2 ^ 52 * (divisor * 2 ^ steps) ≤ dividend)
    (less : dividend < 2 ^ 53 * (divisor * 2 ^ steps)) :
    (top + 1 < steps ∨ steps = top + 1 ∧ divRoundEven dividend (divisor * 2 ^ steps) = 2 ^ 53) ↔
      (2 ^ 54 - 1) * (divisor * 2 ^ top) ≤ dividend := by
  have half : 0 < divisor * 2 ^ top := Nat.mul_pos positive (Nat.two_pow_pos top)
  rcases Nat.lt_trichotomy steps (top + 1) with lower | rfl | higher
  · have finer : divisor * 2 ^ steps ≤ divisor * 2 ^ top :=
      Nat.mul_le_mul_left _ (Nat.pow_le_pow_right (by decide) (Nat.le_of_lt_succ lower))
    omega
  · have twice : divisor * 2 ^ (top + 1) = 2 * (divisor * 2 ^ top) := by ring
    rw [twice] at less ⊢
    have unit : 0 < 2 * (divisor * 2 ^ top) := by omega
    have most := divRoundEven_le unit less.le
    have last := @lt_divRoundEven_iff dividend _ (2 ^ 53 - 1) unit
    omega
  · obtain ⟨gap, rfl⟩ := Nat.exists_eq_add_of_lt higher
    have wider : 4 * (divisor * 2 ^ top) ≤ divisor * 2 ^ (top + 1 + gap + 1) := by
      calc 4 * (divisor * 2 ^ top) ≤ 4 * (divisor * 2 ^ top) * 2 ^ gap :=
            Nat.le_mul_of_pos_right _ (Nat.two_pow_pos gap)
        _ = divisor * 2 ^ (top + 1 + gap + 1) := by ring
    omega

/-- A quotient has no double near it from half a step behind the greatest double on. -/
theorem ceilQuotient?_eq_none_iff (positive : 0 < divisor) :
    ceilQuotient? dividend divisor = none ↔ (2 ^ 54 - 1) * (divisor * 2 ^ 970) ≤ dividend := by
  rcases Nat.lt_or_ge (dividend / divisor) (2 ^ 53) with fine | large
  · obtain ⟨whole, rounded⟩ := exists_ceilQuotient?_of_fine positive fine
    have less : dividend < 2 ^ 53 * divisor := (Nat.div_lt_iff_lt_mul positive).mp fine
    have wider (power : Nat) : divisor ≤ divisor * 2 ^ power :=
      Nat.le_mul_of_pos_right _ (Nat.two_pow_pos power)
    have unit := wider 970
    generalize divisor * 2 ^ 970 = unit at unit
    rw [rounded]
    constructor
    · intro none
      contradiction
    · intro far
      omega
  · obtain ⟨steps, several, least, less, step⟩ := exists_steps positive large
    rw [ceilQuotient?_of_steps (by omega) step, ← overflows_iff positive least less]
    split
    case isTrue overflows => exact ⟨fun _ => overflows, fun _ => rfl⟩
    case isFalse fits =>
      constructor
      · intro none
        contradiction
      · intro overflows
        exact absurd overflows fits

/-- Whether rounding leaves the integer alone that a quotient is rounded up to. That integer
must be a double, and a fraction above a positive integer must be seen. -/
structure Survives (dividend divisor : Nat) : Prop where
  double : IsDouble ((dividend + (divisor - 1)) / divisor)
  fraction : dividend % divisor ≠ 0 → 0 < dividend / divisor → dividend / divisor < 2 ^ 53 →
    FractionCounts dividend divisor

theorem FractionCounts.proper (positive : 0 < divisor) (counts : FractionCounts dividend divisor) :
    dividend % divisor ≠ 0 := by
  intro whole
  rcases counts with more | ⟨half, -⟩
  · rw [whole, Nat.mul_zero] at more
    omega
  · omega

theorem Survives.of_lt (positive : 0 < divisor) (less : dividend < divisor) :
    Survives dividend divisor := by
  have whole : dividend / divisor = 0 := Nat.div_eq_of_lt less
  have ceiling := ceil_lt_two positive less
  exact ⟨isDouble_of_le (by omega), fun _ several => by omega⟩

/-- Below `2 ^ 53` only a fraction that is too small to be seen can be lost. -/
theorem survives_iff_of_fine (positive : 0 < divisor) (least : divisor ≤ dividend)
    (fine : dividend / divisor < 2 ^ 53) :
    Survives dividend divisor ↔ (dividend % divisor ≠ 0 → FractionCounts dividend divisor) := by
  constructor
  · intro survives proper
    exact survives.fraction proper (Nat.div_pos least positive) fine
  · intro seen
    refine ⟨isDouble_of_le ?_, fun proper _ _ => seen proper⟩
    apply Nat.le_of_lt_succ
    rw [Nat.div_lt_iff_lt_mul positive] at fine ⊢
    omega

theorem survives_iff_of_large (positive : 0 < divisor) (large : 2 ^ 53 ≤ dividend / divisor) :
    Survives dividend divisor ↔ ceilQuotient? dividend divisor =
      some (((dividend + (divisor - 1)) / divisor : Nat) : Int) := by
  obtain ⟨above, below⟩ := ceil_bounds positive
  rw [ceilQuotient?_eq_some_iff positive large above below]
  exact ⟨Survives.double, fun double => ⟨double, fun _ _ fine => by omega⟩⟩

/-- A quotient that is rounded and then rounded up to at least one is the exact quotient
rounded up to at least one just if the latter survives. -/
theorem max_ceilQuotient?_eq_iff (positive : 0 < divisor) :
    (ceilQuotient? dividend divisor).map (max 1) =
        some (max 1 (((dividend + (divisor - 1)) / divisor : Nat) : Int)) ↔
      Survives dividend divisor := by
  rcases Nat.lt_or_ge dividend divisor with less | least
  · obtain ⟨whole, small, rounded⟩ := exists_ceilQuotient?_of_lt less
    have ceiling := ceil_lt_two positive less
    refine iff_of_true ?_ (.of_lt positive less)
    rw [rounded, Option.map_some]
    congr 1
    omega
  · rcases Nat.lt_or_ge (dividend / divisor) (2 ^ 53) with fine | large
    · have whole : 0 < dividend / divisor := Nat.div_pos least positive
      obtain ⟨counted, lost⟩ := ceilQuotient?_of_whole positive least fine
      rw [survives_iff_of_fine positive least fine]
      by_cases counts : FractionCounts dividend divisor
      · rw [counted counts, ceil_of_proper positive (counts.proper positive)]
        exact iff_of_true rfl fun _ => counts
      · rw [lost counts, Option.map_some, Option.some_inj]
        constructor
        · intro same proper
          rw [ceil_of_proper positive proper] at same
          omega
        · intro seen
          have none : dividend % divisor = 0 := by
            by_contra proper
            exact counts (seen proper)
          rw [ceil_of_dvd positive none]
    · have least : dividend / divisor ≤ (dividend + (divisor - 1)) / divisor :=
        Nat.div_le_div_right (Nat.le_add_right dividend _)
      rw [survives_iff_of_large positive large]
      cases ceilQuotient? dividend divisor with
      | none => exact iff_of_false (by simp) (by simp)
      | some rounded =>
          rw [Option.map_some, Option.some_inj, Option.some_inj]
          omega

/-- Below `2 ^ 53` it is the fraction that is lost, and nothing else. -/
theorem ceilQuotient?_of_lost (positive : 0 < divisor) (fine : dividend / divisor < 2 ^ 53)
    (lost : ¬Survives dividend divisor) :
    0 < dividend / divisor ∧
      ceilQuotient? dividend divisor = some ((dividend / divisor : Nat) : Int) := by
  have least : divisor ≤ dividend := by
    by_contra less
    exact lost (.of_lt positive (Nat.lt_of_not_le less))
  rw [survives_iff_of_fine positive least fine] at lost
  exact ⟨Nat.div_pos least positive,
    (ceilQuotient?_of_whole positive least fine).2 fun counts => lost fun _ => counts⟩

end PagedListing.Number
