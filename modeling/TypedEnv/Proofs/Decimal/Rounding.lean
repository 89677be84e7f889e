import Mathlib.Tactic.GCongr
import Mathlib.Tactic.Positivity
import Mathlib.Tactic.Ring
import TypedEnv.Decimal.Shortest
import TypedEnv.Proofs.Decimal.Digits

/-!
# What lies in a rounding interval rounds to its value

A ratio that lies in the rounding interval of a finite magnitude is read as
that magnitude.  Two places need care: a significand that is rounded up to the
next power of two carries into the exponent, and below a power of two the
interval is shorter.  Reading depends on the ratio alone and not on how it is
written, so a decimal may be written with any number of zeros at its end.
-/

namespace TypedEnv.Decimal.Binary64

/-- A quotient rounds to every number that is at most one half away from it; an odd one must be
nearer than that. -/
theorem roundHalfEven_eq {numerator denominator nearest : Nat} (positive : 0 < denominator)
    (low : 2 * nearest * denominator ≤ 2 * numerator + denominator)
    (high : 2 * numerator ≤ (2 * nearest + 1) * denominator)
    (strict : nearest % 2 = 1 → 2 * nearest * denominator < 2 * numerator + denominator ∧
      2 * numerator < (2 * nearest + 1) * denominator) :
    roundHalfEven numerator denominator = nearest := by
  have division := Nat.div_add_mod numerator denominator
  have remainder := Nat.mod_lt numerator positive
  rw [roundHalfEven]
  generalize numerator / denominator = quotient at *
  generalize numerator % denominator = rest at *
  subst division
  have notFar : nearest ≤ quotient + 1 := by
    by_contra far
    have further : (quotient + 2) * denominator ≤ nearest * denominator :=
      Nat.mul_le_mul_right _ (by omega)
    rw [Nat.add_mul, Nat.mul_comm quotient] at further
    rw [Nat.mul_assoc] at low
    omega
  have notBelow : quotient ≤ nearest := by
    by_contra below
    have further : (nearest + 1) * denominator ≤ quotient * denominator :=
      Nat.mul_le_mul_right _ (by omega)
    rw [Nat.mul_comm quotient, Nat.add_mul] at further
    rw [Nat.add_mul, Nat.mul_assoc] at high
    omega
  have either : nearest = quotient ∨ nearest = quotient + 1 := by omega
  rcases either with rfl | rfl
  · have down : ¬(denominator < 2 * rest ∨ 2 * rest = denominator ∧ nearest % 2 = 1) := by
      rw [Nat.add_mul, Nat.mul_assoc, Nat.mul_comm nearest] at high strict
      omega
    rw [if_neg down]
  · have up : denominator < 2 * rest ∨ 2 * rest = denominator ∧ quotient % 2 = 1 := by
      rw [Nat.mul_add, Nat.add_mul, Nat.mul_assoc, Nat.mul_comm quotient] at low strict
      omega
    rw [if_pos up]

variable {negative : Bool} {significand exponent : Nat}

theorem assemble_eq (canonical : Canonical significand exponent) :
    assemble negative significand exponent = .finite negative significand exponent canonical := by
  have notCarried : significand ≠ Nat.pow 2 53 := Nat.ne_of_lt canonical.1
  simp [assemble, notCarried, canonical]

/-- A significand that was rounded up to the next power of two carries into the exponent. -/
theorem assemble_carry (canonical : Canonical (Nat.pow 2 52) (exponent + 1)) :
    assemble negative (Nat.pow 2 53) exponent =
      .finite negative (Nat.pow 2 52) (exponent + 1) canonical := by
  simp only [assemble, if_true]
  rw [dif_pos canonical]

/-- The exponent that reading chooses leaves a significand of 53 bits, or is the least one. -/
theorem log2_sub_eq {scaled denominator : Nat} (positive : 0 < denominator)
    (low : exponent = 0 ∨ 2 ^ 52 * (denominator * 2 ^ exponent) ≤ scaled)
    (high : scaled < 2 ^ 53 * (denominator * 2 ^ exponent)) :
    (scaled / denominator).log2 - 52 = exponent := by
  have quotientHigh : scaled / denominator < 2 ^ (53 + exponent) := by
    rw [Nat.div_lt_iff_lt_mul positive, Nat.pow_add]
    calc
      scaled < 2 ^ 53 * (denominator * 2 ^ exponent) := high
      _ = 2 ^ 53 * 2 ^ exponent * denominator := by ring
  by_cases isZero : scaled / denominator = 0
  · rcases low with rfl | low
    · simp [isZero]
    · have atLeastOne : 0 < scaled / denominator := by
        rw [Nat.div_pos_iff]
        have power : 0 < 2 ^ exponent := Nat.two_pow_pos exponent
        have factor : denominator ≤ 2 ^ 52 * (denominator * 2 ^ exponent) := by
          calc
            denominator = 1 * (denominator * 1) := by ring
            _ ≤ 2 ^ 52 * (denominator * 2 ^ exponent) := by gcongr <;> omega
        omega
      omega
  · have belowHigh := (Nat.log2_lt isZero).mpr quotientHigh
    rcases low with rfl | low
    · omega
    · have quotientLow : 2 ^ (52 + exponent) ≤ scaled / denominator := by
        rw [Nat.le_div_iff_mul_le positive, Nat.pow_add]
        calc
          2 ^ 52 * 2 ^ exponent * denominator = 2 ^ 52 * (denominator * 2 ^ exponent) := by ring
          _ ≤ scaled := low
      have aboveLow := (Nat.le_log2 isZero).mpr quotientLow
      omega

/-- How far the lower end of a rounding interval is below the value, in quarters of its last
place. -/
def quartersBelow (significand exponent : Nat) : Nat :=
  if significand = Nat.pow 2 52 ∧ 0 < exponent then 1 else 2

theorem quartersBelow_le (significand exponent : Nat) :
    0 < quartersBelow significand exponent ∧ quartersBelow significand exponent ≤ 2 := by
  rw [quartersBelow]
  split <;> omega

theorem quarter_eq : Nat.pow 2 1076 = 4 * Nat.pow 2 1074 := by decide +kernel

/-- A ratio in a rounding interval, in units of the least magnitude. -/
theorem bounds_of_contains {numerator denominator : Nat}
    (inside : (roundingInterval significand exponent).contains numerator denominator = true) :
    (4 * significand - quartersBelow significand exponent) * (denominator * 2 ^ exponent) ≤
        4 * (numerator * Nat.pow 2 1074) ∧
      4 * (numerator * Nat.pow 2 1074) ≤ (4 * significand + 2) * (denominator * 2 ^ exponent) ∧
      (significand % 2 = 1 →
        (4 * significand - quartersBelow significand exponent) * (denominator * 2 ^ exponent) <
            4 * (numerator * Nat.pow 2 1074) ∧
          4 * (numerator * Nat.pow 2 1074) <
            (4 * significand + 2) * (denominator * 2 ^ exponent)) := by
  have units : numerator * Nat.pow 2 1076 = 4 * (numerator * Nat.pow 2 1074) := by
    rw [quarter_eq]
    generalize Nat.pow 2 1074 = unit
    ring
  have regroup : ∀ quarters,
      quarters * Nat.pow 2 exponent * denominator = quarters * (denominator * 2 ^ exponent) := by
    intro quarters
    rw [Nat.pow_eq]
    ring
  simp only [RoundingInterval.contains, roundingInterval, units, regroup] at inside
  rw [← quartersBelow] at inside
  by_cases even : significand % 2 = 0
  · simp only [even, beq_self_eq_true, if_true, Bool.and_eq_true, decide_eq_true_eq] at inside
    exact ⟨inside.1, inside.2, fun odd => by omega⟩
  · simp only [beq_eq_false_iff_ne.mpr even, if_false, Bool.and_eq_true, decide_eq_true_eq,
      Bool.false_eq_true] at inside
    exact ⟨Nat.le_of_lt inside.1, Nat.le_of_lt inside.2, fun _ => inside⟩

/-- A ratio below a power of two that is still in its rounding interval is rounded up to it. -/
theorem ofRatio_of_carry {scaled denominator : Nat}
    (canonical : Canonical (Nat.pow 2 52) (exponent + 1)) (positive : 0 < denominator)
    (low : (2 ^ 54 - 1) * (denominator * 2 ^ (exponent + 1)) ≤ 4 * scaled)
    (high : scaled < 2 ^ 52 * (denominator * 2 ^ (exponent + 1))) :
    assemble negative
        (roundHalfEven scaled (denominator * 2 ^ ((scaled / denominator).log2 - 52)))
        ((scaled / denominator).log2 - 52) =
      .finite negative (Nat.pow 2 52) (exponent + 1) canonical := by
  have unitPositive : 0 < denominator * 2 ^ exponent :=
    Nat.mul_pos positive (Nat.two_pow_pos exponent)
  have doubled : denominator * 2 ^ (exponent + 1) = 2 * (denominator * 2 ^ exponent) := by ring
  rw [doubled] at low high
  have chosen : (scaled / denominator).log2 - 52 = exponent :=
    log2_sub_eq positive (.inr (by omega)) (by omega)
  rw [chosen]
  generalize denominator * 2 ^ exponent = unit at *
  have rounded : roundHalfEven scaled unit = 2 ^ 53 :=
    roundHalfEven_eq unitPositive (by omega) (by omega) (by omega)
  rw [rounded]
  exact assemble_carry canonical

/-- A ratio rounds to a significand when it is at most two quarters of a unit away. -/
theorem roundHalfEven_of_quarters {scaled unit below : Nat} (nonzero : 0 < significand)
    (positive : 0 < unit) (few : below ≤ 2)
    (low : (4 * significand - below) * unit ≤ 4 * scaled)
    (high : 4 * scaled ≤ (4 * significand + 2) * unit)
    (strict : significand % 2 = 1 → (4 * significand - below) * unit < 4 * scaled ∧
      4 * scaled < (4 * significand + 2) * unit) :
    roundHalfEven scaled unit = significand := by
  have aboveLow : 4 * (significand * unit) = (4 * significand - below) * unit + below * unit := by
    rw [← Nat.add_mul, Nat.sub_add_cancel (by omega), Nat.mul_assoc]
  have twoQuarters : below * unit ≤ 2 * unit := Nat.mul_le_mul_right _ few
  rw [Nat.add_mul, Nat.mul_assoc] at high strict
  apply roundHalfEven_eq positive
  · rw [Nat.mul_assoc]
    omega
  · rw [Nat.add_mul, Nat.mul_assoc]
    omega
  · rw [Nat.add_mul, Nat.mul_assoc]
    omega

/-- What lies in the rounding interval of a positive magnitude is read as that magnitude. -/
theorem ofRatio_of_contains {numerator denominator : Nat}
    (canonical : Canonical significand exponent) (nonzero : 0 < significand)
    (positive : 0 < denominator)
    (inside : (roundingInterval significand exponent).contains numerator denominator = true) :
    ofRatio negative numerator denominator =
      .finite negative significand exponent canonical := by
  obtain ⟨low, high, strict⟩ := bounds_of_contains inside
  have small : significand < 2 ^ 53 := canonical.1
  have normal : 2 ^ 52 ≤ significand ∨ exponent = 0 := canonical.2.1
  unfold ofRatio
  generalize numerator * Nat.pow 2 1074 = scaled at *
  have unitPositive : 0 < denominator * 2 ^ exponent :=
    Nat.mul_pos positive (Nat.two_pow_pos exponent)
  have quarters := (quartersBelow_le significand exponent).2
  by_cases carries : 0 < exponent ∧ scaled < 2 ^ 52 * (denominator * 2 ^ exponent)
  · obtain ⟨above, below⟩ := carries
    have lowQuarters : 4 * significand - quartersBelow significand exponent < 4 * 2 ^ 52 := by
      refine Nat.lt_of_mul_lt_mul_right (a := denominator * 2 ^ exponent) ?_
      omega
    obtain rfl : significand = Nat.pow 2 52 := by
      rw [Nat.pow_eq]
      omega
    obtain ⟨less, rfl⟩ := Nat.exists_eq_add_one_of_ne_zero (Nat.ne_of_gt above)
    have one : quartersBelow (Nat.pow 2 52) (less + 1) = 1 := by simp [quartersBelow]
    rw [one] at low
    exact ofRatio_of_carry canonical positive low below
  · have belowLimit : (4 * significand + 2) * (denominator * 2 ^ exponent) <
        4 * 2 ^ 53 * (denominator * 2 ^ exponent) :=
      Nat.mul_lt_mul_of_pos_right (by omega) unitPositive
    have chosen : (scaled / denominator).log2 - 52 = exponent :=
      log2_sub_eq positive (by omega) (by omega)
    have rounded : roundHalfEven scaled (denominator * 2 ^ exponent) = significand :=
      roundHalfEven_of_quarters nonzero unitPositive quarters low high strict
    dsimp only
    rw [chosen, Nat.pow_eq, rounded]
    exact assemble_eq canonical

section Ratios

theorem roundHalfEven_mul_right (numerator denominator : Nat) {factor : Nat}
    (positive : 0 < factor) :
    roundHalfEven (numerator * factor) (denominator * factor) =
      roundHalfEven numerator denominator := by
  have quotient : numerator * factor / (denominator * factor) = numerator / denominator :=
    Nat.mul_div_mul_right _ _ positive
  have rest : numerator * factor % (denominator * factor) = numerator % denominator * factor :=
    Nat.mul_mod_mul_right _ _ _
  have above : denominator * factor < 2 * (numerator % denominator * factor) ↔
      denominator < 2 * (numerator % denominator) := by
    rw [← Nat.mul_assoc]
    exact Nat.mul_lt_mul_right positive
  have tie : 2 * (numerator % denominator * factor) = denominator * factor ↔
      2 * (numerator % denominator) = denominator := by
    rw [← Nat.mul_assoc]
    exact Nat.mul_left_inj (Nat.ne_of_gt positive)
  simp only [roundHalfEven, quotient, rest, above, tie]

theorem ofRatio_mul_right (numerator denominator : Nat) {factor : Nat} (positive : 0 < factor) :
    ofRatio negative (numerator * factor) (denominator * factor) =
      ofRatio negative numerator denominator := by
  unfold ofRatio
  generalize Nat.pow 2 1074 = unit
  have scaled : numerator * factor * unit = numerator * unit * factor := by ring
  have quotient : numerator * unit * factor / (denominator * factor) =
      numerator * unit / denominator := Nat.mul_div_mul_right _ _ positive
  dsimp only
  rw [scaled, quotient]
  generalize (numerator * unit / denominator).log2 - 52 = chosen
  have regroup : denominator * factor * Nat.pow 2 chosen =
      denominator * Nat.pow 2 chosen * factor := by ring
  rw [regroup, roundHalfEven_mul_right _ _ positive]

theorem ofRatio_congr {numerator denominator otherNumerator otherDenominator : Nat}
    (positive : 0 < denominator) (otherPositive : 0 < otherDenominator)
    (same : numerator * otherDenominator = otherNumerator * denominator) :
    ofRatio negative numerator denominator =
      ofRatio negative otherNumerator otherDenominator := by
  rw [← ofRatio_mul_right numerator denominator otherPositive, same,
    Nat.mul_comm denominator, ofRatio_mul_right _ _ positive]

end Ratios

section Decimals

/-- A decimal as a ratio; one of the two powers is one. -/
theorem ofDecimal_eq_ofRatio {coefficient : Nat} {exponent : Int} (nonzero : coefficient ≠ 0)
    (low : -400 ≤ (digitCount coefficient : Int) + exponent)
    (high : (digitCount coefficient : Int) + exponent ≤ 400) :
    ofDecimal negative coefficient exponent =
      ofRatio negative (coefficient * 10 ^ exponent.toNat) (10 ^ (-exponent).toNat) := by
  have notSmall : ¬(coefficient = 0 ∨ (digitCount coefficient : Int) + exponent < -400) := by
    omega
  have notLarge : ¬400 < (digitCount coefficient : Int) + exponent := by omega
  simp only [ofDecimal, if_neg notSmall, if_neg notLarge, Nat.pow_eq]
  split
  · next positive =>
      have noDenominator : (-exponent).toNat = 0 := by omega
      rw [noDenominator, Nat.pow_zero]
  · next isNegative =>
      have noFactor : exponent.toNat = 0 := by omega
      have denominator : (-exponent).toNat = exponent.natAbs := by omega
      rw [noFactor, denominator, Nat.pow_zero, Nat.mul_one]

/-- Zeros at the end of a coefficient make no difference when the exponent makes up for them. -/
theorem ofDecimal_mul_pow (coefficient : Nat) (exponent : Int) (zeros : Nat) :
    ofDecimal negative (coefficient * 10 ^ zeros) (exponent - zeros) =
      ofDecimal negative coefficient exponent := by
  by_cases isZero : coefficient = 0
  · simp [ofDecimal, isZero]
  · have positive := Nat.pos_of_ne_zero isZero
    have scaledNonzero : coefficient * 10 ^ zeros ≠ 0 := by
      have power : 0 < 10 ^ zeros := Nat.pow_pos (by decide)
      exact Nat.ne_of_gt (Nat.mul_pos positive power)
    have leading : (digitCount (coefficient * 10 ^ zeros) : Int) + (exponent - zeros) =
        digitCount coefficient + exponent := by
      rw [digitCount_mul_pow positive]
      omega
    by_cases low : (digitCount coefficient : Int) + exponent < -400
    · simp [ofDecimal, leading, low]
    · by_cases high : 400 < (digitCount coefficient : Int) + exponent
      · simp [ofDecimal, leading, low, high, isZero]
      · rw [ofDecimal_eq_ofRatio scaledNonzero (by omega) (by omega),
          ofDecimal_eq_ofRatio isZero (by omega) (by omega)]
        apply ofRatio_congr (Nat.pow_pos (by decide)) (Nat.pow_pos (by decide))
        have exponents : zeros + (exponent - zeros).toNat + (-exponent).toNat =
            exponent.toNat + (-(exponent - zeros)).toNat := by omega
        calc
          coefficient * 10 ^ zeros * 10 ^ (exponent - zeros).toNat * 10 ^ (-exponent).toNat =
              coefficient * 10 ^ (zeros + (exponent - zeros).toNat + (-exponent).toNat) := by
            ring
          _ = coefficient * 10 ^ (exponent.toNat + (-(exponent - zeros)).toNat) := by
            rw [exponents]
          _ = coefficient * 10 ^ exponent.toNat * 10 ^ (-(exponent - zeros)).toNat := by ring

section Range

variable {numerator denominator : Nat}

/-- What lies in the rounding interval of a positive magnitude is not too small. -/
theorem le_of_contains (nonzero : 0 < significand)
    (inside : (roundingInterval significand exponent).contains numerator denominator = true) :
    denominator ≤ numerator * 10 ^ 401 := by
  have low := (bounds_of_contains inside).1
  have few := (quartersBelow_le significand exponent).2
  have quarters : 2 ≤ 4 * significand - quartersBelow significand exponent := by omega
  have power : 1 ≤ 2 ^ exponent := Nat.one_le_two_pow
  have unitLow : 2 * Nat.pow 2 1074 ≤ 10 ^ 401 := by decide +kernel
  generalize Nat.pow 2 1074 = unit at *
  generalize 10 ^ 401 = huge at *
  have twice : 2 * denominator ≤ 2 * (numerator * huge) := by
    calc
      2 * denominator ≤ (4 * significand - quartersBelow significand exponent) *
          (denominator * 2 ^ exponent) :=
        Nat.mul_le_mul quarters (Nat.le_mul_of_pos_right _ power)
      _ ≤ 4 * (numerator * unit) := low
      _ = 2 * (numerator * (2 * unit)) := by ring
      _ ≤ 2 * (numerator * huge) := by gcongr
  omega

/-- What lies in the rounding interval of a magnitude is not too large. -/
theorem lt_of_contains (canonical : Canonical significand exponent)
    (positive : 0 < denominator)
    (inside : (roundingInterval significand exponent).contains numerator denominator = true) :
    numerator < 10 ^ 400 * denominator := by
  have high := (bounds_of_contains inside).2.1
  have small : significand < 2 ^ 53 := canonical.1
  have significandHigh : 4 * significand + 2 ≤ 2 ^ 55 := by omega
  have unitHigh : ∃ largest, 2 ^ exponent ≤ largest ∧
      2 ^ 55 * largest < 4 * 10 ^ 400 * Nat.pow 2 1074 :=
    ⟨2 ^ 2045, Nat.pow_le_pow_right (by decide) canonical.2.2, by decide +kernel⟩
  obtain ⟨largest, exponentHigh, limits⟩ := unitHigh
  generalize Nat.pow 2 1074 = unit at *
  generalize 10 ^ 400 = huge at *
  have scaled : numerator * (4 * unit) < huge * denominator * (4 * unit) := by
    calc
      numerator * (4 * unit) = 4 * (numerator * unit) := by ring
      _ ≤ (4 * significand + 2) * (denominator * 2 ^ exponent) := high
      _ ≤ 2 ^ 55 * (denominator * largest) := by gcongr
      _ = 2 ^ 55 * largest * denominator := by ring
      _ < 4 * huge * unit * denominator := by gcongr
      _ = huge * denominator * (4 * unit) := by ring
  exact Nat.lt_of_mul_lt_mul_right scaled

end Range

variable {coefficient : Nat} {scale : Int}

theorem ne_zero_of_contains {denominator : Nat} (nonzero : 0 < significand)
    (positive : 0 < denominator)
    (inside : (roundingInterval significand exponent).contains
      (coefficient * 10 ^ scale.toNat) denominator = true) : coefficient ≠ 0 := by
  rintro rfl
  have low := le_of_contains nonzero inside
  simp only [Nat.zero_mul] at low
  omega

/-- The first digit of a decimal in a rounding interval is not too far behind the point. -/
theorem leading_ge_of_contains (nonzero : 0 < significand)
    (inside : (roundingInterval significand exponent).contains
      (coefficient * 10 ^ scale.toNat) (10 ^ (-scale).toNat) = true) :
    -400 ≤ (digitCount coefficient : Int) + scale := by
  by_contra small
  have noFactor : scale.toNat = 0 := by omega
  have least := le_of_contains nonzero inside
  rw [noFactor, Nat.pow_zero, Nat.mul_one] at least
  have powers : 10 ^ (-scale).toNat < 10 ^ (digitCount coefficient + 401) := by
    calc
      10 ^ (-scale).toNat ≤ coefficient * 10 ^ 401 := least
      _ < 10 ^ digitCount coefficient * 10 ^ 401 := by
        gcongr
        exact lt_pow_digitCount coefficient
      _ = 10 ^ (digitCount coefficient + 401) := by rw [Nat.pow_add]
  have exponents := (Nat.pow_lt_pow_iff_right (by decide)).mp powers
  omega

/-- The first digit of a decimal in a rounding interval is not too far before the point. -/
theorem leading_le_of_contains (canonical : Canonical significand exponent)
    (nonzero : coefficient ≠ 0)
    (inside : (roundingInterval significand exponent).contains
      (coefficient * 10 ^ scale.toNat) (10 ^ (-scale).toNat) = true) :
    (digitCount coefficient : Int) + scale ≤ 400 := by
  have greatest := lt_of_contains canonical (Nat.pow_pos (by decide)) inside
  have powers : 10 ^ (digitCount coefficient - 1 + scale.toNat) < 10 ^ (400 + (-scale).toNat) := by
    calc
      10 ^ (digitCount coefficient - 1 + scale.toNat) =
          10 ^ (digitCount coefficient - 1) * 10 ^ scale.toNat := Nat.pow_add ..
      _ ≤ coefficient * 10 ^ scale.toNat :=
        Nat.mul_le_mul_right _ (pow_le_of_digitCount (Nat.pos_of_ne_zero nonzero))
      _ < 10 ^ 400 * 10 ^ (-scale).toNat := greatest
      _ = 10 ^ (400 + (-scale).toNat) := by rw [Nat.pow_add]
  have exponents := (Nat.pow_lt_pow_iff_right (by decide)).mp powers
  omega

/-- A decimal in the rounding interval of a positive magnitude is read as that magnitude. -/
theorem ofDecimal_of_contains (canonical : Canonical significand exponent)
    (nonzero : 0 < significand)
    (inside : (roundingInterval significand exponent).contains
      (coefficient * 10 ^ scale.toNat) (10 ^ (-scale).toNat) = true) :
    ofDecimal negative coefficient scale =
      .finite negative significand exponent canonical := by
  have denominator : 0 < 10 ^ (-scale).toNat := Nat.pow_pos (by decide)
  have coefficientNonzero := ne_zero_of_contains nonzero denominator inside
  have low := leading_ge_of_contains nonzero inside
  have high := leading_le_of_contains canonical coefficientNonzero inside
  rw [ofDecimal_eq_ofRatio coefficientNonzero low high]
  exact ofRatio_of_contains canonical nonzero denominator inside

end Decimals

end TypedEnv.Decimal.Binary64
