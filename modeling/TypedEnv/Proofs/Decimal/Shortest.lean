import Mathlib.Data.List.TakeWhile
import TypedEnv.Proofs.Decimal.Rounding

/-!
# The shortest decimal lies in the rounding interval

A grid of decimals meets every interval that is longer than its step.  With
seventeen digits the step is shorter than each rounding interval, so the search
for the fewest digits always ends with a decimal that is read as the value.
-/

namespace TypedEnv.Decimal

namespace RoundingInterval

variable {interval : RoundingInterval} {scale : Int} {chosen : Nat}

theorem up_eq (scale : Int) :
    (if 0 ≤ scale then Nat.pow 10 scale.toNat else 1) = 10 ^ scale.toNat := by
  split
  · rfl
  · next negative =>
      have none : scale.toNat = 0 := by omega
      rw [none, Nat.pow_zero]

theorem down_eq (scale : Int) :
    (if 0 ≤ scale then 1 else Nat.pow 10 scale.natAbs) = 10 ^ (-scale).toNat := by
  split
  · next positive =>
      have none : (-scale).toNat = 0 := by omega
      rw [none, Nat.pow_zero]
  · have same : scale.natAbs = (-scale).toNat := by omega
    rw [same, Nat.pow_eq]

/-- The multiple of a power of ten that is nearest below the value. -/
def below (interval : RoundingInterval) (scale : Int) : Nat :=
  interval.value * 10 ^ (-scale).toNat / (interval.denominator * 10 ^ scale.toNat)

/-- Whether a multiple of a power of ten lies in the interval. -/
def fits (interval : RoundingInterval) (scale : Int) (multiple : Nat) : Bool :=
  interval.contains (multiple * 10 ^ scale.toNat) (10 ^ (-scale).toNat)

theorem onGrid?_eq (interval : RoundingInterval) (scale : Int) :
    interval.onGrid? scale =
      if interval.fits scale (interval.below scale) &&
          (!interval.fits scale (interval.below scale + 1) ||
            2 * (interval.value * 10 ^ (-scale).toNat %
              (interval.denominator * 10 ^ scale.toNat)) <
                interval.denominator * 10 ^ scale.toNat) then
        some (interval.below scale)
      else if interval.fits scale (interval.below scale + 1) then some (interval.below scale + 1)
      else none := by
  simp only [onGrid?, up_eq, down_eq]
  rfl

theorem fits_of_onGrid? (found : interval.onGrid? scale = some chosen) :
    interval.fits scale chosen = true := by
  rw [onGrid?_eq] at found
  split at found
  · next lower =>
      cases found
      exact (Bool.and_eq_true_iff.mp lower).1
  · split at found
    · next upper =>
        cases found
        exact upper
    · cases found

/-- When nothing is chosen, both neighbours of the value are outside the interval. -/
theorem not_fits_of_onGrid? (missing : interval.onGrid? scale = none) :
    interval.fits scale (interval.below scale) = false ∧
      interval.fits scale (interval.below scale + 1) = false := by
  rw [onGrid?_eq] at missing
  split at missing
  · cases missing
  · next notLower =>
      split at missing
      · cases missing
      · next notUpper =>
          rw [Bool.not_eq_true] at notUpper
          refine ⟨?_, notUpper⟩
          simpa [notUpper] using notLower

/-- What every rounding interval of a positive magnitude satisfies. -/
structure Proper (interval : RoundingInterval) : Prop where
  low_lt_value : interval.low < interval.value
  value_lt_high : interval.value < interval.high
  denominator_pos : 0 < interval.denominator

/-- A multiple that does not lie in the interval is not between its ends. -/
theorem outside_of_not_fits {multiple : Nat} (outside : interval.fits scale multiple = false) :
    multiple * (interval.denominator * 10 ^ scale.toNat) ≤
        interval.low * 10 ^ (-scale).toNat ∨
      interval.high * 10 ^ (-scale).toNat ≤
        multiple * (interval.denominator * 10 ^ scale.toNat) := by
  have regroup : multiple * 10 ^ scale.toNat * interval.denominator =
      multiple * (interval.denominator * 10 ^ scale.toNat) := by ring
  simp only [fits, contains, regroup] at outside
  split at outside
  · simp only [Bool.and_eq_false_iff, decide_eq_false_iff_not] at outside
    omega
  · simp only [Bool.and_eq_false_iff, decide_eq_false_iff_not] at outside
    omega

/-- A grid with a step that is shorter than the interval meets it. -/
theorem onGrid?_ne_none (proper : interval.Proper)
    (narrow : interval.denominator * 10 ^ scale.toNat <
      (interval.high - interval.low) * 10 ^ (-scale).toNat) :
    interval.onGrid? scale ≠ none := by
  intro missing
  obtain ⟨notLower, notUpper⟩ := not_fits_of_onGrid? missing
  have power : 0 < 10 ^ (-scale).toNat := Nat.pow_pos (by decide)
  have stepPositive : 0 < interval.denominator * 10 ^ scale.toNat :=
    Nat.mul_pos proper.denominator_pos (Nat.pow_pos (by decide))
  have division := Nat.div_add_mod (interval.value * 10 ^ (-scale).toNat)
    (interval.denominator * 10 ^ scale.toNat)
  have remainder := Nat.mod_lt (interval.value * 10 ^ (-scale).toNat) stepPositive
  have lowBelow : interval.low * 10 ^ (-scale).toNat < interval.value * 10 ^ (-scale).toNat :=
    Nat.mul_lt_mul_of_pos_right proper.low_lt_value power
  have highAbove : interval.value * 10 ^ (-scale).toNat < interval.high * 10 ^ (-scale).toNat :=
    Nat.mul_lt_mul_of_pos_right proper.value_lt_high power
  have lower := outside_of_not_fits notLower
  have upper := outside_of_not_fits notUpper
  rw [Nat.add_mul, Nat.one_mul] at upper
  rw [below, Nat.mul_comm (_ / _)] at lower upper
  rw [Nat.sub_mul] at narrow
  omega

/-- The magnitude of a value is not too great: the next smaller power of ten does not exceed the
value. -/
theorem pow_magnitude_le (positive : 0 < interval.value) :
    interval.denominator * 10 ^ (interval.magnitude - 1).toNat ≤
      interval.value * 10 ^ (1 - interval.magnitude).toNat := by
  rw [magnitude]
  split
  · next atLeastOne =>
      by_cases noDenominator : interval.denominator = 0
      · simp [noDenominator]
      have denominatorPositive := Nat.pos_of_ne_zero noDenominator
      have quotient : 0 < interval.value / interval.denominator :=
        Nat.div_pos atLeastOne denominatorPositive
      have count := digitCount_pos (interval.value / interval.denominator)
      have digits := pow_le_of_digitCount quotient
      rw [Nat.le_div_iff_mul_le denominatorPositive, Nat.mul_comm] at digits
      generalize digitCount (interval.value / interval.denominator) = places at *
      have up : ((places : Int) - 1).toNat = places - 1 := by omega
      have down : (1 - (places : Int)).toNat = 0 := by omega
      rwa [up, down, Nat.pow_zero, Nat.mul_one]
  · dsimp only
    have division := Nat.div_add_mod (interval.denominator + interval.value - 1) interval.value
    have remainder := Nat.mod_lt (interval.denominator + interval.value - 1) positive
    have digits :=
      lt_pow_digitCount ((interval.denominator + interval.value - 1) / interval.value - 1)
    generalize digitCount ((interval.denominator + interval.value - 1) / interval.value - 1) =
      places at *
    generalize (interval.denominator + interval.value - 1) / interval.value = inverse at *
    have up : (1 - (places : Int) - 1).toNat = 0 := by omega
    have down : (1 - (1 - (places : Int))).toNat = places := by omega
    have enough : interval.value * inverse ≤ interval.value * 10 ^ places :=
      Nat.mul_le_mul_left _ (by omega)
    rw [up, down, Nat.pow_zero, Nat.mul_one]
    omega

theorem firstGrid_of_some {count more : Nat}
    (found : interval.onGrid? (interval.magnitude - count) = some chosen) :
    interval.firstGrid count more = (chosen, interval.magnitude - count) := by
  cases more <;> simp [firstGrid, found]

theorem firstGrid_of_none {count more : Nat}
    (missing : interval.onGrid? (interval.magnitude - count) = none) :
    interval.firstGrid count (more + 1) = interval.firstGrid (count + 1) more := by
  simp [firstGrid, missing]

/-- The search ends on a grid that meets the interval, if the last grid does. -/
theorem fits_firstGrid {count more : Nat}
    (last : interval.onGrid? (interval.magnitude - (count + more : Nat)) ≠ none) :
    interval.fits (interval.firstGrid count more).2 (interval.firstGrid count more).1 = true := by
  induction more generalizing count with
  | zero =>
      cases found : interval.onGrid? (interval.magnitude - count) with
      | none => exact absurd found last
      | some chosen =>
          rw [firstGrid_of_some found]
          exact fits_of_onGrid? found
  | succ more induction =>
      cases found : interval.onGrid? (interval.magnitude - count) with
      | none =>
          rw [firstGrid_of_none found]
          apply induction
          rwa [Nat.add_assoc, Nat.add_comm 1 more]
      | some chosen =>
          rw [firstGrid_of_some found]
          exact fits_of_onGrid? found

end RoundingInterval

open Binary64 (quartersBelow quartersBelow_le)

variable {significand exponent : Nat}

theorem low_roundingInterval : (roundingInterval significand exponent).low =
    (4 * significand - quartersBelow significand exponent) * 2 ^ exponent := rfl

theorem value_roundingInterval :
    (roundingInterval significand exponent).value = 4 * significand * 2 ^ exponent := rfl

theorem high_roundingInterval :
    (roundingInterval significand exponent).high = (4 * significand + 2) * 2 ^ exponent := rfl

theorem denominator_roundingInterval_pos :
    0 < (roundingInterval significand exponent).denominator := by
  simp only [roundingInterval]
  decide +kernel

theorem roundingInterval_proper (nonzero : 0 < significand) :
    (roundingInterval significand exponent).Proper where
  low_lt_value := by
    have quarters := quartersBelow_le significand exponent
    rw [low_roundingInterval, value_roundingInterval]
    exact Nat.mul_lt_mul_of_pos_right (by omega) (Nat.two_pow_pos exponent)
  value_lt_high := by
    rw [value_roundingInterval, high_roundingInterval]
    exact Nat.mul_lt_mul_of_pos_right (by omega) (Nat.two_pow_pos exponent)
  denominator_pos := denominator_roundingInterval_pos

theorem roundingInterval_length (nonzero : 0 < significand) :
    (roundingInterval significand exponent).high - (roundingInterval significand exponent).low =
      (2 + quartersBelow significand exponent) * 2 ^ exponent := by
  have quarters := quartersBelow_le significand exponent
  rw [low_roundingInterval, high_roundingInterval, ← Nat.sub_mul]
  congr 1
  omega

/-- With seventeen digits the step of a grid is shorter than the rounding interval. -/
theorem seventeen_narrow (canonical : Canonical significand exponent)
    (nonzero : 0 < significand) :
    let interval := roundingInterval significand exponent
    let scale := interval.magnitude - 17
    interval.denominator * 10 ^ scale.toNat <
      (interval.high - interval.low) * 10 ^ (-scale).toNat := by
  intro interval scale
  have positive : 0 < interval.value :=
    Nat.lt_of_le_of_lt (Nat.zero_le _) (roundingInterval_proper nonzero).low_lt_value
  have magnitude := interval.pow_magnitude_le positive
  have exponents : (interval.magnitude - 1).toNat + (-scale).toNat =
      16 + scale.toNat + (1 - interval.magnitude).toNat := by omega
  have power : 0 < 10 ^ (1 - interval.magnitude).toNat := Nat.pow_pos (by decide)
  -- the value bounds the step from above ...
  have step : 10 ^ 16 * (interval.denominator * 10 ^ scale.toNat) ≤
      interval.value * 10 ^ (-scale).toNat := by
    refine Nat.le_of_mul_le_mul_right ?_ power
    calc
      10 ^ 16 * (interval.denominator * 10 ^ scale.toNat) *
            10 ^ (1 - interval.magnitude).toNat =
          interval.denominator * 10 ^ (16 + scale.toNat + (1 - interval.magnitude).toNat) := by
        ring
      _ = interval.denominator * 10 ^ (interval.magnitude - 1).toNat * 10 ^ (-scale).toNat := by
        rw [← exponents]
        ring
      _ ≤ interval.value * 10 ^ (1 - interval.magnitude).toNat * 10 ^ (-scale).toNat := by
        gcongr
      _ = interval.value * 10 ^ (-scale).toNat * 10 ^ (1 - interval.magnitude).toNat := by
        ring
  -- ... and has at most 53 bits
  have bits : 4 * significand < 10 ^ 16 * (2 + quartersBelow significand exponent) := by
    have small : significand < 2 ^ 53 := canonical.1
    rw [quartersBelow]
    split
    · next isPower =>
        rw [isPower.1]
        decide
    · omega
  have length : interval.high - interval.low =
      (2 + quartersBelow significand exponent) * 2 ^ exponent := roundingInterval_length nonzero
  have value : interval.value = 4 * significand * 2 ^ exponent := value_roundingInterval
  have unit : 0 < 2 ^ exponent * 10 ^ (-scale).toNat :=
    Nat.mul_pos (Nat.two_pow_pos exponent) (Nat.pow_pos (by decide))
  rw [length]
  rw [value] at step
  refine Nat.lt_of_mul_lt_mul_left (a := 10 ^ 16) ?_
  calc
    10 ^ 16 * (interval.denominator * 10 ^ scale.toNat) ≤
        4 * significand * 2 ^ exponent * 10 ^ (-scale).toNat := step
    _ = 4 * significand * (2 ^ exponent * 10 ^ (-scale).toNat) := by ring
    _ < 10 ^ 16 * (2 + quartersBelow significand exponent) *
        (2 ^ exponent * 10 ^ (-scale).toNat) := Nat.mul_lt_mul_of_pos_right bits unit
    _ = 10 ^ 16 * ((2 + quartersBelow significand exponent) * 2 ^ exponent *
        10 ^ (-scale).toNat) := by ring

/-- Only zeros are taken away at the end of a digit string. -/
theorem exists_append_zeros (text : List Char) :
    ∃ zeros, text = (text.reverse.dropWhile (· == '0')).reverse ++ List.replicate zeros '0' := by
  have onlyZeros : ∀ c ∈ text.reverse.takeWhile (· == '0'), c = '0' := by
    intro c member
    have isZero := List.mem_takeWhile_imp member
    simpa using isZero
  have replicated := List.eq_replicate_of_mem onlyZeros
  refine ⟨(text.reverse.takeWhile (· == '0')).length, ?_⟩
  have whole := List.takeWhile_append_dropWhile (p := (· == '0')) (l := text.reverse)
  rw [replicated] at whole
  have reversed := congrArg List.reverse whole
  rw [List.reverse_append, List.reverse_reverse, List.reverse_replicate] at reversed
  exact reversed.symm

/-- What a decimal text stands for, when it has digits at all. -/
structure DecimalText.Denotes (decimal : DecimalText) (negative : Bool) (value : Binary64) :
    Prop where
  digits_ne_nil : decimal.digits ≠ []
  isDigit : ∀ c ∈ decimal.digits, c.isDigit = true
  value : Binary64.ofDecimal negative (Nat.ofDigitChars 10 decimal.digits 0)
    (decimal.point - decimal.digits.length) = value

/-- The shortest decimal of a positive magnitude stands for it. -/
theorem shortest_denotes (negative : Bool) (canonical : Canonical significand exponent)
    (nonzero : 0 < significand) :
    (shortest significand exponent).Denotes negative
      (.finite negative significand exponent canonical) := by
  have proper : (roundingInterval significand exponent).Proper := roundingInterval_proper nonzero
  have last := RoundingInterval.onGrid?_ne_none proper (seventeen_narrow canonical nonzero)
  have inside : (roundingInterval significand exponent).fits
      ((roundingInterval significand exponent).firstGrid 1 16).2
      ((roundingInterval significand exponent).firstGrid 1 16).1 = true :=
    RoundingInterval.fits_firstGrid last
  rw [shortest]
  generalize (roundingInterval significand exponent).firstGrid 1 16 = found at *
  obtain ⟨chosen, scale⟩ := found
  have reads : Binary64.ofDecimal negative chosen scale =
      .finite negative significand exponent canonical :=
    Binary64.ofDecimal_of_contains canonical nonzero inside
  have chosenNonzero : chosen ≠ 0 :=
    Binary64.ne_zero_of_contains nonzero (Nat.pow_pos (by decide)) inside
  obtain ⟨zeros, written⟩ := exists_append_zeros (digits chosen)
  dsimp only
  generalize ((digits chosen).reverse.dropWhile (· == '0')).reverse = text at *
  have chosenEq : chosen = Nat.ofDigitChars 10 text 0 * 10 ^ zeros := by
    rw [← ofDigitChars_digits chosen, written, Nat.ofDigitChars_append,
      Nat.ofDigitChars_replicate_zero, Nat.mul_comm]
  refine ⟨?_, ?_, ?_⟩
  · rintro rfl
    apply chosenNonzero
    rw [chosenEq, Nat.ofDigitChars_nil, Nat.zero_mul]
  · intro c member
    apply isDigit_of_mem_digits (n := chosen)
    rw [written]
    exact List.mem_append_left _ member
  · have exponents : ((digits chosen).length : Int) + scale - text.length = scale + zeros := by
      rw [written, List.length_append, List.length_replicate]
      omega
    have moved : scale + zeros - zeros = scale := by omega
    dsimp only
    rw [exponents, ← Binary64.ofDecimal_mul_pow _ _ zeros, ← chosenEq, moved, reads]

end TypedEnv.Decimal
