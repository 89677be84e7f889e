import Mathlib.Algebra.Order.Floor.Semiring
import Mathlib.Data.Rat.Floor
import Mathlib.Tactic.FieldSimp
import Mathlib.Tactic.Linarith
import Mathlib.Tactic.Positivity
import TypedEnv.Duration.Span
import TypedEnv.Proofs.Decimal.Digits

/-!
# Spans with a decimal point

The digits behind a point count at scales of whole nanoseconds: each scale is a
tenth of the one before it, rounded down.  What the scales of the digits lose is
`Span.lost`, and a span counts as the whole nanoseconds of its exact value
exactly when it loses less than one.  This holds in all units that are a power
of ten, and in every unit up to ten digits behind the point.
-/

namespace TypedEnv

namespace Decimal

/-- The number that is written with digits before and behind a point. -/
def pointed (whole fraction : List Char) : ℚ :=
  Nat.ofDigitChars 10 whole 0 + Nat.ofDigitChars 10 fraction 0 / 10 ^ fraction.length

theorem ofDigitChars_cons_zero (digit : Char) (rest : List Char) :
    Nat.ofDigitChars 10 (digit :: rest) 0 =
      (digit.toNat - '0'.toNat) * 10 ^ rest.length + Nat.ofDigitChars 10 rest 0 := by
  rw [Nat.ofDigitChars_cons, Nat.ofDigitChars_eq_ofDigitChars_zero, Nat.mul_zero, Nat.zero_add,
    Nat.mul_comm]

/-- Digits denote less than a one with as many zeros. -/
theorem ofDigitChars_lt_pow {text : List Char} (allDigits : ∀ c ∈ text, c.isDigit = true) :
    Nat.ofDigitChars 10 text 0 < 10 ^ text.length := by
  induction text with
  | nil => exact Nat.one_pos
  | cons digit rest induction =>
      obtain ⟨isDigit, restDigits⟩ := List.forall_mem_cons.mp allDigits
      have range := Text.isDigit_iff.mp isDigit
      have zero : '0'.toNat = 48 := rfl
      have small : digit.toNat - '0'.toNat ≤ 9 := by omega
      have scaled := Nat.mul_le_mul_right (10 ^ rest.length) small
      have below := induction restDigits
      rw [ofDigitChars_cons_zero, List.length_cons, Nat.pow_succ]
      omega

end Decimal

namespace TimeUnit

/-- How often a unit can be divided by ten without a remainder. -/
def exactPlaces : TimeUnit → Nat
  | .nanosecond => 0
  | .microsecond => 3
  | .millisecond => 6
  | .second => 9
  | .minute => 10
  | .hour => 11

theorem pow_exactPlaces_dvd (timeUnit : TimeUnit) :
    10 ^ timeUnit.exactPlaces ∣ timeUnit.nanoseconds := by
  cases timeUnit <;> decide

theorem nanoseconds_pos (timeUnit : TimeUnit) : 0 < timeUnit.nanoseconds := by
  cases timeUnit <;> decide

theorem nanoseconds_eq_pow {timeUnit : TimeUnit} (noMinute : timeUnit ≠ .minute)
    (noHour : timeUnit ≠ .hour) : timeUnit.nanoseconds = 10 ^ timeUnit.exactPlaces := by
  cases timeUnit with
  | minute => exact absurd rfl noMinute
  | hour => exact absurd rfl noHour
  | _ => rfl

end TimeUnit

namespace Span

/-- The sum of digits at whole scales, the first at the given place behind the point. -/
def keptFrom (unit place : Nat) : List Char → Nat
  | [] => 0
  | digit :: rest =>
      (digit.toNat - '0'.toNat) * (unit / 10 ^ (place + 1)) + keptFrom unit (place + 1) rest

/-- What the scales of digits lose, the first at the given place behind the point. -/
def lostFrom (unit place : Nat) : List Char → ℚ
  | [] => 0
  | digit :: rest =>
      (digit.toNat - '0'.toNat : Nat) * ((unit % 10 ^ (place + 1) : Nat) / 10 ^ (place + 1)) +
        lostFrom unit (place + 1) rest

/-- The nanoseconds that the digits behind a point lose, because their scales are whole
nanoseconds. -/
def lost (timeUnit : TimeUnit) (fraction : List Char) : ℚ :=
  lostFrom timeUnit.nanoseconds 0 fraction

section Digits

variable {unit place places total nanoseconds : Nat} {digits : List Char}

/-- The digits are added one after the other, and every sum has to fit. -/
theorem addFraction?_eq_some_iff (fits : total < doubleWordLimit) :
    addFraction? total (unit / 10 ^ place) digits = some nanoseconds ↔
      nanoseconds = total + keptFrom unit place digits ∧ nanoseconds < doubleWordLimit := by
  induction digits generalizing total place with
  | nil =>
      rw [addFraction?, keptFrom, Nat.add_zero, Option.some_inj]
      constructor
      · rintro rfl
        exact ⟨rfl, fits⟩
      · exact fun same => same.1.symm
  | cons digit rest induction =>
      have tenth : unit / 10 ^ place / 10 = unit / 10 ^ (place + 1) := by
        rw [Nat.div_div_eq_div_mul, Nat.pow_succ]
      rw [addFraction?, tenth, keptFrom, ← Nat.add_assoc]
      by_cases nextFits :
          total + (digit.toNat - '0'.toNat) * (unit / 10 ^ (place + 1)) < doubleWordLimit
      · rw [if_pos nextFits]
        exact induction nextFits
      · rw [if_neg nextFits]
        constructor
        · intro impossible
          cases impossible
        · intro same
          omega

/-- What the digits keep and what they lose is their exact value. -/
theorem keptFrom_add_lostFrom (unit place : Nat) (digits : List Char) :
    (keptFrom unit place digits : ℚ) + lostFrom unit place digits =
      Nat.ofDigitChars 10 digits 0 / 10 ^ digits.length * (unit / 10 ^ place) := by
  induction digits generalizing place with
  | nil => simp [keptFrom, lostFrom]
  | cons digit rest induction =>
      have scale : (unit : ℚ) = 10 ^ (place + 1) * (unit / 10 ^ (place + 1) : Nat) +
          (unit % 10 ^ (place + 1) : Nat) := by
        exact_mod_cast (Nat.div_add_mod unit (10 ^ (place + 1))).symm
      have first : ((unit / 10 ^ (place + 1) : Nat) : ℚ) +
          (unit % 10 ^ (place + 1) : Nat) / 10 ^ (place + 1) = unit / 10 ^ (place + 1) := by
        rw [eq_div_iff (by positivity), add_mul, div_mul_cancel₀ _ (by positivity), mul_comm]
        exact scale.symm
      have others := induction (place + 1)
      rw [keptFrom, lostFrom, Decimal.ofDigitChars_cons_zero, List.length_cons]
      generalize digit.toNat - '0'.toNat = value
      push_cast
      calc
        _ = (value : ℚ) * ((unit / 10 ^ (place + 1) : Nat) +
              (unit % 10 ^ (place + 1) : Nat) / 10 ^ (place + 1)) +
            (keptFrom unit (place + 1) rest + lostFrom unit (place + 1) rest) := by
          ring
        _ = _ := by
          rw [first, others]
          field_simp
          ring

theorem lostFrom_nonneg (unit place : Nat) (digits : List Char) :
    0 ≤ lostFrom unit place digits := by
  induction digits generalizing place with
  | nil => exact le_refl 0
  | cons digit rest induction =>
      have others := induction (place + 1)
      rw [lostFrom]
      positivity

/-- Digits lose less than one unit of the place before them. -/
theorem lostFrom_lt (positive : 0 < unit) (allDigits : ∀ c ∈ digits, c.isDigit = true) :
    lostFrom unit place digits < unit / 10 ^ place := by
  have exact := keptFrom_add_lostFrom unit place digits
  have kept : (0 : ℚ) ≤ keptFrom unit place digits := Nat.cast_nonneg _
  have below : (Nat.ofDigitChars 10 digits 0 : ℚ) / 10 ^ digits.length < 1 := by
    rw [div_lt_one (by positivity)]
    exact_mod_cast Decimal.ofDigitChars_lt_pow allDigits
  have scale : (0 : ℚ) < unit / 10 ^ place := by positivity
  have smaller := mul_lt_mul_of_pos_right below scale
  linarith

/-- As long as the scales are exact nothing is lost. -/
theorem lostFrom_drop (divides : 10 ^ places ∣ unit) (before : place ≤ places) :
    lostFrom unit place digits = lostFrom unit places (digits.drop (places - place)) := by
  induction digits generalizing place with
  | nil => rw [List.drop_nil, lostFrom, lostFrom]
  | cons digit rest induction =>
      rcases before.eq_or_lt with rfl | inside
      · rw [Nat.sub_self, List.drop_zero]
      · have next : places - place = places - (place + 1) + 1 := by omega
        have exact : unit % 10 ^ (place + 1) = 0 :=
          Nat.mod_eq_zero_of_dvd ((Nat.pow_dvd_pow 10 inside).trans divides)
        rw [next, List.drop_succ_cons, ← induction inside, lostFrom, exact]
        simp

end Digits

section Units

variable {timeUnit : TimeUnit} {whole fraction : List Char} {nanoseconds : Nat}

theorem lost_nonneg (timeUnit : TimeUnit) (fraction : List Char) : 0 ≤ lost timeUnit fraction :=
  lostFrom_nonneg _ _ _

/-- Digits at exact scales lose nothing. -/
theorem lost_eq_zero (short : fraction.length ≤ timeUnit.exactPlaces) :
    lost timeUnit fraction = 0 := by
  rw [lost, lostFrom_drop timeUnit.pow_exactPlaces_dvd (Nat.zero_le _),
    List.drop_eq_nil_of_le (by omega), lostFrom]

/-- In a unit that is a power of ten, only digits below one nanosecond are lost. -/
theorem lost_lt_one_of_power (noMinute : timeUnit ≠ .minute) (noHour : timeUnit ≠ .hour)
    (allDigits : ∀ c ∈ fraction, c.isDigit = true) : lost timeUnit fraction < 1 := by
  have behind : lostFrom timeUnit.nanoseconds timeUnit.exactPlaces
      (fraction.drop timeUnit.exactPlaces) < timeUnit.nanoseconds / 10 ^ timeUnit.exactPlaces :=
    lostFrom_lt timeUnit.nanoseconds_pos fun c member => allDigits c (List.mem_of_mem_drop member)
  have one : (timeUnit.nanoseconds : ℚ) / 10 ^ timeUnit.exactPlaces = 1 := by
    rw [TimeUnit.nanoseconds_eq_pow noMinute noHour, Nat.cast_pow, Nat.cast_ofNat]
    exact div_self (by positivity)
  rw [one] at behind
  rwa [lost, lostFrom_drop timeUnit.pow_exactPlaces_dvd (Nat.zero_le _), Nat.sub_zero]

theorem lost_lt_one_of_short (short : fraction.length ≤ 10)
    (allDigits : ∀ c ∈ fraction, c.isDigit = true) : lost timeUnit fraction < 1 := by
  cases timeUnit with
  | minute => exact lt_of_eq_of_lt (lost_eq_zero short) one_pos
  | hour => exact lt_of_eq_of_lt (lost_eq_zero (short.trans (by decide))) one_pos
  | _ => exact lost_lt_one_of_power (by simp) (by simp) allDigits

/-- A span with a point counts its whole units and what its digits keep, if this fits. -/
theorem fractionalNanoseconds?_eq_some_iff (wholeDigits : ∀ c ∈ whole, c.isDigit = true) :
    fractionalNanoseconds? whole fraction timeUnit = some nanoseconds ↔
      nanoseconds = Nat.ofDigitChars 10 whole 0 * timeUnit.nanoseconds +
          keptFrom timeUnit.nanoseconds 0 fraction ∧
        nanoseconds < doubleWordLimit := by
  have scale : timeUnit.nanoseconds / 10 ^ 0 = timeUnit.nanoseconds := by simp
  have units := Nat.le_mul_of_pos_right (Nat.ofDigitChars 10 whole 0) timeUnit.nanoseconds_pos
  simp only [fractionalNanoseconds?, Decimal.ofDigits?_ten wholeDigits, Option.bind_eq_bind,
    Option.bind_some]
  split
  · next fits =>
      rw [← addFraction?_eq_some_iff fits.2, scale]
  · next outside =>
      constructor
      · intro impossible
        cases impossible
      · intro same
        omega

/-- The exact value of a span is what it counts and what its digits lose. -/
theorem exact_eq_add_lost
    (counted : nanoseconds = Nat.ofDigitChars 10 whole 0 * timeUnit.nanoseconds +
      keptFrom timeUnit.nanoseconds 0 fraction) :
    Decimal.pointed whole fraction * timeUnit.nanoseconds =
      nanoseconds + lost timeUnit fraction := by
  have behind := keptFrom_add_lostFrom timeUnit.nanoseconds 0 fraction
  rw [pow_zero, div_one] at behind
  rw [Decimal.pointed, add_mul, ← behind, counted, lost]
  push_cast
  ring

/-- The whole nanoseconds of the exact value are what a span counts and whole nanoseconds that
its digits lose. -/
theorem floor_exact
    (counted : nanoseconds = Nat.ofDigitChars 10 whole 0 * timeUnit.nanoseconds +
      keptFrom timeUnit.nanoseconds 0 fraction) :
    ⌊Decimal.pointed whole fraction * timeUnit.nanoseconds⌋₊ =
      nanoseconds + ⌊lost timeUnit fraction⌋₊ := by
  rw [exact_eq_add_lost counted, add_comm, Nat.floor_add_natCast (lost_nonneg _ _), Nat.add_comm]

/-- A span with a point counts as the whole nanoseconds of its exact value exactly when its digits
lose less than one.  They do so in all units but minutes and hours, and in these up to ten
digits. -/
theorem fractionalNanoseconds?_eq_floor_iff (wholeDigits : ∀ c ∈ whole, c.isDigit = true)
    (fractionDigits : ∀ c ∈ fraction, c.isDigit = true)
    (found : fractionalNanoseconds? whole fraction timeUnit = some nanoseconds) :
    ⌊Decimal.pointed whole fraction * timeUnit.nanoseconds⌋₊ =
        nanoseconds + ⌊lost timeUnit fraction⌋₊ ∧
      (nanoseconds = ⌊Decimal.pointed whole fraction * timeUnit.nanoseconds⌋₊ ↔
        lost timeUnit fraction < 1) ∧
      (timeUnit ≠ .minute → timeUnit ≠ .hour → lost timeUnit fraction < 1) ∧
      (fraction.length ≤ 10 → lost timeUnit fraction < 1) := by
  have floor := floor_exact ((fractionalNanoseconds?_eq_some_iff wholeDigits).mp found).1
  refine ⟨floor, ?_, ?_, ?_⟩
  · rw [floor, ← Nat.floor_eq_zero, eq_comm, Nat.add_eq_left]
  · intro noMinute noHour
    exact lost_lt_one_of_power noMinute noHour fractionDigits
  · intro short
    exact lost_lt_one_of_short short fractionDigits

/-- Twelve digits, of which the last counts 3 instead of 3.6 nanoseconds in hours. -/
def lateDigit : List Char :=
  "000000000009".toList

theorem fractionalNanoseconds?_eq_floor_iff_lateDigit :
    (fractionalNanoseconds? ['0'] lateDigit .hour = some 27 ∧
      ⌊Decimal.pointed ['0'] lateDigit * TimeUnit.hour.nanoseconds⌋₊ =
        27 + ⌊lost .hour lateDigit⌋₊ ∧
      (27 = ⌊Decimal.pointed ['0'] lateDigit * TimeUnit.hour.nanoseconds⌋₊ ↔
        lost .hour lateDigit < 1)) ∧
    (fractionalNanoseconds? [] lateDigit .second = some 0 ∧ lost .second lateDigit < 1) ∧
    (fractionalNanoseconds? ['1'] (lateDigit.drop 2) .minute = some 60000000054 ∧
      (lateDigit.drop 2).length ≤ 10 ∧ lost .minute (lateDigit.drop 2) < 1) := by
  have zero : ∀ c ∈ ['0'], c.isDigit = true := by simp
  have one : ∀ c ∈ ['1'], c.isDigit = true := by simp
  have none : ∀ c ∈ ([] : List Char), c.isDigit = true := by simp
  have twelve : ∀ c ∈ lateDigit, c.isDigit = true := Text.forall_mem_of_all (by decide)
  have ten : ∀ c ∈ lateDigit.drop 2, c.isDigit = true := Text.forall_mem_of_all (by decide)
  have inHours : fractionalNanoseconds? ['0'] lateDigit .hour = some 27 := by decide +kernel
  have inSeconds : fractionalNanoseconds? [] lateDigit .second = some 0 := by decide +kernel
  have inMinutes : fractionalNanoseconds? ['1'] (lateDigit.drop 2) .minute = some 60000000054 := by
    decide +kernel
  obtain ⟨floor, isFloor, -, -⟩ := fractionalNanoseconds?_eq_floor_iff zero twelve inHours
  obtain ⟨-, -, power, -⟩ := fractionalNanoseconds?_eq_floor_iff none twelve inSeconds
  obtain ⟨-, -, -, short⟩ := fractionalNanoseconds?_eq_floor_iff one ten inMinutes
  exact ⟨⟨inHours, floor, isFloor⟩, ⟨inSeconds, power (by decide) (by decide)⟩,
    ⟨inMinutes, by decide, short (by decide)⟩⟩

/-- A span that counts as 27 nanoseconds while its exact value is 32.4 nanoseconds. -/
theorem fractionalNanoseconds?_lt_floor :
    fractionalNanoseconds? ['0'] lateDigit .hour = some 27 ∧
      Duration.read? ('0' :: '.' :: lateDigit ++ ['h']) =
        .ok (some ⟨0, 27, by decide, by decide⟩) ∧
      ⌊Decimal.pointed ['0'] lateDigit * TimeUnit.hour.nanoseconds⌋₊ = 32 := by
  have counted : fractionalNanoseconds? ['0'] lateDigit .hour = some 27 := by decide +kernel
  have reading : Duration.read? ('0' :: '.' :: lateDigit ++ ['h']) =
      .ok (some ⟨0, 27, by decide, by decide⟩) := by decide +kernel
  refine ⟨counted, reading, ?_⟩
  have value : Decimal.pointed ['0'] lateDigit = 9 / 10 ^ 12 := by
    have whole : Nat.ofDigitChars 10 ['0'] 0 = 0 := by decide
    have fraction : Nat.ofDigitChars 10 lateDigit 0 = 9 := by decide
    have places : lateDigit.length = 12 := by decide
    rw [Decimal.pointed, whole, fraction, places, Nat.cast_zero, zero_add, Nat.cast_ofNat]
  have unit : (TimeUnit.hour.nanoseconds : ℚ) = 36 * 10 ^ 11 := by
    norm_num [TimeUnit.nanoseconds, nanosPerSecond]
  rw [value, unit, Nat.floor_eq_iff (by norm_num)]
  norm_num

end Units

end Span

end TypedEnv
