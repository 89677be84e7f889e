import Mathlib.Tactic.Ring
import TypedEnv.Decimal.Digits
import TypedEnv.Proofs.Text.Characters

/-!
# Written digits are read back

In base ten a digit string denotes the number that the library assigns to it,
and the digits of a number denote that number.  The number of its digits tells
between which powers of ten a number lies.
-/

namespace TypedEnv.Decimal

theorem digitValue?_ten {c : Char} (isDigit : c.isDigit = true) :
    digitValue? 10 c = some (c.toNat - 48) := by
  have range := Text.isDigit_iff.mp isDigit
  have small : c.toNat - 48 < 10 := by omega
  simp [digitValue?, isDigit, small]

theorem ofDigits?_ten {text : List Char} (allDigits : ∀ c ∈ text, c.isDigit = true) :
    ofDigits? 10 text = some (Nat.ofDigitChars 10 text 0) := by
  have fold : ∀ start, text.foldlM
      (fun value c => (digitValue? 10 c).map (value * 10 + ·)) start =
        some (Nat.ofDigitChars 10 text start) := by
    induction text with
    | nil => intro start; simp
    | cons c rest induction =>
        intro start
        have headDigit := digitValue?_ten (allDigits c List.mem_cons_self)
        have restDigits : ∀ c ∈ rest, c.isDigit = true :=
          fun c member => allDigits c (List.mem_cons_of_mem _ member)
        rw [List.foldlM_cons, headDigit, Nat.ofDigitChars_cons, Nat.mul_comm 10 start]
        exact induction restDigits _
  exact fold 0

theorem exists_digitChar_of_mem {base n : Nat} {c : Char} (proper : 1 < base)
    (member : c ∈ Nat.toDigits base n) : ∃ digit < base, c = Nat.digitChar digit := by
  induction n using Nat.strongRecOn with
  | ind n induction =>
      rw [Nat.toDigits_eq_if proper] at member
      split at member
      · next small => exact ⟨n, small, List.mem_singleton.mp member⟩
      · next large =>
          have smaller : n / base < n := Nat.div_lt_self (by omega) proper
          rcases List.mem_append.mp member with front | last
          · exact induction (n / base) smaller front
          · exact ⟨n % base, Nat.mod_lt _ (by omega), List.mem_singleton.mp last⟩

theorem isDigit_of_mem_digits {n : Nat} {c : Char} (member : c ∈ digits n) :
    c.isDigit = true :=
  Nat.isDigit_of_mem_toDigits (by decide) (by decide) member

theorem digits_ne_nil (n : Nat) : digits n ≠ [] :=
  Nat.toDigits_ne_nil

theorem ofDigitChars_digits (n : Nat) : Nat.ofDigitChars 10 (digits n) 0 = n :=
  Nat.ofDigitChars_ten_toDigits

theorem ofDigits?_digits (n : Nat) : ofDigits? 10 (digits n) = some n := by
  rw [ofDigits?_ten fun _ member => isDigit_of_mem_digits member, ofDigitChars_digits]

theorem digitCount_pos (n : Nat) : 0 < digitCount n :=
  Nat.length_toDigits_pos

theorem digitCount_le_iff {n k : Nat} (positive : 0 < k) : digitCount n ≤ k ↔ n < 10 ^ k :=
  Nat.length_toDigits_le_iff (by decide) positive

theorem lt_pow_digitCount (n : Nat) : n < 10 ^ digitCount n :=
  (digitCount_le_iff (digitCount_pos n)).mp (Nat.le_refl _)

theorem pow_le_of_digitCount {n : Nat} (positive : 0 < n) : 10 ^ (digitCount n - 1) ≤ n := by
  cases count : digitCount n - 1 with
  | zero => exact positive
  | succ k =>
      have tooMany : ¬ digitCount n ≤ k + 1 := by omega
      rw [digitCount_le_iff (by omega)] at tooMany
      omega

/-- The powers of ten around a number determine how many digits it has. -/
theorem digitCount_eq {n k : Nat} (low : 10 ^ k ≤ n) (high : n < 10 ^ (k + 1)) :
    digitCount n = k + 1 := by
  apply Nat.le_antisymm
  · exact (digitCount_le_iff (by omega)).mpr high
  · refine Nat.lt_of_not_le fun fewer => ?_
    have below := lt_pow_digitCount n
    have mono : 10 ^ digitCount n ≤ 10 ^ k := Nat.pow_le_pow_right (by decide) fewer
    omega

theorem digitCount_mul_pow {n : Nat} (positive : 0 < n) (k : Nat) :
    digitCount (n * 10 ^ k) = digitCount n + k := by
  have low := Nat.mul_le_mul_right (10 ^ k) (pow_le_of_digitCount positive)
  have power : 0 < 10 ^ k := Nat.pow_pos (by decide)
  have high := Nat.mul_lt_mul_of_pos_right (lt_pow_digitCount n) power
  rw [← Nat.pow_add] at low high
  have count := digitCount_pos n
  have found : digitCount (n * 10 ^ k) = (digitCount n - 1 + k) + 1 :=
    digitCount_eq low (by rwa [show digitCount n - 1 + k + 1 = digitCount n + k by omega])
  omega

end TypedEnv.Decimal
