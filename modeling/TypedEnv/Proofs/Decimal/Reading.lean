import TypedEnv.Proofs.Decimal.Shortest
import TypedEnv.Proofs.Text.Split

/-!
# Written numbers are read back

Every form in which a decimal is written is read as the number that it stands
for.  With the shortest decimal of a value the text of a floating point value
is therefore read as that value, whatever the style of the printer.
-/

namespace TypedEnv.Decimal

theorem takeWhile_isDigit {text tail : List Char} (allDigits : ∀ c ∈ text, c.isDigit = true)
    (ends : ∀ c ∈ tail.head?, c.isDigit = false) :
    (text ++ tail).takeWhile Char.isDigit = text ∧
      (text ++ tail).dropWhile Char.isDigit = tail :=
  Text.takeWhile_append_stop allDigits ends

namespace Binary64

variable {negative : Bool} {decimal : DecimalText} {value : Binary64}

/-- Digits with digits behind a point are read as one coefficient. -/
theorem ofDigits?_point {whole fraction tail : List Char} {exponent : Int}
    (nonempty : whole ≠ []) (wholeDigits : ∀ c ∈ whole, c.isDigit = true)
    (fractionDigits : ∀ c ∈ fraction, c.isDigit = true)
    (ends : ∀ c ∈ tail.head?, c.isDigit = false) (suffix : exponent? tail = some exponent) :
    ofDigits? negative (whole ++ '.' :: (fraction ++ tail)) =
      some (ofDecimal negative (Nat.ofDigitChars 10 (whole ++ fraction) 0)
        (exponent - fraction.length)) := by
  have pointEnds : ∀ c ∈ ('.' :: (fraction ++ tail)).head?, c.isDigit = false := by
    rintro c ⟨⟩
    decide
  obtain ⟨taken, left⟩ := takeWhile_isDigit wholeDigits pointEnds
  obtain ⟨takenFraction, leftFraction⟩ := takeWhile_isDigit fractionDigits ends
  have allDigits : ∀ c ∈ whole ++ fraction, c.isDigit = true := by
    intro c member
    rcases List.mem_append.mp member with inWhole | inFraction
    · exact wholeDigits c inWhole
    · exact fractionDigits c inFraction
  have someWhole : whole.isEmpty = false := by simpa using nonempty
  simp [ofDigits?, taken, left, takenFraction, leftFraction, someWhole, suffix,
    ofDigits?_ten allDigits]

/-- Digits without a point are read as the coefficient. -/
theorem ofDigits?_plain {whole tail : List Char} {exponent : Int}
    (nonempty : whole ≠ []) (wholeDigits : ∀ c ∈ whole, c.isDigit = true)
    (ends : ∀ c ∈ tail.head?, c.isDigit = false ∧ c ≠ '.')
    (suffix : exponent? tail = some exponent) :
    ofDigits? negative (whole ++ tail) =
      some (ofDecimal negative (Nat.ofDigitChars 10 whole 0) exponent) := by
  obtain ⟨taken, left⟩ := takeWhile_isDigit wholeDigits fun c isHead => (ends c isHead).1
  have someWhole : whole.isEmpty = false := by simpa using nonempty
  rw [ofDigits?, taken, left]
  dsimp only
  split
  · next rest => exact absurd rfl (ends '.' rfl).2
  · simp [someWhole, suffix, ofDigits?_ten wholeDigits]

theorem not_sign_of_isDigit {c : Char} (isDigit : c.isDigit = true) : c ≠ '-' ∧ c ≠ '+' := by
  constructor
  · rintro rfl
    cases isDigit
  · rintro rfl
    cases isDigit

/-- A signed number after the mark of an exponent is read back. -/
theorem exponent?_intText (exponent : Int) :
    exponent? ('e' :: (intText exponent).toList) = some exponent := by
  obtain ⟨first, others, isCons⟩ := List.exists_cons_of_ne_nil (digits_ne_nil exponent.natAbs)
  have firstDigit : first.isDigit = true := by
    apply isDigit_of_mem_digits (n := exponent.natAbs)
    rw [isCons]
    exact List.mem_cons_self
  obtain ⟨notMinus, notPlus⟩ := not_sign_of_isDigit firstDigit
  have reads : Decimal.ofDigits? 10 (first :: others) = some exponent.natAbs := by
    rw [← isCons]
    exact ofDigits?_digits exponent.natAbs
  rw [intText]
  split
  · next below =>
      have written : ("-" ++ natText exponent.natAbs).toList = '-' :: first :: others := by
        simp [natText, isCons]
      have signed : -(exponent.natAbs : Int) = exponent := by omega
      rw [written, ← signed]
      simp [exponent?, reads]
  · next above =>
      have written : (natText exponent.natAbs).toList = first :: others := by
        rw [natText, String.toList_ofList, isCons]
      have unsigned : (exponent.natAbs : Int) = exponent := by omega
      rw [written, ← unsigned]
      simp [exponent?, notMinus, notPlus, reads]

theorem isDigit_replicate_zero (count : Nat) :
    ∀ c ∈ List.replicate count '0', c.isDigit = true := by
  intro c member
  rw [List.eq_of_mem_replicate member]
  decide

theorem isDigit_append {first second : List Char} (firstDigits : ∀ c ∈ first, c.isDigit = true)
    (secondDigits : ∀ c ∈ second, c.isDigit = true) :
    ∀ c ∈ first ++ second, c.isDigit = true := by
  intro c member
  rcases List.mem_append.mp member with inFirst | inSecond
  · exact firstDigits c inFirst
  · exact secondDigits c inSecond

/-- Digits on both sides of a point up to the end of a text. -/
theorem ofDigits?_point_end {whole fraction : List Char} (nonempty : whole ≠ [])
    (wholeDigits : ∀ c ∈ whole, c.isDigit = true)
    (fractionDigits : ∀ c ∈ fraction, c.isDigit = true) :
    ofDigits? negative (whole ++ '.' :: fraction) =
      some (ofDecimal negative (Nat.ofDigitChars 10 (whole ++ fraction) 0)
        (-(fraction.length : Int))) := by
  have noTail : ∀ c ∈ ([] : List Char).head?, c.isDigit = false := by simp
  have reads : ofDigits? negative (whole ++ '.' :: (fraction ++ [])) = _ :=
    ofDigits?_point nonempty wholeDigits fractionDigits noTail rfl
  rwa [List.append_nil, Int.zero_sub] at reads

section Positional

variable (denotes : decimal.Denotes negative value)
include denotes

/-- All digits may stand behind zeros. -/
theorem ofDigits?_leadingZeros {zeros : Nat} (point : decimal.point = -(zeros : Int)) :
    ofDigits? negative ('0' :: '.' :: (List.replicate zeros '0' ++ decimal.digits)) =
      some value := by
  have zeroDigit : ∀ c ∈ ['0'], c.isDigit = true := List.all_eq_true.mp rfl
  have fractionDigits := isDigit_append (isDigit_replicate_zero zeros) denotes.isDigit
  have reads : ofDigits? negative
      (['0'] ++ '.' :: (List.replicate zeros '0' ++ decimal.digits)) = _ :=
    ofDigits?_point_end (by decide) zeroDigit fractionDigits
  have coefficient : Nat.ofDigitChars 10
      (['0'] ++ (List.replicate zeros '0' ++ decimal.digits)) 0 =
        Nat.ofDigitChars 10 decimal.digits 0 := by
    rw [Nat.ofDigitChars_append, Nat.ofDigitChars_append, Nat.ofDigitChars_replicate_zero]
    simp [Nat.ofDigitChars]
  have exponent : -((List.replicate zeros '0' ++ decimal.digits).length : Int) =
      decimal.point - decimal.digits.length := by
    rw [List.length_append, List.length_replicate]
    omega
  rwa [coefficient, exponent, denotes.value] at reads

/-- All digits may stand before zeros. -/
theorem ofDigits?_trailingZeros {zeros : Nat}
    (point : decimal.point = decimal.digits.length + zeros) :
    ofDigits? negative (decimal.digits ++ List.replicate zeros '0' ++ ['.', '0']) =
      some value := by
  have zeroDigit : ∀ c ∈ ['0'], c.isDigit = true := List.all_eq_true.mp rfl
  have wholeDigits := isDigit_append denotes.isDigit (isDigit_replicate_zero zeros)
  have reads : ofDigits? negative
      (decimal.digits ++ List.replicate zeros '0' ++ '.' :: ['0']) = _ :=
    ofDigits?_point_end (by simp [denotes.digits_ne_nil]) wholeDigits zeroDigit
  have coefficient : Nat.ofDigitChars 10
      (decimal.digits ++ List.replicate zeros '0' ++ ['0']) 0 =
        Nat.ofDigitChars 10 decimal.digits 0 * 10 ^ (zeros + 1) := by
    rw [List.append_assoc, ← List.replicate_succ', Nat.ofDigitChars_append,
      Nat.ofDigitChars_replicate_zero, Nat.mul_comm]
  have exponent : -(['0'].length : Int) =
      decimal.point - decimal.digits.length - (zeros + 1 : Nat) := by
    rw [List.length_singleton]
    omega
  rwa [coefficient, exponent, ofDecimal_mul_pow, denotes.value] at reads

/-- The point may stand between two digits. -/
theorem ofDigits?_innerPoint (positive : 0 < decimal.point)
    (inside : decimal.point < decimal.digits.length) :
    ofDigits? negative
        (decimal.digits.take decimal.point.toNat ++
          '.' :: decimal.digits.drop decimal.point.toNat) =
      some value := by
  have wholeDigits : ∀ c ∈ decimal.digits.take decimal.point.toNat, c.isDigit = true :=
    fun c member => denotes.isDigit c (List.mem_of_mem_take member)
  have fractionDigits : ∀ c ∈ decimal.digits.drop decimal.point.toNat, c.isDigit = true :=
    fun c member => denotes.isDigit c (List.mem_of_mem_drop member)
  have someWhole : decimal.digits.take decimal.point.toNat ≠ [] := by
    rw [ne_eq, List.take_eq_nil_iff, not_or]
    exact ⟨by omega, denotes.digits_ne_nil⟩
  have reads : ofDigits? negative (decimal.digits.take decimal.point.toNat ++
      '.' :: decimal.digits.drop decimal.point.toNat) = _ :=
    ofDigits?_point_end someWhole wholeDigits fractionDigits
  have exponent : -((decimal.digits.drop decimal.point.toNat).length : Int) =
      decimal.point - decimal.digits.length := by
    rw [List.length_drop]
    omega
  rwa [List.take_append_drop, exponent, denotes.value] at reads

/-- A decimal without an exponent is read as what it stands for. -/
theorem ofDigits?_positionalText :
    ofDigits? negative (positionalText decimal) = some value := by
  unfold positionalText
  split
  · exact ofDigits?_leadingZeros denotes (by omega)
  · dsimp only
    split
    · exact ofDigits?_trailingZeros denotes (by omega)
    · exact ofDigits?_innerPoint denotes (by omega) (by omega)

end Positional

/-- A decimal with an exponent is read as what it stands for. -/
theorem ofDigits?_exponentText (denotes : decimal.Denotes negative value) :
    ofDigits? negative (exponentText decimal) = some value := by
  obtain ⟨nonempty, allDigits, denoted⟩ := denotes
  have suffix := exponent?_intText (decimal.point - 1)
  have markEnds : ∀ c ∈ ('e' :: (intText (decimal.point - 1)).toList).head?,
      c.isDigit = false ∧ c ≠ '.' := by
    rintro c ⟨⟩
    decide
  unfold exponentText
  cases written : decimal.digits with
  | nil => exact absurd written nonempty
  | cons digit rest =>
      rw [written] at allDigits denoted
      have digitDigit : ∀ c ∈ [digit], c.isDigit = true := by
        intro c member
        exact allDigits c (List.mem_cons.mpr (.inl (List.mem_singleton.mp member)))
      cases rest with
      | nil =>
          have reads : ofDigits? negative ([digit] ++
              'e' :: (intText (decimal.point - 1)).toList) = _ :=
            ofDigits?_plain (by simp) digitDigit markEnds suffix
          rw [List.length_singleton, Nat.cast_one] at denoted
          rwa [denoted] at reads
      | cons next others =>
          have fractionDigits : ∀ c ∈ next :: others, c.isDigit = true :=
            fun c member => allDigits c (List.mem_cons_of_mem _ member)
          have reads : ofDigits? negative ([digit] ++ '.' :: ((next :: others) ++
              'e' :: (intText (decimal.point - 1)).toList)) = _ :=
            ofDigits?_point (by simp) digitDigit fractionDigits
              (fun c isHead => (markEnds c isHead).1) suffix
          have exponent : decimal.point - 1 - (next :: others).length =
              decimal.point - (digit :: next :: others).length := by
            have oneMore : (digit :: next :: others).length = (next :: others).length + 1 :=
              List.length_cons
            rw [oneMore]
            omega
          rw [exponent] at reads
          exact reads.trans (congrArg some denoted)

/-- A number without a sign does not begin with one. -/
theorem ofText?_of_ofDigits? {text : List Char} (reads : ofDigits? false text = some value) :
    ofText? text = some value := by
  unfold ofText?
  split
  rename_i isNegative body matched
  have unsigned : isNegative = false ∧ body = text := by
    split at matched
    · simp [ofDigits?] at reads
    · simp [ofDigits?] at reads
    · cases matched
      exact ⟨rfl, rfl⟩
  obtain ⟨rfl, rfl⟩ := unsigned
  rw [reads, Option.some_or]

theorem ofText?_minus {text : List Char} (reads : ofDigits? true text = some value) :
    ofText? ('-' :: text) = some value := by
  simp [ofText?, reads]

/-- The text of a magnitude is read as that magnitude. -/
theorem ofDigits?_magnitudeText (style : Style) {significand exponent : Nat}
    (canonical : Canonical significand exponent) :
    ofDigits? negative (magnitudeText style significand exponent) =
      some (.finite negative significand exponent canonical) := by
  rw [magnitudeText]
  split
  · next isZero =>
      have leastExponent : exponent = 0 := by
        rcases canonical.2.1 with large | least
        · rw [isZero] at large
          exact absurd large (by decide)
        · exact least
      subst isZero leastExponent
      cases negative <;> rfl
  · next isNonzero =>
      have denotes := shortest_denotes negative canonical (Nat.pos_of_ne_zero isNonzero)
      dsimp only
      split
      · exact ofDigits?_positionalText denotes
      · exact ofDigits?_exponentText denotes

/-- The text of a value in any style is read as that value. -/
theorem ofText?_text (style : Style) (value : Binary64) :
    ofText? (value.text style) = some value := by
  cases value with
  | nan => rfl
  | infinite negative => cases negative <;> rfl
  | finite negative significand exponent canonical =>
      cases negative with
      | false => exact ofText?_of_ofDigits? (ofDigits?_magnitudeText style canonical)
      | true => exact ofText?_minus (ofDigits?_magnitudeText style canonical)

end Binary64

end TypedEnv.Decimal
