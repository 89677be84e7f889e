import TypedEnv.Proofs.Decimal.FloatText
import TypedEnv.Proofs.Duration.Spans
import TypedEnv.Proofs.Value.Inference

/-!
# Literals as values

A literal is read by the rules of integers when its number is in their range.
Without a rule it is inferred as the first of these that has room for it; what
is too large for both is a float in base ten, and a string with the mark of a
radix.
-/

namespace TypedEnv

section Ranges

theorem exists_toInt_eq_iff {value : Int} :
    (∃ number : Int64, value = number.toInt) ↔ -2 ^ 63 ≤ value ∧ value < 2 ^ 63 := by
  constructor
  · rintro ⟨number, rfl⟩
    exact ⟨number.le_toInt, number.toInt_lt⟩
  · rintro ⟨low, high⟩
    exact ⟨Int64.ofInt value, (Int64.toInt_ofInt_of_le low high).symm⟩

theorem exists_toNat_eq_iff {magnitude : Nat} :
    (∃ number : UInt64, magnitude = number.toNat) ↔ magnitude < 2 ^ 64 := by
  constructor
  · rintro ⟨number, rfl⟩
    exact number.toNat_lt
  · intro small
    exact ⟨UInt64.ofNat magnitude, (UInt64.toNat_ofNat_of_lt small).symm⟩

end Ranges

namespace Decimal.Literal

variable {text : String} {literal : Literal}

theorem parseAs_int_iff {number : Int64} : parseAs .int text = .ok (.int number) ↔
    ∃ literal : Literal, literal.IsWritten text.toList ∧ literal.value = number.toInt := by
  rw [← int64?_eq_some_iff, parseAs, valueOr_eq_ok_iff]
  simp

theorem parseAs_uint_iff {number : UInt64} : parseAs .uint text = .ok (.uint number) ↔
    ∃ literal : Literal, literal.IsWritten text.toList ∧ literal.negative = false ∧
      literal.magnitude = number.toNat := by
  rw [← uint64?_eq_some_iff, parseAs, valueOr_eq_ok_iff]
  simp

section Accepted

variable {value : Value}

theorem parseAs_int_accepts_iff : (∃ value, parseAs .int text = .ok value) ↔
    ∃ literal : Literal, literal.IsWritten text.toList ∧
      -2 ^ 63 ≤ literal.value ∧ literal.value < 2 ^ 63 := by
  simp only [← exists_toInt_eq_iff, ← exists_and_left]
  rw [exists_comm]
  simp only [← parseAs_int_iff]
  constructor
  · rintro ⟨value, accepted⟩
    cases value with
    | int number => exact ⟨number, accepted⟩
    | _ => cases kind_of_parseAs accepted
  · rintro ⟨number, accepted⟩
    exact ⟨_, accepted⟩

theorem parseAs_uint_accepts_iff : (∃ value, parseAs .uint text = .ok value) ↔
    ∃ literal : Literal, literal.IsWritten text.toList ∧ literal.negative = false ∧
      literal.magnitude < 2 ^ 64 := by
  simp only [← exists_toNat_eq_iff, ← exists_and_left]
  rw [exists_comm]
  simp only [← parseAs_uint_iff]
  constructor
  · rintro ⟨value, accepted⟩
    cases value with
    | uint number => exact ⟨number, accepted⟩
    | _ => cases kind_of_parseAs accepted
  · rintro ⟨number, accepted⟩
    exact ⟨_, accepted⟩

end Accepted

theorem int64?_of_isWritten {text : List Char} (written : literal.IsWritten text) : int64? text =
    if -2 ^ 63 ≤ literal.value ∧ literal.value < 2 ^ 63 then some (Int64.ofInt literal.value)
    else none := by
  have limits : Int64.minValue.toInt = -2 ^ 63 ∧ Int64.maxValue.toInt = 2 ^ 63 - 1 := by decide
  rw [int64?, literal?_eq_some_iff.mpr ⟨literal, written, rfl⟩, Option.bind_some, limits.1,
    limits.2]
  simp only [Int.le_sub_one_iff]

theorem uint64?_of_isWritten {text : List Char} (written : literal.IsWritten text) :
    uint64? text =
      if literal.negative = false ∧ literal.magnitude < 2 ^ 64 then
        some (UInt64.ofNat literal.magnitude)
      else none := by
  obtain ⟨sameSign, found⟩ := exists_isWritten_iff.mpr ⟨literal.radix, written⟩
  rw [uint64?_eq, sameSign, found, Option.bind_some, UInt64.size]
  cases literal.negative with
  | false => simp
  | true => simp

theorem value_of_unsigned (unsigned : literal.negative = false) :
    literal.value = literal.magnitude := by
  simp [value, unsigned]

section Inferred

variable (written : literal.IsWritten text.toList)
include written

theorem nonempty_of_isWritten : text ≠ "" := by
  rintro rfl
  exact written.ne_nil rfl

theorem infer_int (low : -2 ^ 63 ≤ literal.value) (high : literal.value < 2 ^ 63) :
    ∃ number : Int64, number.toInt = literal.value ∧ infer text = .ok (.int number) := by
  refine ⟨Int64.ofInt literal.value, Int64.toInt_ofInt_of_le low high, ?_⟩
  apply infer_of_inferNumber? (nonempty_of_isWritten written)
  rw [inferNumber?, int64?_of_isWritten written, if_pos ⟨low, high⟩]
  rfl

theorem infer_uint (low : 2 ^ 63 ≤ literal.value) (high : literal.value < 2 ^ 64) :
    ∃ number : UInt64, (number.toNat : Int) = literal.value ∧ infer text = .ok (.uint number) := by
  have unsigned : literal.negative = false := by
    rw [Bool.eq_false_iff]
    intro negative
    rw [value, if_pos negative] at low
    omega
  have same := value_of_unsigned unsigned
  have small : literal.magnitude < 2 ^ 64 := by omega
  refine ⟨UInt64.ofNat literal.magnitude, ?_, ?_⟩
  · rw [UInt64.toNat_ofNat_of_lt' small, same]
  · apply infer_of_inferNumber? (nonempty_of_isWritten written)
    rw [inferNumber?, int64?_of_isWritten written, if_neg (fun range => Int.not_lt.mpr low range.2),
      uint64?_of_isWritten written, if_pos ⟨unsigned, small⟩]
    rfl

section TooLarge

variable (noInt : int64? text.toList = none) (noUint : uint64? text.toList = none)
include noInt noUint

theorem infer_decimal (isDecimal : literal.radix = .decimal) :
    infer text = .ok (.float (Binary64.ofDecimal literal.negative literal.magnitude 0)) := by
  have float := Binary64.ofText?_literal written
  rw [if_pos isDecimal] at float
  apply infer_of_inferNumber? (nonempty_of_isWritten written)
  simp [inferNumber?, noInt, noUint, float]

/-- No other kind is written with a zero and the letter of a radix. -/
theorem infer_marked (marked : literal.radix ≠ .decimal) : infer text = .ok (.string text) := by
  obtain ⟨zero, letter, isLetter, inText⟩ := written.exists_letter marked
  have noDigit : ∀ letter ∈ ['x', 'X', 'o', 'O', 'b', 'B'], letter.isDigit = false :=
    Text.forall_mem_of_all (by decide)
  have noSpan : ∀ letter ∈ ['x', 'X', 'o', 'O', 'b', 'B'], ¬ Span.IsSpanChar letter :=
    Text.forall_mem_of_all (by decide)
  have noFloat : Binary64.ofText? text.toList = none := by
    rw [Binary64.ofText?_literal written, if_neg marked]
  have noBool : bool? text = none := bool?_eq_none zero rfl inText (noDigit letter isLetter)
  have noNumber : inferNumber? text = none := by
    simp [inferNumber?, noInt, noUint, noFloat, noBool]
  have noDuration : Duration.read? text.toList = .ok none :=
    Duration.read?_of_not_isSpanText fun isSpanText =>
      noSpan letter isLetter (isSpanText.chars letter inText)
  have noAddress : ¬ hasSchemeMark text.toList = true := mt colon_of_hasSchemeMark written.no_colon
  rw [infer, if_neg (mt String.isEmpty_iff.mp (nonempty_of_isWritten written)), noNumber,
    noDuration]
  exact if_neg noAddress

end TooLarge

/-- What is too large for an integer is a float only without the mark of a radix. -/
theorem infer_too_large (outside : literal.value < -2 ^ 63 ∨ 2 ^ 64 ≤ literal.value) :
    infer text = .ok
      (if literal.radix = .decimal then
        .float (Binary64.ofDecimal literal.negative literal.magnitude 0)
      else .string text) := by
  have noInt : int64? text.toList = none := by
    rw [int64?_of_isWritten written, if_neg (by omega)]
  have noUint : uint64? text.toList = none := by
    rw [uint64?_of_isWritten written, if_neg]
    rintro ⟨unsigned, small⟩
    rw [value_of_unsigned unsigned] at outside
    omega
  split
  · next isDecimal => exact infer_decimal written noInt noUint isDecimal
  · next marked => exact infer_marked written noInt noUint marked

end Inferred

/-- Texts are read as integers exactly when they are literals in the range of the kind, and a
literal is inferred as the first kind of integers that has its number. -/
theorem read_by_range (text : String) :
    (∀ number : Int64, parseAs .int text = .ok (.int number) ↔
      ∃ literal : Literal, literal.IsWritten text.toList ∧ literal.value = number.toInt) ∧
    ((∃ value, parseAs .int text = .ok value) ↔
      ∃ literal : Literal, literal.IsWritten text.toList ∧
        -2 ^ 63 ≤ literal.value ∧ literal.value < 2 ^ 63) ∧
    (∀ number : UInt64, parseAs .uint text = .ok (.uint number) ↔
      ∃ literal : Literal, literal.IsWritten text.toList ∧ literal.negative = false ∧
        literal.magnitude = number.toNat) ∧
    ((∃ value, parseAs .uint text = .ok value) ↔
      ∃ literal : Literal, literal.IsWritten text.toList ∧ literal.negative = false ∧
        literal.magnitude < 2 ^ 64) ∧
    ∀ literal : Literal, literal.IsWritten text.toList →
      (-2 ^ 63 ≤ literal.value → literal.value < 2 ^ 63 →
        ∃ number : Int64, number.toInt = literal.value ∧ infer text = .ok (.int number)) ∧
      (2 ^ 63 ≤ literal.value → literal.value < 2 ^ 64 →
        ∃ number : UInt64, (number.toNat : Int) = literal.value ∧
          infer text = .ok (.uint number)) ∧
      (literal.value < -2 ^ 63 ∨ 2 ^ 64 ≤ literal.value →
        infer text = .ok
          (if literal.radix = .decimal then
            .float (Binary64.ofDecimal literal.negative literal.magnitude 0)
          else .string text)) := by
  refine ⟨fun number => parseAs_int_iff, parseAs_int_accepts_iff, fun number => parseAs_uint_iff,
    parseAs_uint_accepts_iff, fun literal written => ⟨?_, ?_, ?_⟩⟩
  · exact infer_int written
  · exact infer_uint written
  · exact infer_too_large written

/-- The least signed number, the greatest unsigned one, and literals that are too large in base
ten and in base eight. -/
theorem read_by_range_limits :
    (IsWritten ⟨true, .hexadecimal, 2 ^ 63⟩ "-0x8000000000000000".toList ∧
      ∃ number : Int64, number.toInt = -2 ^ 63 ∧
        infer "-0x8000000000000000" = .ok (.int number)) ∧
    (IsWritten ⟨false, .hexadecimal, 2 ^ 64 - 1⟩ "+0XFFFFffffFFFFffff".toList ∧
      ∃ number : UInt64, (number.toNat : Int) = 2 ^ 64 - 1 ∧
        infer "+0XFFFFffffFFFFffff" = .ok (.uint number)) ∧
    (IsWritten ⟨true, .decimal, 2 ^ 63 + 1⟩ "-9223372036854775809".toList ∧
      infer "-9223372036854775809" = .ok (.float (Binary64.ofDecimal true (2 ^ 63 + 1) 0))) ∧
    (IsWritten ⟨false, .octal, 2 ^ 64⟩ "0o2000000000000000000000".toList ∧
      infer "0o2000000000000000000000" = .ok (.string "0o2000000000000000000000")) := by
  have lowest : IsWritten ⟨true, .hexadecimal, 2 ^ 63⟩
      (['-'] ++ (['0', 'x'] ++ "8000000000000000".toList)) :=
    .intro (by decide) (by decide) (by decide)
      ((ofDigits?_eq_some_iff (by decide)).mp (by decide +kernel))
  have highest : IsWritten ⟨false, .hexadecimal, 2 ^ 64 - 1⟩
      (['+'] ++ (['0', 'X'] ++ "FFFFffffFFFFffff".toList)) :=
    .intro (by decide) (by decide) (by decide)
      ((ofDigits?_eq_some_iff (by decide)).mp (by decide +kernel))
  have tooLow : IsWritten ⟨true, .decimal, 2 ^ 63 + 1⟩
      (['-'] ++ ([] ++ "9223372036854775809".toList)) :=
    .intro (by decide) (by decide) (by decide)
      ((ofDigits?_eq_some_iff (by decide)).mp (by decide +kernel))
  have tooHigh : IsWritten ⟨false, .octal, 2 ^ 64⟩
      ([] ++ (['0', 'o'] ++ "2000000000000000000000".toList)) :=
    .intro (by decide) (by decide) (by decide)
      ((ofDigits?_eq_some_iff (by decide)).mp (by decide +kernel))
  refine ⟨⟨lowest, ?_⟩, ⟨highest, ?_⟩, ⟨tooLow, ?_⟩, tooHigh, ?_⟩
  · exact ((read_by_range "-0x8000000000000000").2.2.2.2 _ lowest).1 (by decide) (by decide)
  · exact ((read_by_range "+0XFFFFffffFFFFffff").2.2.2.2 _ highest).2.1 (by decide) (by decide)
  · exact ((read_by_range "-9223372036854775809").2.2.2.2 _ tooLow).2.2 (by decide)
  · exact ((read_by_range "0o2000000000000000000000").2.2.2.2 _ tooHigh).2.2 (by decide)

end Decimal.Literal

end TypedEnv
