import TypedEnv.Module.Meaning
import TypedEnv.Proofs.Decimal.Reading

/-!
# Expressions for defaults

The expression that a module holds for a default has the value of that default
again, whatever its kind: integers of either sign, floats with all their
digits, durations with and without a fraction.  Only an address is not written
down but read again from its text, so it is `Value.reread` that the module
works with.
-/

namespace TypedEnv

/-- A value as it comes back from an expression: an address is read again from its text. -/
def Value.reread : Value → Value
  | .url (some address) => .url (Url.read address.render.toList).toOption
  | value => value

theorem Value.kind_reread (value : Value) : value.reread.kind = value.kind := by
  cases value with
  | url address => cases address <;> rfl
  | _ => rfl

theorem Value.reread_of_isEmpty {value : Value} (isEmpty : value.isEmpty = true) :
    value.reread = value := by
  cases value with
  | url address =>
      cases address with
      | none => rfl
      | some address => cases isEmpty
  | _ => rfl

namespace Module

theorem value?_integer (number : Int64) :
    DefaultExpr.value? .int (.integer (number < 0) number.toInt.natAbs) = some (.int number) := by
  have signed : (if decide (number < 0) = true then -(number.toInt.natAbs : Int)
      else number.toInt.natAbs) = number.toInt := by
    by_cases below : number < 0
    · have negative : number.toInt < 0 := by simpa [Int64.lt_iff_toInt_lt] using below
      rw [if_pos (by simpa using below)]
      omega
    · have positive : ¬number.toInt < 0 := by simpa [Int64.lt_iff_toInt_lt] using below
      rw [if_neg (by simpa using below)]
      omega
  have range : Int64.minValue.toInt ≤ number.toInt ∧ number.toInt ≤ Int64.maxValue.toInt :=
    ⟨number.minValue_le_toInt, number.toInt_le⟩
  simp only [DefaultExpr.value?, signed, if_pos range, Int64.ofInt_toInt]

theorem value?_unsigned (number : UInt64) :
    DefaultExpr.value? .uint (.integer false number.toNat) = some (.uint number) := by
  have range : number.toNat < UInt64.size := number.toNat_lt
  simp only [DefaultExpr.value?, if_pos range, UInt64.ofNat_toNat]

theorem value?_decimal {negative : Bool} {significand exponent : Nat}
    (canonical : Decimal.Canonical significand exponent) :
    DefaultExpr.value? .float
        (.decimal negative (Decimal.Binary64.magnitudeText .plain significand exponent)) =
      some (.float (.finite negative significand exponent canonical)) := by
  have reads := Decimal.Binary64.ofText?_text .plain
    (.finite negative significand exponent canonical)
  exact congrArg (Option.map Value.float) reads

theorem value?_duration (span : Duration) :
    (DefaultExpr.ofValue (.duration span)).value? .duration = some (.duration span) := by
  obtain ⟨seconds, nanoseconds, secondsRange, nanosecondsRange⟩ := span
  by_cases whole : nanoseconds = 0
  · subst whole
    simp [DefaultExpr.ofValue, DefaultExpr.value?, Duration.ofParts?, secondsRange,
      nanosecondsRange]
  · simp [DefaultExpr.ofValue, DefaultExpr.value?, Duration.ofParts?, whole, secondsRange,
      nanosecondsRange]

/-- The expression for a value has that value again, with an address read once more. -/
theorem value?_ofValue (value : Value) :
    (DefaultExpr.ofValue value).value? value.kind = some value.reread := by
  cases value with
  | int number => exact value?_integer number
  | uint number => exact value?_unsigned number
  | float number =>
      cases number with
      | nan => rfl
      | infinite negative => rfl
      | finite negative significand exponent canonical => exact value?_decimal canonical
  | bool truth => rfl
  | duration span => exact value?_duration span
  | url address => cases address <;> rfl
  | string text => rfl
  | stringList items => rfl

/-- The test for a kind holds of exactly those of its values that count as not set. -/
theorem holds?_ofKind? {value : Value} {test : EmptyTest}
    (tested : EmptyTest.ofKind? value.kind = some test) :
    test.holds? value = some value.isEmpty := by
  cases value <;> cases tested <;> rfl

end Module

end TypedEnv
