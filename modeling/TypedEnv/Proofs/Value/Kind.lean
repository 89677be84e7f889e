import TypedEnv.Proofs.Outcome
import TypedEnv.Registry.Error

/-!
# Values keep their kinds

A text that is read by the rule of a kind has a value of that kind, and every
value can be read in the type of its own kind.  Lists come from no text that
is read without a kind.
-/

namespace TypedEnv

theorem valueOr_eq_ok_iff {text : String} {reason : Mismatch} {found : Option Value}
    {value : Value} : valueOr text reason found = .ok value ↔ found = some value := by
  cases found <;> simp [valueOr]

theorem kind_of_parseUrl {text : String} {value : Value} (success : parseUrl text = .ok value) :
    value.kind = .url := by
  rw [parseUrl] at success
  split at success
  · cases success
    rfl
  · cases success

/-- The rule of a kind gives values of that kind only. -/
theorem kind_of_parseAs {kind : Kind} {text : String} {value : Value}
    (success : parseAs kind text = .ok value) : value.kind = kind := by
  cases kind with
  | int =>
      obtain ⟨number, -, rfl⟩ := Option.map_eq_some_iff.mp (valueOr_eq_ok_iff.mp success)
      rfl
  | uint =>
      obtain ⟨number, -, rfl⟩ := Option.map_eq_some_iff.mp (valueOr_eq_ok_iff.mp success)
      rfl
  | float =>
      obtain ⟨number, -, rfl⟩ := Option.map_eq_some_iff.mp (valueOr_eq_ok_iff.mp success)
      rfl
  | bool =>
      obtain ⟨truth, -, rfl⟩ := Option.map_eq_some_iff.mp (valueOr_eq_ok_iff.mp success)
      rfl
  | duration =>
      obtain ⟨span?, -, found⟩ := bind_eq_ok_iff.mp success
      obtain ⟨span, -, rfl⟩ := Option.map_eq_some_iff.mp (valueOr_eq_ok_iff.mp found)
      rfl
  | url =>
      rw [parseAs] at success
      split at success
      · cases success
        rfl
      · split at success
        · exact kind_of_parseUrl (Outcome.ofError_eq_ok_iff.mp success)
        · cases success
  | string =>
      cases success
      rfl
  | stringList =>
      cases success
      rfl

section Refused

variable {text : String} {cause : InferError}

theorem of_valueOr_eq_error {reason : Mismatch} {found : Option Value}
    (refused : valueOr text reason found = .error (.error cause)) : cause = ⟨text, reason⟩ := by
  cases found with
  | some value => cases refused
  | none =>
      cases refused
      rfl

/-- A rule that refuses a text names the text and its own kind. -/
theorem of_parseAs_eq_error {kind : Kind} (refused : parseAs kind text = .error (.error cause)) :
    cause.text = text ∧ cause.reason.kind = kind := by
  cases kind with
  | int =>
      obtain rfl := of_valueOr_eq_error refused
      exact ⟨rfl, rfl⟩
  | uint =>
      obtain rfl := of_valueOr_eq_error refused
      exact ⟨rfl, rfl⟩
  | float =>
      obtain rfl := of_valueOr_eq_error refused
      exact ⟨rfl, rfl⟩
  | bool =>
      obtain rfl := of_valueOr_eq_error refused
      exact ⟨rfl, rfl⟩
  | duration =>
      rw [parseAs] at refused
      cases reads : Duration.read? text.toList with
      | error reason =>
          rw [reads] at refused
          cases refused
      | ok span? =>
          rw [reads] at refused
          obtain rfl := of_valueOr_eq_error refused
          exact ⟨rfl, rfl⟩
  | url =>
      rw [parseAs] at refused
      split at refused
      · cases refused
      · split at refused
        · rw [parseUrl] at refused
          split at refused
          · cases refused
          · cases refused
            exact ⟨rfl, rfl⟩
        · cases refused
          exact ⟨rfl, rfl⟩
  | string => cases refused
  | stringList => cases refused

end Refused

/-- The kinds that are tried before durations. -/
theorem kind_of_inferNumber? {text : String} {value : Value}
    (found : inferNumber? text = some value) :
    value.kind ∈ [Kind.int, .uint, .float, .bool] := by
  simp only [inferNumber?, Option.or_eq_some_iff, Option.map_eq_some_iff] at found
  rcases found with (⟨_, -, rfl⟩ | ⟨-, _, -, rfl⟩) | ⟨-, ⟨_, -, rfl⟩ | ⟨-, _, -, rfl⟩⟩
  · simp [Value.kind]
  · simp [Value.kind]
  · simp [Value.kind]
  · simp [Value.kind]

/-- A value that is inferred from a text is a number or a truth value, a duration, an address, or
the text itself. -/
theorem of_infer {text : String} {value : Value} (success : infer text = .ok value) :
    inferNumber? text = some value ∨
      (∃ span, Duration.read? text.toList = .ok (some span) ∧ value = .duration span) ∨
      (¬ text.isEmpty = true ∧ hasSchemeMark text.toList = true ∧ parseUrl text = .ok value) ∨
      value = .string text := by
  rw [infer] at success
  split at success
  · cases success
    exact .inr (.inr (.inr rfl))
  · next nonempty =>
      split at success
      · next found =>
          cases success
          exact .inl found
      · split at success
        · cases success
        · next span reads =>
            cases success
            exact .inr (.inl ⟨span, reads, rfl⟩)
        · split at success
          · next marked =>
              have parsed := Outcome.ofError_eq_ok_iff.mp success
              exact .inr (.inr (.inl ⟨nonempty, marked, parsed⟩))
          · cases success
            exact .inr (.inr (.inr rfl))

theorem kind_of_infer {text : String} {value : Value} (success : infer text = .ok value) :
    value.kind ≠ .stringList := by
  rcases of_infer success with found | ⟨span, -, rfl⟩ | ⟨-, -, parsed⟩ | rfl
  · intro isList
    have isNumber := kind_of_inferNumber? found
    simp [isList] at isNumber
  · simp [Value.kind]
  · simp [kind_of_parseUrl parsed]
  · simp [Value.kind]

/-- Every value can be read in the type of its kind. -/
theorem Value.convert_kind (value : Value) (name : String) :
    value.convert (.exactly value.kind) name = .ok value := by
  cases value <;> rfl

end TypedEnv
