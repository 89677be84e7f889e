import TypedEnv.Proofs.Value.Kind

/-!
# Inference and the rules of kinds

A value that is inferred from a text is the one that the rule of its kind reads
from that text.  Of all rules only that of durations can stop the program.
-/

namespace TypedEnv

theorem hasSchemeMark_eq_true_iff {text : List Char} :
    hasSchemeMark text = true ↔ [':', '/', '/'] <:+: text := by
  induction text with
  | nil => simp [hasSchemeMark]
  | cons c rest induction =>
      rw [hasSchemeMark, Bool.or_eq_true, List.isPrefixOf_iff_prefix, induction,
        List.infix_cons_iff]

theorem colon_of_hasSchemeMark {text : List Char} (marked : hasSchemeMark text = true) :
    ':' ∈ text :=
  (hasSchemeMark_eq_true_iff.mp marked).subset List.mem_cons_self

variable {text : String} {value : Value}

theorem parseAs_of_inferNumber? (found : inferNumber? text = some value) :
    parseAs value.kind text = .ok value := by
  simp only [inferNumber?, Option.or_eq_some_iff, Option.map_eq_some_iff] at found
  rcases found with (⟨number, reads, rfl⟩ | ⟨-, number, reads, rfl⟩) |
    ⟨-, ⟨number, reads, rfl⟩ | ⟨-, truth, reads, rfl⟩⟩
  · exact valueOr_eq_ok_iff.mpr (by rw [reads, Option.map_some])
  · exact valueOr_eq_ok_iff.mpr (by rw [reads, Option.map_some])
  · exact valueOr_eq_ok_iff.mpr (by rw [reads, Option.map_some])
  · exact valueOr_eq_ok_iff.mpr (by rw [reads, Option.map_some])

/-- What is inferred from a text is read from it by the rule of its kind. -/
theorem parseAs_of_infer (inferred : infer text = .ok value) :
    parseAs value.kind text = .ok value := by
  rcases of_infer inferred with found | ⟨span, reads, rfl⟩ | ⟨nonempty, marked, parsed⟩ | rfl
  · exact parseAs_of_inferNumber? found
  · rw [Value.kind, parseAs, reads]
    rfl
  · rw [kind_of_parseUrl parsed, parseAs, if_neg nonempty, if_pos marked]
    exact Outcome.ofError_eq_ok_iff.mpr parsed
  · rfl

section Stopping

variable {reason : Abort}

theorem valueOr_ne_abort {mismatch : Mismatch} {found : Option Value} :
    valueOr text mismatch found ≠ .error (.abort reason) := by
  cases found <;> simp [valueOr]

/-- Reading by the rule of a kind stops the program only for durations. -/
theorem parseAs_eq_abort_iff {kind : Kind} : parseAs kind text = .error (.abort reason) ↔
    kind = .duration ∧ Duration.read? text.toList = .error reason := by
  cases kind with
  | int => simp [parseAs, valueOr_ne_abort]
  | uint => simp [parseAs, valueOr_ne_abort]
  | float => simp [parseAs, valueOr_ne_abort]
  | bool => simp [parseAs, valueOr_ne_abort]
  | duration =>
      rw [parseAs]
      cases Duration.read? text.toList with
      | error other => simp [Outcome.ofAbort, bind, Except.bind]
      | ok span? => simp [Outcome.ofAbort, bind, Except.bind, valueOr_ne_abort]
  | url =>
      rw [parseAs]
      split
      · simp
      · split
        · simp [Outcome.ofError_ne_abort]
        · simp
  | string => simp [parseAs]
  | stringList => simp [parseAs]

/-- Inference stops the program only at a text that is no number and no truth value. -/
theorem infer_eq_abort_iff : infer text = .error (.abort reason) ↔
    text ≠ "" ∧ inferNumber? text = none ∧ Duration.read? text.toList = .error reason := by
  rw [infer]
  split
  · next isEmpty => simp [String.isEmpty_iff.mp isEmpty]
  · next nonempty =>
      have filled : text ≠ "" := mt String.isEmpty_iff.mpr nonempty
      cases inferNumber? text with
      | some value => simp
      | none =>
          cases Duration.read? text.toList with
          | error other => simp [filled]
          | ok span? =>
              cases span? with
              | some span => simp
              | none =>
                  dsimp only
                  split
                  · simp [Outcome.ofError_ne_abort]
                  · simp

end Stopping

end TypedEnv
