import TypedEnv.Proofs.Decimal.Integer
import TypedEnv.Proofs.Decimal.Reading
import TypedEnv.Proofs.Text.Characters

/-!
# Marks of a floating point number

The text of a floating point number shows that it is none of the integers: it
has a decimal point or an exponent, or it is one of the words for the values
that are not finite.
-/

namespace TypedEnv.Decimal

/-- The characters of which finite numbers are written. -/
def isNumberChar (c : Char) : Bool :=
  c.isDigit || c == '.' || c == 'e' || c == '-'

theorem isRadixMark_of_isNumberChar {c : Char} (isNumberChar : isNumberChar c = true) :
    isRadixMark c = false := by
  simp only [Decimal.isNumberChar, Bool.or_eq_true, beq_iff_eq] at isNumberChar
  rcases isNumberChar with ((isDigit | rfl) | rfl) | rfl
  · exact isRadixMark_of_isDigit isDigit
  · rfl
  · rfl
  · rfl

theorem isNumberChar_intText (n : Int) : ∀ c ∈ (intText n).toList, isNumberChar c = true := by
  have ofDigits : ∀ c ∈ digits n.natAbs, isNumberChar c = true := by
    intro c member
    simp [isNumberChar, isDigit_of_mem_digits member]
  intro c member
  rw [intText] at member
  split at member
  · have signOrDigit : c = '-' ∨ c ∈ digits n.natAbs := by simpa [natText] using member
    rcases signOrDigit with rfl | isDigit
    · rfl
    · exact ofDigits c isDigit
  · exact ofDigits c (by simpa [natText] using member)

/-- A text of digits, points, exponents and hyphens in which a point or an exponent stands. -/
structure IsMarked (text : List Char) : Prop where
  chars : ∀ c ∈ text, isNumberChar c = true
  mark : '.' ∈ text ∨ 'e' ∈ text

theorem IsMarked.noLiteral {text : List Char} (isMarked : IsMarked text) : NoLiteral text where
  unmarked := fun c member => isRadixMark_of_isNumberChar (isMarked.chars c member)
  outside := by
    rcases isMarked.mark with point | exponent
    · exact ⟨'.', point, by decide, by decide, by decide⟩
    · exact ⟨'e', exponent, by decide, by decide, by decide⟩

theorem IsMarked.minus {text : List Char} (isMarked : IsMarked text) : IsMarked ('-' :: text) where
  chars := by
    intro c member
    rcases List.mem_cons.mp member with rfl | inText
    · rfl
    · exact isMarked.chars c inText
  mark := isMarked.mark.imp (List.mem_cons_of_mem _) (List.mem_cons_of_mem _)

section Decimal

variable {decimal : DecimalText} (allDigits : ∀ c ∈ decimal.digits, c.isDigit = true)
include allDigits

theorem isMarked_positionalText : IsMarked (positionalText decimal) := by
  unfold positionalText
  dsimp only
  split
  · refine ⟨?_, by simp⟩
    intro c member
    simp only [List.mem_cons, List.mem_append, List.mem_replicate] at member
    rcases member with rfl | rfl | ⟨-, rfl⟩ | isDigit
    · rfl
    · rfl
    · rfl
    · simp [isNumberChar, allDigits c isDigit]
  · split
    · refine ⟨?_, by simp⟩
      intro c member
      simp only [List.mem_cons, List.mem_append, List.mem_replicate, List.not_mem_nil,
        or_false] at member
      rcases member with (isDigit | ⟨-, rfl⟩) | rfl | rfl
      · simp [isNumberChar, allDigits c isDigit]
      · rfl
      · rfl
      · rfl
    · refine ⟨?_, by simp⟩
      intro c member
      simp only [List.mem_cons, List.mem_append] at member
      rcases member with isDigit | rfl | isDigit
      · simp [isNumberChar, allDigits c (List.mem_of_mem_take isDigit)]
      · rfl
      · simp [isNumberChar, allDigits c (List.mem_of_mem_drop isDigit)]

theorem isMarked_exponentText : IsMarked (exponentText decimal) := by
  have tail := isNumberChar_intText (decimal.point - 1)
  unfold exponentText
  dsimp only
  split
  · refine ⟨?_, by simp⟩
    intro c member
    simp only [List.mem_cons] at member
    rcases member with rfl | rfl | inTail
    · rfl
    · rfl
    · exact tail c inTail
  · next digit written =>
      refine ⟨?_, by simp⟩
      intro c member
      simp only [List.mem_cons] at member
      rcases member with rfl | rfl | inTail
      · simp [isNumberChar, allDigits c (by simp [written])]
      · rfl
      · exact tail c inTail
  · next digit rest written =>
      refine ⟨?_, by simp⟩
      intro c member
      simp only [List.mem_cons, List.mem_append] at member
      rcases member with rfl | rfl | isDigit | rfl | inTail
      · simp [isNumberChar, allDigits c (by simp [written])]
      · rfl
      · simp [isNumberChar, allDigits c (by simp [written, isDigit])]
      · rfl
      · exact tail c inTail

end Decimal

namespace Binary64

theorem isMarked_magnitudeText (style : Style) {significand exponent : Nat}
    (canonical : Canonical significand exponent) :
    IsMarked (magnitudeText style significand exponent) := by
  rw [magnitudeText]
  split
  · exact ⟨Text.forall_mem_of_all (by decide), by decide⟩
  · next isNonzero =>
      have denotes := shortest_denotes false canonical (Nat.pos_of_ne_zero isNonzero)
      dsimp only
      split
      · exact isMarked_positionalText denotes.isDigit
      · exact isMarked_exponentText denotes.isDigit

/-- The text of a value is no integer literal. -/
theorem noLiteral_text (style : Style) (value : Binary64) : NoLiteral (value.text style) := by
  have nanText : NoLiteral "NaN".toList := ⟨Text.forall_mem_of_all (by decide), 'N', by decide⟩
  have infiniteText : NoLiteral "inf".toList := ⟨Text.forall_mem_of_all (by decide), 'i', by decide⟩
  have negativeText : NoLiteral "-inf".toList :=
    ⟨Text.forall_mem_of_all (by decide), 'i', by decide⟩
  cases value with
  | nan => exact nanText
  | infinite negative =>
      cases negative with
      | false => exact infiniteText
      | true => exact negativeText
  | finite negative significand exponent canonical =>
      have isMarked := isMarked_magnitudeText style canonical
      cases negative with
      | false => exact isMarked.noLiteral
      | true => exact isMarked.minus.noLiteral

end Binary64

end TypedEnv.Decimal
