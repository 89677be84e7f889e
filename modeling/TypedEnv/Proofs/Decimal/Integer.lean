import TypedEnv.Decimal.Integer
import TypedEnv.Proofs.Decimal.Digits

/-!
# Integer literals

A written integer is a literal, and it is read as that integer when it fits.
A text is no literal when one of its characters is neither a digit nor a sign,
provided that none of them can mark a radix.
-/

namespace TypedEnv.Decimal

/-- The letters that choose a radix when they follow a zero. -/
def isRadixMark (c : Char) : Bool :=
  ['x', 'X', 'o', 'O', 'b', 'B'].contains c

variable {text : List Char}

theorem isRadixMark_of_isDigit {c : Char} (isDigit : c.isDigit = true) : isRadixMark c = false := by
  cases marks : isRadixMark c with
  | false => rfl
  | true =>
      simp only [isRadixMark, List.contains_iff_mem, List.mem_cons, List.not_mem_nil,
        or_false] at marks
      rcases marks with rfl | rfl | rfl | rfl | rfl | rfl <;> cases isDigit

theorem splitRadix_of_unmarked (unmarked : ∀ c ∈ text, isRadixMark c = false) :
    splitRadix text = (10, text) := by
  unfold splitRadix
  split
  · next mark rest =>
      have plain : isRadixMark mark = false := unmarked mark (by simp)
      split
      · cases plain
      · cases plain
      · cases plain
      · cases plain
      · cases plain
      · cases plain
      · rfl
  · rfl

theorem splitSign_digits (n : Nat) : splitSign (digits n) = (false, digits n) := by
  obtain ⟨first, rest, isCons⟩ := List.exists_cons_of_ne_nil (digits_ne_nil n)
  have firstDigit : first.isDigit = true := by
    apply isDigit_of_mem_digits (n := n)
    rw [isCons]
    exact List.mem_cons_self
  rw [isCons]
  unfold splitSign
  split
  · next found =>
      obtain ⟨rfl, -⟩ := List.cons.inj found
      cases firstDigit
  · next found =>
      obtain ⟨rfl, -⟩ := List.cons.inj found
      cases firstDigit
  · rfl

theorem magnitude?_digits (n : Nat) : magnitude? (digits n) = some n := by
  have unmarked : ∀ c ∈ digits n, isRadixMark c = false :=
    fun c member => isRadixMark_of_isDigit (isDigit_of_mem_digits member)
  rw [magnitude?, splitRadix_of_unmarked unmarked]
  simp [digits_ne_nil, ofDigits?_digits]

theorem literal?_digits (n : Nat) : literal? (digits n) = some (n : Int) := by
  simp [literal?, splitSign_digits, magnitude?_digits]

theorem literal?_intText (n : Int) : literal? (intText n).toList = some n := by
  rw [intText]
  split
  · next negative =>
      have written : ("-" ++ natText n.natAbs).toList = '-' :: digits n.natAbs := by
        simp [natText]
      have signed : -(n.natAbs : Int) = n := by omega
      have negated : literal? ('-' :: digits n.natAbs) = some (-(n.natAbs : Int)) := by
        simp [literal?, splitSign, magnitude?_digits]
      rw [written, negated, signed]
  · next positive =>
      have unsigned : (n.natAbs : Int) = n := by omega
      rw [natText, String.toList_ofList, literal?_digits, unsigned]

/-- A written integer of 64 bits with a sign is read back. -/
theorem int64?_intText (number : Int64) : int64? (intText number.toInt).toList = some number := by
  have range : Int64.minValue.toInt ≤ number.toInt ∧ number.toInt ≤ Int64.maxValue.toInt :=
    ⟨number.minValue_le_toInt, number.toInt_le⟩
  rw [int64?, literal?_intText, Option.bind_some, if_pos range, Int64.ofInt_toInt]

/-- A number that is too large for a sign is not read as signed. -/
theorem int64?_natText_eq_none {n : Nat} (large : Int64.maxValue.toInt < n) :
    int64? (natText n).toList = none := by
  rw [int64?, natText, String.toList_ofList, literal?_digits, Option.bind_some,
    if_neg fun range => Int.not_lt.mpr range.2 large]

/-- A written integer of 64 bits without a sign is read back. -/
theorem uint64?_natText (number : UInt64) :
    uint64? (natText number.toNat).toList = some number := by
  have range : number.toNat < UInt64.size := number.toNat_lt
  rw [natText, String.toList_ofList, uint64?, splitSign_digits]
  dsimp only
  rw [magnitude?_digits, if_neg Bool.false_ne_true, Option.bind_some, if_pos range,
    UInt64.ofNat_toNat]

/-- A text with a character that is no digit denotes no number. -/
theorem ofDigits?_eq_none {radix : Nat} {c : Char} (member : c ∈ text)
    (outside : digitValue? radix c = none) : ofDigits? radix text = none := by
  have fold : ∀ start, text.foldlM
      (fun value c => (digitValue? radix c).map (value * radix + ·)) start = none := by
    induction text with
    | nil => cases member
    | cons first rest induction =>
        intro start
        rw [List.foldlM_cons]
        cases isDigit : digitValue? radix first with
        | none => rfl
        | some digit =>
            rcases List.mem_cons.mp member with rfl | inRest
            · rw [outside] at isDigit
              cases isDigit
            · exact induction inRest _
  exact fold 0

/-- A text that cannot be an integer literal: no letter marks a radix, and some character is
neither a digit nor a sign. -/
structure NoLiteral (text : List Char) : Prop where
  unmarked : ∀ c ∈ text, isRadixMark c = false
  outside : ∃ c ∈ text, digitValue? 10 c = none ∧ c ≠ '-' ∧ c ≠ '+'

theorem magnitude?_eq_none (noLiteral : NoLiteral text) :
    magnitude? (splitSign text).2 = none := by
  obtain ⟨unmarked, c, member, outside, notMinus, notPlus⟩ := noLiteral
  have behindSign : (∀ d ∈ (splitSign text).2, isRadixMark d = false) ∧ c ∈ (splitSign text).2 := by
    unfold splitSign
    split
    · next rest =>
        exact ⟨fun d inRest => unmarked d (List.mem_cons_of_mem _ inRest),
          List.mem_of_ne_of_mem notMinus member⟩
    · next rest =>
        exact ⟨fun d inRest => unmarked d (List.mem_cons_of_mem _ inRest),
          List.mem_of_ne_of_mem notPlus member⟩
    · exact ⟨unmarked, member⟩
  rw [magnitude?, splitRadix_of_unmarked behindSign.1]
  simp [ofDigits?_eq_none behindSign.2 outside]

theorem int64?_eq_none (noLiteral : NoLiteral text) : int64? text = none := by
  simp [int64?, literal?, magnitude?_eq_none noLiteral]

theorem uint64?_eq_none (noLiteral : NoLiteral text) : uint64? text = none := by
  simp [uint64?, magnitude?_eq_none noLiteral]

end TypedEnv.Decimal
