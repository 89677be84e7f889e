/-!
# Characters

Digits and letters are ranges of code points.  What holds of the characters of
a short list is decided along the list, and not for all characters there are.
-/

namespace TypedEnv.Text

theorem isDigit_iff {c : Char} : c.isDigit = true ↔ 48 ≤ c.toNat ∧ c.toNat ≤ 57 := by
  simp [Char.isDigit, UInt32.le_iff_toNat_le]

theorem isAlpha_iff {c : Char} : c.isAlpha = true ↔
    (65 ≤ c.toNat ∧ c.toNat ≤ 90) ∨ (97 ≤ c.toNat ∧ c.toNat ≤ 122) := by
  change (decide (c.val ≥ 'A'.val ∧ c.val ≤ 'Z'.val) ||
    (decide (c.val ≥ 'a'.val) && decide (c.val ≤ 'z'.val))) = true ↔ _
  simp [UInt32.le_iff_toNat_le]

theorem isAlpha_of_isDigit {c : Char} (isDigit : c.isDigit = true) : c.isAlpha = false := by
  have range := isDigit_iff.mp isDigit
  rw [Bool.eq_false_iff]
  intro isAlpha
  have other := isAlpha_iff.mp isAlpha
  omega

/-- Only letters have another form in lower case. -/
theorem toLower_of_not_isAlpha {c : Char} (noLetter : c.isAlpha = false) : c.toLower = c := by
  apply dif_neg
  rintro ⟨low, high⟩
  have isAlpha : c.isAlpha = true :=
    isAlpha_iff.mpr (.inl ⟨UInt32.le_iff_toNat_le.mp low, UInt32.le_iff_toNat_le.mp high⟩)
  rw [noLetter] at isAlpha
  cases isAlpha

/-- Capital letters stand 32 places before their small forms. -/
theorem toNat_toLower (c : Char) :
    c.toLower.toNat = if 65 ≤ c.toNat ∧ c.toNat ≤ 90 then c.toNat + 32 else c.toNat := by
  unfold Char.toLower
  split
  · next capital =>
      have range : 65 ≤ c.toNat ∧ c.toNat ≤ 90 :=
        capital.imp UInt32.le_iff_toNat_le.mp UInt32.le_iff_toNat_le.mp
      have inWord : c.toNat + 32 < 2 ^ 32 := by omega
      rw [if_pos range]
      exact Nat.mod_eq_of_lt inWord
  · next other =>
      have outside : ¬ (65 ≤ c.toNat ∧ c.toNat ≤ 90) := fun range =>
        other (range.imp UInt32.le_iff_toNat_le.mpr UInt32.le_iff_toNat_le.mpr)
      rw [if_neg outside]

theorem isAlphanum_toLower (c : Char) : c.toLower.isAlphanum = c.isAlphanum := by
  rw [Bool.eq_iff_iff]
  simp only [Char.isAlphanum, Bool.or_eq_true, isAlpha_iff, isDigit_iff, toNat_toLower]
  split
  · omega
  · rfl

variable {characters : List Char} {holds : Char → Prop} [DecidablePred holds]

theorem forall_mem_of_all (all : characters.all (fun c => holds c) = true) :
    ∀ c ∈ characters, holds c := by
  simpa using all

/-- A character that passes a test is none of some characters that fail it. -/
theorem not_mem_of_test {test : Char → Bool} {answer : Bool} {c : Char} (passes : test c = answer)
    (others : characters.all (fun other => test other != answer) = true) : c ∉ characters := by
  intro member
  have differs := List.all_eq_true.mp others c member
  simp [passes] at differs

end TypedEnv.Text
