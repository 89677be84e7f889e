import Mathlib.Data.List.TakeWhile
import TypedEnv.Decimal.Binary64
import TypedEnv.Proofs.Decimal.Literal
import TypedEnv.Proofs.Text.Characters

/-!
# Texts of floating point numbers

A text that is read as a floating point number has digits, points, exponents
and signs only, or letters and signs only.  A literal in base ten is among
these texts, and it is read as the value nearest to its number; no literal with
the mark of a radix is.
-/

namespace TypedEnv.Decimal.Binary64

/-- The characters of finite numbers. -/
def IsNumeric (c : Char) : Prop :=
  c.isDigit = true ∨ c ∈ ['.', 'e', 'E', '-', '+']

instance : DecidablePred IsNumeric :=
  fun _ => inferInstanceAs (Decidable (_ ∨ _))

/-- The characters of the words for the values that are not finite, with their signs. -/
def IsVerbal (c : Char) : Prop :=
  c.isAlpha = true ∨ c ∈ ['-', '+']

instance : DecidablePred IsVerbal :=
  fun _ => inferInstanceAs (Decidable (_ ∨ _))

theorem not_isVerbal_of_isDigit {c : Char} (isDigit : c.isDigit = true) : ¬ IsVerbal c := by
  rintro (isAlpha | isSign)
  · rw [Text.isAlpha_of_isDigit isDigit] at isAlpha
    cases isAlpha
  · rcases List.mem_pair.mp isSign with rfl | rfl
    · cases isDigit
    · cases isDigit

variable {text : List Char} {negative : Bool} {number : Binary64}

theorem ofText?_eq (text : List Char) : ofText? text =
    (ofDigits? (splitSign text).1 (splitSign text).2).or
      (ofWord? (splitSign text).1 (splitSign text).2) :=
  rfl

theorem mem_splitSign {c : Char} (member : c ∈ text) :
    c ∈ ['-', '+'] ∨ c ∈ (splitSign text).2 := by
  obtain ⟨sign, signed, isAppend⟩ := exists_sign_of_splitSign text
  rw [isAppend] at member
  exact (List.mem_append.mp member).imp_left (chars_of_mem_signs signed c)

theorem isNumeric_of_ofDigits? {value : Nat} (found : Decimal.ofDigits? 10 text = some value) :
    ∀ c ∈ text, IsNumeric c := by
  intro c member
  obtain ⟨digit, isDigitOf⟩ := ((ofDigits?_eq_some_iff (by decide)).mp found).exists_digit member
  exact .inl (isDigit_of_isDigitOf isDigitOf)

/-- An exponent is a letter with an optional sign and digits behind it. -/
theorem of_exponent?_cons {mark : Char} {rest : List Char} {exponent : Int}
    (found : exponent? (mark :: rest) = some exponent) :
    (mark = 'e' ∨ mark = 'E') ∧ ∃ value, Decimal.ofDigits? 10 (splitSign rest).2 = some value := by
  unfold exponent? at found
  dsimp only at found
  split at found
  · next isMark =>
      refine ⟨by simpa using isMark, ?_⟩
      change (if (splitSign rest).2.isEmpty = true then none
        else Option.map _ ((Decimal.ofDigits? 10 (splitSign rest).2).bind _)) = _ at found
      split at found
      · cases found
      · obtain ⟨_, bound, -⟩ := Option.map_eq_some_iff.mp found
        obtain ⟨value, read, -⟩ := Option.bind_eq_some_iff.mp bound
        exact ⟨value, read⟩
  · cases found

theorem isNumeric_of_exponent? {exponent : Int} (found : exponent? text = some exponent) :
    ∀ c ∈ text, IsNumeric c := by
  cases text with
  | nil => simp
  | cons mark rest =>
      obtain ⟨isMark, value, read⟩ := of_exponent?_cons found
      intro c member
      rcases List.mem_cons.mp member with rfl | behind
      · rcases isMark with rfl | rfl
        · exact .inr (by decide)
        · exact .inr (by decide)
      · rcases mem_splitSign behind with isSign | inDigits
        · exact .inr (List.mem_append_right ['.', 'e', 'E'] isSign)
        · exact isNumeric_of_ofDigits? read c inDigits

/-- What stands behind the leading digits decides whether a text is numeric. -/
theorem isNumeric_of_dropWhile (behind : ∀ c ∈ text.dropWhile Char.isDigit, IsNumeric c) :
    ∀ c ∈ text, IsNumeric c := by
  intro c member
  rw [← List.takeWhile_append_dropWhile (p := Char.isDigit) (l := text)] at member
  rcases List.mem_append.mp member with isDigit | inTail
  · exact .inl (List.mem_takeWhile_imp isDigit)
  · exact behind c inTail

theorem isNumeric_of_number (found : ofDigits? negative text = some number) :
    ∀ c ∈ text, IsNumeric c := by
  apply isNumeric_of_dropWhile
  unfold ofDigits? at found
  dsimp only at found
  split at found
  · next others isPoint =>
      rw [isPoint]
      split at found
      · cases found
      · obtain ⟨exponent, read, -⟩ := Option.bind_eq_some_iff.mp found
        intro c member
        rcases List.mem_cons.mp member with rfl | behind
        · exact .inr (by decide)
        · exact isNumeric_of_dropWhile (isNumeric_of_exponent? read) c behind
  · split at found
    · cases found
    · obtain ⟨exponent, read, -⟩ := Option.bind_eq_some_iff.mp found
      exact isNumeric_of_exponent? read

theorem isAlpha_of_ofWord? (found : ofWord? negative text = some number) :
    ∀ c ∈ text, c.isAlpha = true := by
  have ofWord : ∀ word : List Char, (∀ d ∈ word, d.isAlpha = true) →
      text.map Char.toLower = word → ∀ c ∈ text, c.isAlpha = true := by
    rintro word letters rfl c member
    cases letter : c.isAlpha with
    | true => rfl
    | false =>
        have kept := letters _ (List.mem_map_of_mem member)
        rw [Text.toLower_of_not_isAlpha letter, letter] at kept
        cases kept
  rw [ofWord?] at found
  split at found
  · next infinite =>
      rcases infinite with short | long
      · exact ofWord _ (Text.forall_mem_of_all (by decide)) short
      · exact ofWord _ (Text.forall_mem_of_all (by decide)) long
  · split at found
    · next nan => exact ofWord _ (Text.forall_mem_of_all (by decide)) nan
    · cases found

/-- A text of a floating point number is numeric or verbal as a whole. -/
theorem chars_of_ofText? (found : ofText? text = some number) :
    (∀ c ∈ text, IsNumeric c) ∨ ∀ c ∈ text, IsVerbal c := by
  rw [ofText?_eq, Option.or_eq_some_iff] at found
  rcases found with isNumber | ⟨-, isWord⟩
  · refine .inl fun c member => ?_
    rcases mem_splitSign member with isSign | behind
    · exact .inr (List.mem_append_right ['.', 'e', 'E'] isSign)
    · exact isNumeric_of_number isNumber c behind
  · refine .inr fun c member => ?_
    rcases mem_splitSign member with isSign | behind
    · exact .inr isSign
    · exact .inl (isAlpha_of_ofWord? isWord c behind)

/-- A text with a character of no number and one of no word is read as no float. -/
theorem ofText?_eq_none {c d : Char} (member : c ∈ text) (noNumber : ¬ IsNumeric c)
    (memberToo : d ∈ text) (noWord : ¬ IsVerbal d) : ofText? text = none := by
  cases found : ofText? text with
  | none => rfl
  | some number =>
      rcases chars_of_ofText? found with numeric | verbal
      · exact absurd (numeric c member) noNumber
      · exact absurd (verbal d memberToo) noWord

/-- Digits alone are read as the value nearest to the number that they denote. -/
theorem ofDigits?_denotes {digits : List Char} {magnitude : Nat} (nonempty : digits ≠ [])
    (denotes : Denotes 10 digits magnitude) :
    ofDigits? negative digits = some (ofDecimal negative magnitude 0) := by
  have allDigits : ∀ c ∈ digits, c.isDigit = true := by
    intro c member
    obtain ⟨value, isDigitOf⟩ := denotes.exists_digit member
    exact isDigit_of_isDigitOf isDigitOf
  have coefficient := (ofDigits?_eq_some_iff (by decide)).mpr denotes
  rw [ofDigits?, List.takeWhile_eq_self_iff.mpr allDigits, List.dropWhile_eq_nil_iff.mpr allDigits]
  simp [nonempty, exponent?, coefficient]

/-- Of the literals, those in base ten are floats as well. -/
theorem ofText?_literal {literal : Literal} (written : literal.IsWritten text) : ofText? text =
    if literal.radix = .decimal then some (ofDecimal literal.negative literal.magnitude 0)
    else none := by
  split
  · next isDecimal =>
      obtain ⟨mark, marked, digits, nonempty, denotes, isSplit⟩ := written.exists_digits
      rw [isDecimal] at marked denotes
      obtain rfl := List.mem_singleton.mp marked
      rw [ofText?_eq, isSplit, List.nil_append, ofDigits?_denotes nonempty denotes, Option.some_or]
  · next marked =>
      obtain ⟨zero, letter, isLetter, inText⟩ := written.exists_letter marked
      have noNumber : ∀ letter ∈ ['x', 'X', 'o', 'O', 'b', 'B'], ¬ IsNumeric letter :=
        Text.forall_mem_of_all (by decide)
      exact ofText?_eq_none inText (noNumber letter isLetter) zero (by decide)

end TypedEnv.Decimal.Binary64
