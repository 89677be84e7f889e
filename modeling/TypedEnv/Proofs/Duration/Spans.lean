import TypedEnv.Proofs.Decimal.FloatText
import TypedEnv.Proofs.Duration.Spelling
import TypedEnv.Proofs.Value.RoundTrip

/-!
# Texts of spans

A span has a digit and a letter of a unit, and around these only digits,
points, letters of units and blanks.  No number and no truth value is written
in this way.
-/

namespace TypedEnv

namespace TimeUnit

/-- The letters of which the names of units consist. -/
def letters : List Char := ['n', 'u', 'm', 's', 'h']

/-- The letters with which units may be named, the micro sign among them. -/
def readLetters : List Char := 'µ' :: letters

/-- A letter of a unit is no part of a number. -/
theorem of_mem_readLetters : ∀ letter ∈ readLetters, letter.isDigit = false ∧ letter ≠ '.' ∧
    Decimal.digitValue? 10 letter = none ∧ letter ≠ '-' ∧ letter ≠ '+' :=
  Text.forall_mem_of_all (by decide)

theorem names_subset (timeUnit : TimeUnit) : ∀ name ∈ timeUnit.names, name ⊆ readLetters := by
  cases timeUnit <;> decide

end TimeUnit

namespace Span

/-- A character that may stand in a text of spans. -/
def IsSpanChar (c : Char) : Prop :=
  Text.isBlank c = true ∨ c.isDigit = true ∨ c = '.' ∨ c ∈ TimeUnit.readLetters

instance : DecidablePred IsSpanChar :=
  fun _ => inferInstanceAs (Decidable (_ ∨ _ ∨ _ ∨ _))

/-- The marks of a sign, an exponent and a radix. -/
def literalMarks : List Char := ['-', '+', 'e', 'E', 'x', 'X', 'o', 'O', 'b', 'B']

theorem ne_of_isSpanChar {c mark : Char} (isSpanChar : IsSpanChar c)
    (isMark : mark ∈ literalMarks) : c ≠ mark := by
  have foreign : ∀ mark ∈ literalMarks, ¬ IsSpanChar mark := Text.forall_mem_of_all (by decide)
  rintro rfl
  exact foreign c isMark isSpanChar

theorem isRadixMark_of_isSpanChar {c : Char} (isSpanChar : IsSpanChar c) :
    Decimal.isRadixMark c = false := by
  rw [Bool.eq_false_iff]
  intro marks
  have isMark : c ∈ ['-', '+', 'e', 'E'] ++ ['x', 'X', 'o', 'O', 'b', 'B'] :=
    List.mem_append_right _ (List.contains_iff_mem.mp marks)
  exact ne_of_isSpanChar isSpanChar isMark rfl

/-- A text in which a span is written, and nothing but spans. -/
structure IsSpanText (text : List Char) : Prop where
  chars : ∀ c ∈ text, IsSpanChar c
  digit : ∃ c ∈ text, c.isDigit = true
  letter : ∃ c ∈ text, c ∈ TimeUnit.readLetters

variable {text : List Char}

/-- A number consists of digits and a point, and at least one digit. -/
theorem IsNumber.chars {whole : List Char} {fraction : Option (List Char)}
    (number : IsNumber whole fraction) :
    (∀ c ∈ numberText whole fraction, c.isDigit = true ∨ c = '.') ∧
      ∃ c ∈ numberText whole fraction, c.isDigit = true := by
  have someDigit : ∀ digits : List Char, digits ≠ [] → (∀ c ∈ digits, c.isDigit = true) →
      ∃ c ∈ digits, c.isDigit = true := by
    intro digits nonempty allDigits
    obtain ⟨c, member⟩ := List.exists_mem_of_ne_nil digits nonempty
    exact ⟨c, member, allDigits c member⟩
  cases number with
  | whole nonempty digits =>
      exact ⟨fun c member => .inl (digits c member), someDigit _ nonempty digits⟩
  | pointed nonempty digits behind =>
      obtain ⟨c, member, isDigit⟩ := someDigit _ nonempty digits
      refine ⟨fun c member => ?_, c, List.mem_append_left _ member, isDigit⟩
      rcases List.mem_append.mp member with inWhole | behindWhole
      · exact .inl (digits c inWhole)
      · exact (List.mem_cons.mp behindWhole).symm.imp_left (behind c)
  | point nonempty behind =>
      obtain ⟨c, member, isDigit⟩ := someDigit _ nonempty behind
      exact ⟨fun c member => (List.mem_cons.mp member).symm.imp_left (behind c), c,
        List.mem_cons_of_mem _ member, isDigit⟩

/-- Without a span a text may consist of blanks alone, which have no digit and no letter. -/
theorem Spells.isSpanText {spans : List Span} (spelled : Spells spans text) :
    (∀ c ∈ text, IsSpanChar c) ∧ (spans ≠ [] → IsSpanText text) := by
  induction spelled with
  | done blank => exact ⟨fun c member => .inl (blank c member), fun filled => absurd rfl filled⟩
  | @span whole fraction timeUnit blanks name spans rest blank number named others induction =>
      obtain ⟨numeric, digit, inNumber, isDigit⟩ := number.chars
      have letters := timeUnit.names_subset name named
      obtain ⟨letter, more, rfl, -⟩ := TimeUnit.exists_cons_of_name named
      have isSpanText : IsSpanText (blanks ++ (numberText whole fraction ++
          (letter :: more ++ rest))) := by
        refine ⟨fun c member => ?_, ⟨digit, ?_, isDigit⟩, ⟨letter, ?_, letters (by simp)⟩⟩
        · simp only [List.mem_append] at member
          rcases member with inBlanks | inside | inName | inRest
          · exact .inl (blank c inBlanks)
          · exact (numeric c inside).elim (fun is => .inr (.inl is))
              (fun is => .inr (.inr (.inl is)))
          · exact .inr (.inr (.inr (letters inName)))
          · exact induction.1 c inRest
        · simp [inNumber]
        · simp
      exact ⟨isSpanText.chars, fun _ => isSpanText⟩

theorem isSpanText_of_readAll? {spans : List Span} (found : readAll? text = some spans) :
    IsSpanText text := by
  obtain ⟨nonempty, spelled⟩ := readAll?_eq_some_iff.mp found
  exact spelled.isSpanText.2 nonempty

theorem IsSpanText.noLiteral (isSpanText : IsSpanText text) : Decimal.NoLiteral text where
  unmarked := fun c member => isRadixMark_of_isSpanChar (isSpanText.chars c member)
  outside := by
    obtain ⟨c, member, isLetter⟩ := isSpanText.letter
    exact ⟨c, member, (TimeUnit.of_mem_readLetters c isLetter).2.2⟩

/-- A digit stands in no word and the letter of a unit in no number. -/
theorem IsSpanText.ofText?_eq_none (isSpanText : IsSpanText text) :
    Decimal.Binary64.ofText? text = none := by
  obtain ⟨letter, member, isLetter⟩ := isSpanText.letter
  obtain ⟨digit, inText, isDigit⟩ := isSpanText.digit
  have noNumber : ∀ letter ∈ TimeUnit.readLetters, ¬ Decimal.Binary64.IsNumeric letter :=
    Text.forall_mem_of_all (by decide)
  exact Decimal.Binary64.ofText?_eq_none member (noNumber letter isLetter) inText
    (Decimal.Binary64.not_isVerbal_of_isDigit isDigit)

end Span

theorem Duration.read?_of_not_isSpanText {text : List Char} (other : ¬ Span.IsSpanText text) :
    read? text = .ok none := by
  have noSpans : Span.readAll? text = none := by
    cases found : Span.readAll? text with
    | none => rfl
    | some spans => exact absurd (Span.isSpanText_of_readAll? found) other
  rw [read?, noSpans, Option.bind_none]

/-- A text of spans is none of the numbers and truth values that are tried before durations. -/
theorem inferNumber?_of_isSpanText {text : String} (isSpanText : Span.IsSpanText text.toList) :
    inferNumber? text = none := by
  obtain ⟨letter, member, isLetter⟩ := isSpanText.letter
  obtain ⟨digit, inText, isDigit⟩ := isSpanText.digit
  have noWord : bool? text = none :=
    bool?_eq_none inText (Text.isAlpha_of_isDigit isDigit) member
      (TimeUnit.of_mem_readLetters letter isLetter).1
  simp [inferNumber?, Decimal.int64?_eq_none isSpanText.noLiteral,
    Decimal.uint64?_eq_none isSpanText.noLiteral, isSpanText.ofText?_eq_none, noWord]

end TypedEnv
