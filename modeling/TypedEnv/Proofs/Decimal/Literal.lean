import Mathlib.Data.List.Forall2
import Mathlib.Data.Nat.Digits.Defs
import Mathlib.Tactic.Ring
import TypedEnv.Decimal.Integer
import TypedEnv.Proofs.Decimal.Integer

/-!
# The grammar of integer literals

An integer literal is written with a sign or none, the mark of a radix or none,
and at least one digit of that radix.  `literal?` reads exactly these texts, as
the signed number that the digits denote, and `int64?` and `uint64?` read those
whose number is in their range.
-/

namespace TypedEnv.Decimal

/-- The radixes in which literals are written. -/
inductive Radix where
  | decimal
  | hexadecimal
  | octal
  | binary
  deriving DecidableEq

namespace Radix

def base : Radix → Nat
  | .decimal => 10
  | .hexadecimal => 16
  | .octal => 8
  | .binary => 2

/-- What stands before the digits of a radix; there is no mark for ten. -/
def marks : Radix → List (List Char)
  | .decimal => [[]]
  | .hexadecimal => [['0', 'x'], ['0', 'X']]
  | .octal => [['0', 'o'], ['0', 'O']]
  | .binary => [['0', 'b'], ['0', 'B']]

theorem base_le (radix : Radix) : radix.base ≤ 16 := by
  cases radix <;> decide

end Radix

/-- A character is the digit of a value; letters are digits in both cases. -/
def IsDigitOf (base : Nat) (c : Char) (value : Nat) : Prop :=
  value < base ∧ c.toLower = Nat.digitChar value

/-- Digits denote a number in a base, the first of them the most. -/
def Denotes (base : Nat) (digits : List Char) (number : Nat) : Prop :=
  ∃ values, List.Forall₂ (IsDigitOf base) digits values ∧
    number = Nat.ofDigits base values.reverse

/-- A literal: its sign, its radix and the number that its digits denote. -/
structure Literal where
  negative : Bool
  radix : Radix
  magnitude : Nat
  deriving DecidableEq

namespace Literal

def value (literal : Literal) : Int :=
  if literal.negative then -(literal.magnitude : Int) else literal.magnitude

/-- The signs of a literal; without one it is not negative. -/
def signs (negative : Bool) : List (List Char) :=
  if negative then [['-']] else [[], ['+']]

/-- The texts of a literal. -/
inductive IsWritten (literal : Literal) : List Char → Prop
  | intro {sign mark digits} (signed : sign ∈ signs literal.negative)
      (marked : mark ∈ literal.radix.marks) (nonempty : digits ≠ [])
      (denotes : Denotes literal.radix.base digits literal.magnitude) :
      IsWritten literal (sign ++ (mark ++ digits))

end Literal

section Digits

variable {base : Nat} {c : Char} {text : List Char} {value number : Nat}

theorem toNat_digitChar : ∀ value < 16, (Nat.digitChar value).toNat =
    if value < 10 then value + 48 else value + 87 := by
  decide

/-- A digit as a code point: letters count from ten, and capitals as their small forms. -/
theorem isDigitOf_iff (small : base ≤ 16) : IsDigitOf base c value ↔ value < base ∧
    (if 65 ≤ c.toNat ∧ c.toNat ≤ 90 then c.toNat + 32 else c.toNat) =
      if value < 10 then value + 48 else value + 87 := by
  refine and_congr_right fun below => ?_
  rw [← Char.toNat_inj, Text.toNat_toLower, toNat_digitChar value (below.trans_le small)]

theorem digitValue?_eq_some_iff (small : base ≤ 16) :
    digitValue? base c = some value ↔ IsDigitOf base c value := by
  rw [isDigitOf_iff small, digitValue?, Option.filter_eq_some_iff, decide_eq_true_eq, and_comm]
  refine and_congr_right fun below => ?_
  have corners : 'a'.toNat = 97 ∧ 'z'.toNat = 122 ∧ 'A'.toNat = 65 ∧ 'Z'.toNat = 90 := by decide
  simp only [Text.isDigit_iff, Bool.and_eq_true, decide_eq_true_eq, Char.le_def,
    UInt32.le_iff_toNat_le, Char.toNat_val, corners]
  -- In every range of characters both sides name the same value.
  split_ifs <;> simp only [Option.some.injEq, false_iff] <;> omega

/-- Digits are added to a number that stands before them. -/
theorem foldlM_digitValue?_eq_some_iff (small : base ≤ 16) (start : Nat) :
    text.foldlM (fun value c => (digitValue? base c).map (value * base + ·)) start = some number ↔
      ∃ values, List.Forall₂ (IsDigitOf base) text values ∧
        number = start * base ^ text.length + Nat.ofDigits base values.reverse := by
  induction text generalizing start with
  | nil => simp [List.forall₂_nil_left_iff, eq_comm]
  | cons c rest induction =>
      have place (value : Nat) (values : List Nat) (sameLength : rest.length = values.length) :
          (start * base + value) * base ^ rest.length + Nat.ofDigits base values.reverse =
            start * base ^ (c :: rest).length + Nat.ofDigits base (value :: values).reverse := by
        rw [List.reverse_cons, Nat.ofDigits_append, Nat.ofDigits_singleton, List.length_reverse,
          ← sameLength, List.length_cons]
        ring
      rw [List.foldlM_cons, Option.bind_eq_bind, Option.bind_eq_some_iff]
      constructor
      · rintro ⟨next, isNext, found⟩
        obtain ⟨value, isValue, rfl⟩ := Option.map_eq_some_iff.mp isNext
        obtain ⟨values, related, rfl⟩ := (induction _).mp found
        exact ⟨value :: values, .cons ((digitValue?_eq_some_iff small).mp isValue) related,
          place value values related.length_eq⟩
      · rintro ⟨_, related, rfl⟩
        cases related with
        | @cons _ value _ values isDigit related =>
            refine ⟨start * base + value, ?_, (induction _).mpr ⟨values, related, ?_⟩⟩
            · rw [(digitValue?_eq_some_iff small).mpr isDigit, Option.map_some]
            · exact (place value values related.length_eq).symm

theorem ofDigits?_eq_some_iff (small : base ≤ 16) :
    ofDigits? base text = some number ↔ Denotes base text number := by
  rw [ofDigits?, foldlM_digitValue?_eq_some_iff small, Denotes]
  simp

theorem Denotes.exists_digit (denotes : Denotes base text number) {c : Char} (member : c ∈ text) :
    ∃ value, IsDigitOf base c value := by
  obtain ⟨values, related, -⟩ := denotes
  induction related with
  | nil => cases member
  | @cons first value rest values isDigit related induction =>
      rcases List.mem_cons.mp member with rfl | behind
      · exact ⟨value, isDigit⟩
      · exact induction behind

theorem isDigit_of_isDigitOf (isDigitOf : IsDigitOf 10 c value) : c.isDigit = true := by
  obtain ⟨below, same⟩ := (isDigitOf_iff (by decide)).mp isDigitOf
  rw [if_pos below] at same
  rw [Text.isDigit_iff]
  split_ifs at same <;> omega

theorem isAlphanum_of_isDigitOf (small : base ≤ 16) (isDigitOf : IsDigitOf base c value) :
    c.isAlphanum = true := by
  obtain ⟨below, same⟩ := (isDigitOf_iff small).mp isDigitOf
  rw [Char.isAlphanum, Bool.or_eq_true, Text.isAlpha_iff, Text.isDigit_iff]
  split_ifs at same <;> omega

end Digits

section Grammar

variable {text digits : List Char} {number : Nat}

/-- A mark is split off from the digits of its radix. -/
theorem splitRadix_append {radix : Radix} {mark : List Char} (marked : mark ∈ radix.marks)
    (denotes : Denotes radix.base digits number) :
    splitRadix (mark ++ digits) = (radix.base, digits) := by
  cases radix with
  | decimal =>
      obtain rfl := List.mem_singleton.mp marked
      refine splitRadix_of_unmarked fun c member => ?_
      obtain ⟨value, isDigitOf⟩ := denotes.exists_digit member
      exact isRadixMark_of_isDigit (isDigit_of_isDigitOf isDigitOf)
  | _ =>
      rcases List.mem_pair.mp marked with rfl | rfl
      · rfl
      · rfl

theorem exists_mark_of_splitRadix (text : List Char) : ∃ radix : Radix, ∃ mark ∈ radix.marks,
    radix.base = (splitRadix text).1 ∧ text = mark ++ (splitRadix text).2 := by
  unfold splitRadix
  split
  · split
    · exact ⟨.hexadecimal, ['0', 'x'], by decide, rfl, rfl⟩
    · exact ⟨.hexadecimal, ['0', 'X'], by decide, rfl, rfl⟩
    · exact ⟨.octal, ['0', 'o'], by decide, rfl, rfl⟩
    · exact ⟨.octal, ['0', 'O'], by decide, rfl, rfl⟩
    · exact ⟨.binary, ['0', 'b'], by decide, rfl, rfl⟩
    · exact ⟨.binary, ['0', 'B'], by decide, rfl, rfl⟩
    · exact ⟨.decimal, [], by decide, rfl, rfl⟩
  · exact ⟨.decimal, [], by decide, rfl, rfl⟩

theorem magnitude?_eq_some_iff : magnitude? text = some number ↔
    ∃ radix : Radix, ∃ mark ∈ radix.marks, ∃ digits, digits ≠ [] ∧ text = mark ++ digits ∧
      Denotes radix.base digits number := by
  constructor
  · intro found
    obtain ⟨radix, mark, marked, isBase, isAppend⟩ := exists_mark_of_splitRadix text
    rw [magnitude?] at found
    dsimp only at found
    split at found
    · cases found
    · next filled =>
        rw [← isBase, ofDigits?_eq_some_iff radix.base_le] at found
        exact ⟨radix, mark, marked, _, mt List.isEmpty_iff.mpr filled, isAppend, found⟩
  · rintro ⟨radix, mark, marked, digits, nonempty, rfl, denotes⟩
    have filled : ¬ digits.isEmpty = true := mt List.isEmpty_iff.mp nonempty
    rw [magnitude?, splitRadix_append marked denotes]
    exact (if_neg filled).trans ((ofDigits?_eq_some_iff radix.base_le).mpr denotes)

/-- A literal without its sign begins with a digit: the mark of a radix does. -/
theorem exists_first_digit {radix : Radix} {mark : List Char} (marked : mark ∈ radix.marks)
    (nonempty : digits ≠ []) (denotes : Denotes radix.base digits number) :
    ∃ first more, mark ++ digits = first :: more ∧ first.isAlphanum = true := by
  cases radix with
  | decimal =>
      obtain rfl := List.mem_singleton.mp marked
      obtain ⟨first, more, rfl⟩ := List.exists_cons_of_ne_nil nonempty
      obtain ⟨value, isDigitOf⟩ := denotes.exists_digit List.mem_cons_self
      exact ⟨first, more, rfl, isAlphanum_of_isDigitOf (by decide) isDigitOf⟩
  | _ =>
      rcases List.mem_pair.mp marked with rfl | rfl
      · exact ⟨_, _, rfl, rfl⟩
      · exact ⟨_, _, rfl, rfl⟩

theorem splitSign_append {negative : Bool} {sign more : List Char} {first : Char}
    (signed : sign ∈ Literal.signs negative) (plain : first.isAlphanum = true) :
    splitSign (sign ++ first :: more) = (negative, first :: more) := by
  cases negative with
  | true =>
      obtain rfl := List.mem_singleton.mp signed
      rfl
  | false =>
      rcases List.mem_pair.mp signed with rfl | rfl
      · rw [List.nil_append]
        unfold splitSign
        split
        · next same =>
            obtain ⟨rfl, -⟩ := List.cons.inj same
            exact absurd plain (by decide)
        · next same =>
            obtain ⟨rfl, -⟩ := List.cons.inj same
            exact absurd plain (by decide)
        · rfl
      · rfl

theorem chars_of_mem_signs {negative : Bool} {sign : List Char}
    (signed : sign ∈ Literal.signs negative) : ∀ c ∈ sign, c ∈ ['-', '+'] := by
  have all : (Literal.signs negative).all (·.all ['-', '+'].contains) = true := by
    cases negative <;> rfl
  simp only [List.all_eq_true, List.contains_iff_mem] at all
  exact all sign signed

theorem exists_sign_of_splitSign (text : List Char) :
    ∃ sign ∈ Literal.signs (splitSign text).1, text = sign ++ (splitSign text).2 := by
  unfold splitSign
  split
  · exact ⟨['-'], List.mem_singleton_self _, rfl⟩
  · exact ⟨['+'], List.mem_cons_of_mem _ List.mem_cons_self, rfl⟩
  · exact ⟨[], List.mem_cons_self, rfl⟩

/-- A literal without its sign is a mark with the digits behind it. -/
theorem Literal.IsWritten.exists_digits {literal : Literal} (written : literal.IsWritten text) :
    ∃ mark ∈ literal.radix.marks, ∃ digits, digits ≠ [] ∧
      Denotes literal.radix.base digits literal.magnitude ∧
      splitSign text = (literal.negative, mark ++ digits) := by
  cases written with
  | @intro sign mark digits signed marked nonempty denotes =>
      obtain ⟨first, more, isCons, plain⟩ := exists_first_digit marked nonempty denotes
      refine ⟨mark, marked, digits, nonempty, denotes, ?_⟩
      rw [isCons]
      exact splitSign_append signed plain

/-- The literal that a text is, read as its sign and its magnitude. -/
theorem exists_isWritten_iff {negative : Bool} :
    ((splitSign text).1 = negative ∧ magnitude? (splitSign text).2 = some number) ↔
      ∃ radix, Literal.IsWritten ⟨negative, radix, number⟩ text := by
  constructor
  · rintro ⟨rfl, found⟩
    obtain ⟨sign, signed, isAppend⟩ := exists_sign_of_splitSign text
    obtain ⟨radix, mark, marked, digits, nonempty, behind, denotes⟩ :=
      magnitude?_eq_some_iff.mp found
    have written : Literal.IsWritten ⟨(splitSign text).1, radix, number⟩
        (sign ++ (mark ++ digits)) := .intro signed marked nonempty denotes
    rw [← behind, ← isAppend] at written
    exact ⟨radix, written⟩
  · rintro ⟨radix, written⟩
    obtain ⟨mark, marked, digits, nonempty, denotes, isSplit⟩ := written.exists_digits
    rw [isSplit]
    exact ⟨rfl, magnitude?_eq_some_iff.mpr ⟨radix, mark, marked, digits, nonempty, rfl, denotes⟩⟩

end Grammar

namespace Literal

variable {text : List Char}

theorem literal?_eq (text : List Char) : literal? text =
    (magnitude? (splitSign text).2).map fun (magnitude : Nat) =>
      if (splitSign text).1 then -(magnitude : Int) else (magnitude : Int) := by
  unfold literal?
  dsimp only
  cases magnitude? (splitSign text).2 with
  | none => rfl
  | some magnitude => rfl

theorem uint64?_eq (text : List Char) : uint64? text =
    if (splitSign text).1 then none
    else (magnitude? (splitSign text).2).bind fun magnitude =>
      if magnitude < UInt64.size then some (UInt64.ofNat magnitude) else none :=
  rfl

/-- Literals are read as their values, and no other text is. -/
theorem literal?_eq_some_iff {value : Int} :
    literal? text = some value ↔
      ∃ literal : Literal, literal.IsWritten text ∧ literal.value = value := by
  rw [literal?_eq, Option.map_eq_some_iff]
  constructor
  · rintro ⟨magnitude, found, same⟩
    obtain ⟨radix, written⟩ := exists_isWritten_iff.mp ⟨rfl, found⟩
    exact ⟨_, written, same⟩
  · rintro ⟨⟨negative, radix, magnitude⟩, written, rfl⟩
    obtain ⟨isNegative, found⟩ := exists_isWritten_iff.mpr ⟨radix, written⟩
    exact ⟨magnitude, found, by rw [isNegative, value]⟩

/-- A literal is read with a sign exactly when a number of 64 bits has its value. -/
theorem int64?_eq_some_iff {number : Int64} : int64? text = some number ↔
    ∃ literal : Literal, literal.IsWritten text ∧ literal.value = number.toInt := by
  rw [← literal?_eq_some_iff, int64?, Option.bind_eq_some_iff]
  constructor
  · rintro ⟨value, found, inRange⟩
    split at inRange
    · next range =>
        cases inRange
        have top : Int64.maxValue.toInt = 2 ^ 63 - 1 := by decide
        rw [found, Int64.toInt_ofInt_of_le range.1 (by omega)]
    · cases inRange
  · intro found
    refine ⟨number.toInt, found, ?_⟩
    rw [if_pos ⟨number.minValue_le_toInt, number.toInt_le⟩, Int64.ofInt_toInt]

theorem uint64?_eq_some_iff {number : UInt64} : uint64? text = some number ↔
    ∃ literal : Literal, literal.IsWritten text ∧ literal.negative = false ∧
      literal.magnitude = number.toNat := by
  rw [uint64?_eq]
  constructor
  · intro found
    split at found
    · cases found
    · next positive =>
        obtain ⟨magnitude, found, inRange⟩ := Option.bind_eq_some_iff.mp found
        obtain ⟨radix, written⟩ :=
          exists_isWritten_iff.mp ⟨Bool.eq_false_iff.mpr positive, found⟩
        split at inRange
        · next range =>
            cases inRange
            exact ⟨_, written, rfl, (UInt64.toNat_ofNat_of_lt range).symm⟩
        · cases inRange
  · rintro ⟨⟨negative, radix, magnitude⟩, written, rfl, rfl⟩
    obtain ⟨positive, found⟩ := exists_isWritten_iff.mpr ⟨radix, written⟩
    rw [if_neg (by simp [positive]), found, Option.bind_some, if_pos number.toNat_lt,
      UInt64.ofNat_toNat]

/-- A literal consists of letters and digits behind its sign. -/
theorem IsWritten.chars {literal : Literal} (written : literal.IsWritten text) :
    ∀ c ∈ text, c = '-' ∨ c = '+' ∨ c.isAlphanum = true := by
  have mark_chars (radix : Radix) : ∀ mark ∈ radix.marks, ∀ c ∈ mark, c.isAlphanum = true := by
    have all : radix.marks.all (·.all Char.isAlphanum) = true := by cases radix <;> rfl
    simpa only [List.all_eq_true] using all
  cases written with
  | @intro sign mark digits signed marked nonempty denotes =>
      intro c member
      rcases List.mem_append.mp member with inSign | behind
      · exact (List.mem_pair.mp (chars_of_mem_signs signed c inSign)).imp_right .inl
      · refine .inr (.inr ?_)
        rcases List.mem_append.mp behind with inMark | inDigits
        · exact mark_chars _ mark marked c inMark
        · obtain ⟨value, isDigitOf⟩ := denotes.exists_digit inDigits
          exact isAlphanum_of_isDigitOf literal.radix.base_le isDigitOf

theorem IsWritten.no_colon {literal : Literal} (written : literal.IsWritten text) : ':' ∉ text := by
  intro colon
  rcases written.chars ':' colon with same | same | isAlphanum
  · cases same
  · cases same
  · cases isAlphanum

theorem IsWritten.ne_nil {literal : Literal} (written : literal.IsWritten text) : text ≠ [] := by
  cases written with
  | intro signed marked nonempty denotes => simp [nonempty]

/-- The mark of a radix other than ten is a zero with a letter. -/
theorem IsWritten.exists_letter {literal : Literal} (written : literal.IsWritten text)
    (marked : literal.radix ≠ .decimal) :
    '0' ∈ text ∧ ∃ letter ∈ ['x', 'X', 'o', 'O', 'b', 'B'], letter ∈ text := by
  have marks (radix : Radix) (other : radix ≠ .decimal) : ∀ mark ∈ radix.marks,
      '0' ∈ mark ∧ ∃ letter ∈ ['x', 'X', 'o', 'O', 'b', 'B'], letter ∈ mark := by
    have all : radix.marks.all (fun mark =>
        mark.contains '0' && ['x', 'X', 'o', 'O', 'b', 'B'].any mark.contains) = true := by
      cases radix with
      | decimal => exact absurd rfl other
      | _ => rfl
    simpa only [List.all_eq_true, Bool.and_eq_true, List.any_eq_true, List.contains_iff_mem]
      using all
  cases written with
  | @intro sign mark digits signed isMark nonempty denotes =>
      have inText {c : Char} (inMark : c ∈ mark) : c ∈ sign ++ (mark ++ digits) :=
        List.mem_append_right _ (List.mem_append_left _ inMark)
      obtain ⟨zero, letter, isLetter, inMark⟩ := marks _ marked mark isMark
      exact ⟨inText zero, letter, isLetter, inText inMark⟩

end Literal

end TypedEnv.Decimal
