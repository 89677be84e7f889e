import TypedEnv.Duration.Span
import TypedEnv.Proofs.Decimal.Reading
import TypedEnv.Proofs.Text.Blank

/-!
# Texts of spans

A text spells spans when it consists of them, each behind any blanks, and of
blanks at the end.  The number of a span is written with digits, with digits
and a point that further digits may follow, or with a point and digits.
`Span.readMany?` finds exactly the spans that a text spells, so that a text
spells them in one way.
-/

namespace TypedEnv

namespace TimeUnit

/-- The names of a unit. -/
def names : TimeUnit → List (List Char)
  | .nanosecond => [['n', 's']]
  | .microsecond => [['u', 's'], ['µ', 's']]
  | .millisecond => [['m', 's']]
  | .second => [['s']]
  | .minute => [['m']]
  | .hour => [['h']]

variable {timeUnit : TimeUnit} {name text rest : List Char}

/-- A name is read in front of a text that does not continue it: `m` begins `ms`. -/
theorem read?_name (isName : name ∈ timeUnit.names) (ends : ∀ c ∈ rest.head?, c ≠ 's') :
    read? (name ++ rest) = some (timeUnit, rest) := by
  cases timeUnit with
  | minute =>
      obtain rfl := List.mem_singleton.mp isName
      cases rest with
      | nil => rfl
      | cons c more =>
          have other : c ≠ 's' := ends c rfl
          simp [read?, other]
  | microsecond =>
      rcases List.mem_pair.mp isName with rfl | rfl
      · rfl
      · rfl
  | _ =>
      obtain rfl := List.mem_singleton.mp isName
      rfl

theorem exists_name_of_read? (found : read? text = some (timeUnit, rest)) :
    ∃ name ∈ timeUnit.names, text = name ++ rest := by
  unfold read? at found
  split at found
  · cases found
    exact ⟨['n', 's'], by decide, rfl⟩
  · cases found
    exact ⟨['u', 's'], by decide, rfl⟩
  · cases found
    exact ⟨['µ', 's'], by decide, rfl⟩
  · cases found
    exact ⟨['m', 's'], by decide, rfl⟩
  · cases found
    exact ⟨['m'], by decide, rfl⟩
  · cases found
    exact ⟨['s'], by decide, rfl⟩
  · cases found
    exact ⟨['h'], by decide, rfl⟩
  · cases found

/-- A name ends the number before it. -/
theorem exists_cons_of_name (isName : name ∈ timeUnit.names) :
    ∃ letter more, name = letter :: more ∧ letter.isDigit = false ∧ letter ≠ '.' := by
  cases timeUnit with
  | microsecond =>
      rcases List.mem_pair.mp isName with rfl | rfl
      · exact ⟨'u', ['s'], rfl, by decide, by decide⟩
      · exact ⟨'µ', ['s'], rfl, by decide, by decide⟩
  | _ =>
      obtain rfl := List.mem_singleton.mp isName
      exact ⟨_, _, rfl, by decide, by decide⟩

end TimeUnit

namespace Span

/-- The number of a span: digits, digits with a point and any digits behind it, or a point with
digits behind it. -/
inductive IsNumber : List Char → Option (List Char) → Prop
  | whole {whole} (nonempty : whole ≠ []) (digits : ∀ c ∈ whole, c.isDigit = true) :
      IsNumber whole none
  | pointed {whole fraction} (nonempty : whole ≠ []) (digits : ∀ c ∈ whole, c.isDigit = true)
      (behind : ∀ c ∈ fraction, c.isDigit = true) : IsNumber whole (some fraction)
  | point {fraction} (nonempty : fraction ≠ []) (behind : ∀ c ∈ fraction, c.isDigit = true) :
      IsNumber [] (some fraction)

/-- A number is written with a point when it has a fraction, be it without digits. -/
def numberText (whole : List Char) : Option (List Char) → List Char
  | none => whole
  | some fraction => whole ++ '.' :: fraction

/-- The spans that a text spells. -/
inductive Spells : List Span → List Char → Prop
  | done {blanks} (blank : ∀ c ∈ blanks, Text.isBlank c = true) : Spells [] blanks
  | span {whole fraction timeUnit blanks name spans rest}
      (blank : ∀ c ∈ blanks, Text.isBlank c = true) (number : IsNumber whole fraction)
      (named : name ∈ TimeUnit.names timeUnit) (others : Spells spans rest) :
      Spells (⟨whole, fraction, timeUnit⟩ :: spans)
        (blanks ++ (numberText whole fraction ++ (name ++ rest)))

section Number

variable {whole : List Char} {fraction : Option (List Char)} {text rest : List Char}

theorem IsNumber.wholeDigits (number : IsNumber whole fraction) :
    ∀ c ∈ whole, c.isDigit = true := by
  cases number with
  | whole nonempty digits => exact digits
  | pointed nonempty digits behind => exact digits
  | point nonempty behind => simp

theorem IsNumber.fractionDigits (number : IsNumber whole fraction) :
    ∀ digits ∈ fraction, ∀ c ∈ digits, c.isDigit = true := by
  cases number with
  | whole nonempty digits => simp
  | pointed nonempty digits behind => simpa using behind
  | point nonempty behind => simpa using behind

theorem IsNumber.nonempty (number : IsNumber whole fraction) :
    whole ≠ [] ∨ ∃ digits ∈ fraction, digits ≠ [] := by
  cases number with
  | whole nonempty digits => exact .inl nonempty
  | pointed nonempty digits behind => exact .inl nonempty
  | point nonempty behind => exact .inr ⟨_, rfl, nonempty⟩

theorem isBlank_of_isDigit {c : Char} (isDigit : c.isDigit = true) : Text.isBlank c = false := by
  have range := Text.isDigit_iff.mp isDigit
  rw [Bool.eq_false_iff]
  intro blank
  simp only [Text.isBlank, Bool.or_eq_true, Bool.and_eq_true, decide_eq_true_eq, beq_iff_eq]
    at blank
  omega

/-- A number begins with a digit or a point. -/
theorem IsNumber.head (number : IsNumber whole fraction) (rest : List Char) :
    ∃ first more, numberText whole fraction ++ rest = first :: more ∧
      (first.isDigit = true ∨ first = '.') := by
  cases whole with
  | cons first others =>
      have isDigit := number.wholeDigits first List.mem_cons_self
      cases fraction with
      | none => exact ⟨first, others ++ rest, rfl, .inl isDigit⟩
      | some digits => exact ⟨first, others ++ '.' :: digits ++ rest, rfl, .inl isDigit⟩
  | nil =>
      cases number with
      | whole nonempty digits => exact absurd rfl nonempty
      | pointed nonempty digits behind => exact absurd rfl nonempty
      | point nonempty behind => exact ⟨'.', _ ++ rest, rfl, .inr rfl⟩

theorem readNumber?_of_isNumber (number : IsNumber whole fraction)
    (ends : ∀ c ∈ rest.head?, c.isDigit = false ∧ c ≠ '.') :
    readNumber? (numberText whole fraction ++ rest) = some ((whole, fraction), rest) := by
  have noDigit : ∀ c ∈ rest.head?, c.isDigit = false := fun c isHead => (ends c isHead).1
  cases fraction with
  | none =>
      obtain ⟨taken, left⟩ := Decimal.takeWhile_isDigit number.wholeDigits noDigit
      have filled : whole ≠ [] := number.nonempty.resolve_right (by simp)
      rw [numberText, readNumber?, taken, left]
      dsimp only
      split
      · exact absurd rfl (ends _ rfl).2
      · simp [filled]
  | some digits =>
      have point : ∀ c ∈ ('.' :: (digits ++ rest)).head?, c.isDigit = false := by simp
      obtain ⟨taken, left⟩ := Decimal.takeWhile_isDigit number.wholeDigits point
      obtain ⟨takenBehind, leftBehind⟩ :=
        Decimal.takeWhile_isDigit (number.fractionDigits digits rfl) noDigit
      have filled : ¬ (whole.isEmpty && digits.isEmpty) = true := by
        rcases number.nonempty with someWhole | ⟨_, ⟨⟩, someFraction⟩
        · simp [someWhole]
        · simp [someFraction]
      rw [numberText, List.append_assoc, List.cons_append, readNumber?, taken, left]
      simp only [takenBehind, leftBehind, if_neg filled]

theorem isNumber_of_readNumber? (found : readNumber? text = some ((whole, fraction), rest)) :
    IsNumber whole fraction ∧ text = numberText whole fraction ++ rest := by
  have apart := List.takeWhile_append_dropWhile (p := Char.isDigit) (l := text)
  have digits : ∀ c ∈ text.takeWhile Char.isDigit, c.isDigit = true :=
    fun _ member => List.mem_takeWhile_imp member
  unfold readNumber? at found
  split at found
  · next others behind =>
      have apartBehind := List.takeWhile_append_dropWhile (p := Char.isDigit) (l := others)
      have digitsBehind : ∀ c ∈ others.takeWhile Char.isDigit, c.isDigit = true :=
        fun _ member => List.mem_takeWhile_imp member
      dsimp only at found
      split at found
      · cases found
      · next filled =>
          cases found
          refine ⟨?_, ?_⟩
          · by_cases noWhole : text.takeWhile Char.isDigit = []
            · rw [noWhole] at filled ⊢
              exact .point (by simpa using filled) digitsBehind
            · exact .pointed noWhole digits digitsBehind
          · rw [numberText, List.append_assoc, List.cons_append, apartBehind, ← behind, apart]
  · dsimp only at found
    split at found
    · cases found
    · next filled =>
        cases found
        exact ⟨.whole (mt List.isEmpty_iff.mpr filled) digits, apart.symm⟩

end Number

variable {spans others : List Span} {text rest : List Char}

theorem readMany?_of_some {span : Span} (first : read? text = some (span, rest)) :
    readMany? text = (readMany? rest).map (span :: ·) := by
  rw [readMany?]
  split
  · next found =>
      rw [first] at found
      cases found
      rfl
  · next missing =>
      rw [first] at missing
      cases missing

theorem readMany?_of_none (missing : read? text = none) :
    readMany? text = if (Text.trimStart text).isEmpty then some [] else none := by
  rw [readMany?]
  split
  · next found =>
      rw [missing] at found
      cases found
  · rfl

/-- What follows a span does not continue the name of its unit. -/
theorem Spells.head (spelled : Spells spans text) : ∀ c ∈ text.head?, c ≠ 's' := by
  have blankOther : ∀ blanks : List Char, (∀ c ∈ blanks, Text.isBlank c = true) →
      ∀ c ∈ blanks.head?, c ≠ 's' := by
    rintro blanks blank c isHead rfl
    exact absurd (blank _ (List.mem_of_mem_head? isHead)) (by decide)
  cases spelled with
  | done blank => exact blankOther _ blank
  | @span whole fraction timeUnit blanks name spans rest blank number named others =>
      cases blanks with
      | cons first more =>
          intro c isHead
          exact blankOther (first :: more) blank c isHead
      | nil =>
          obtain ⟨first, more, isCons, begins⟩ := number.head (name ++ rest)
          rw [List.nil_append, isCons]
          rintro c ⟨⟩ rfl
          exact absurd begins (by decide)

/-- A span is read behind blanks and in front of the other spans. -/
theorem read?_of_spells {whole : List Char} {fraction : Option (List Char)} {timeUnit : TimeUnit}
    {blanks name : List Char} (blank : ∀ c ∈ blanks, Text.isBlank c = true)
    (number : IsNumber whole fraction) (named : name ∈ timeUnit.names)
    (spelled : Spells spans rest) :
    read? (blanks ++ (numberText whole fraction ++ (name ++ rest))) =
      some (⟨whole, fraction, timeUnit⟩, rest) := by
  obtain ⟨first, more, isCons, begins⟩ := number.head (name ++ rest)
  have solid : Text.isBlank first = false := by
    rcases begins with isDigit | rfl
    · exact isBlank_of_isDigit isDigit
    · decide
  have trimmed : Text.trimStart (numberText whole fraction ++ (name ++ rest)) =
      numberText whole fraction ++ (name ++ rest) := by
    rw [isCons, Text.trimStart_cons_of_not_blank solid]
  have ends : ∀ c ∈ (name ++ rest).head?, c.isDigit = false ∧ c ≠ '.' := by
    obtain ⟨letter, letters, rfl, noNumber⟩ := TimeUnit.exists_cons_of_name named
    rintro c ⟨⟩
    exact noNumber
  rw [read?, Text.trimStart_append_of_blank blank, trimmed, readNumber?_of_isNumber number ends]
  simp [TimeUnit.read?_name named spelled.head]

theorem exists_of_read? {span : Span} (found : read? text = some (span, rest)) :
    ∃ blanks name, (∀ c ∈ blanks, Text.isBlank c = true) ∧ IsNumber span.whole span.fraction ∧
      name ∈ span.timeUnit.names ∧
        text = blanks ++ (numberText span.whole span.fraction ++ (name ++ rest)) := by
  unfold read? at found
  simp only [Option.bind_eq_bind, Option.bind_eq_some_iff, Prod.exists, Option.pure_def,
    Option.some.injEq, Prod.mk.injEq] at found
  obtain ⟨whole, fraction, middle, numeric, timeUnit, last, unitFound, rfl, rfl⟩ := found
  obtain ⟨number, behindBlanks⟩ := isNumber_of_readNumber? numeric
  obtain ⟨name, named, rfl⟩ := TimeUnit.exists_name_of_read? unitFound
  refine ⟨text.takeWhile Text.isBlank, name, ?_, number, named, ?_⟩
  · exact fun c member => List.mem_takeWhile_imp member
  · rw [← behindBlanks, Text.takeWhile_append_trimStart]

/-- The spans that are read are the spans that the text spells. -/
theorem readMany?_eq_some_iff : readMany? text = some spans ↔ Spells spans text := by
  constructor
  · intro found
    induction text using readMany?.induct generalizing spans with
    | case1 text span rest first induction =>
        rw [readMany?_of_some first] at found
        obtain ⟨others, more, rfl⟩ := Option.map_eq_some_iff.mp found
        obtain ⟨blanks, name, blank, number, named, rfl⟩ := exists_of_read? first
        exact .span blank number named (induction more)
    | case2 text missing blank =>
        rw [readMany?_of_none missing, if_pos blank] at found
        cases found
        exact .done (List.dropWhile_eq_nil_iff.mp (List.isEmpty_iff.mp blank))
    | case3 text missing solid =>
        rw [readMany?_of_none missing, if_neg solid] at found
        cases found
  · intro spelled
    induction spelled with
    | @done blanks blank =>
        have trimmed : Text.trimStart blanks = [] := List.dropWhile_eq_nil_iff.mpr blank
        have missing : read? blanks = none := by
          rw [read?, trimmed]
          rfl
        rw [readMany?_of_none missing, trimmed]
        rfl
    | span blank number named others induction =>
        rw [readMany?_of_some (read?_of_spells blank number named others), induction]
        rfl

theorem readAll?_eq_some_iff : readAll? text = some spans ↔ spans ≠ [] ∧ Spells spans text := by
  rw [readAll?, Option.filter_eq_some_iff, readMany?_eq_some_iff, and_comm]
  simp

/-- A text spells its spans in one way. -/
theorem Spells.unique (spelled : Spells spans text) (spelledOthers : Spells others text) :
    spans = others := by
  rw [← readMany?_eq_some_iff] at spelled spelledOthers
  rw [spelled] at spelledOthers
  exact Option.some.inj spelledOthers

end Span

end TypedEnv
