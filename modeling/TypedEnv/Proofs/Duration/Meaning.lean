import TypedEnv.Proofs.Duration.Fraction
import TypedEnv.Proofs.Duration.Overrun
import TypedEnv.Proofs.Duration.Spelling

/-!
# The meaning of duration texts

A span means its number of units in nanoseconds, rounded down, and a text means
the sum of the spans that it spells.  `Duration.read?` has no other result for a
text of spans with at most ten digits behind a point, and it has this result
whenever the sum fits 64 bits.
-/

namespace TypedEnv

namespace Duration

/-- The nanoseconds of amounts of units. -/
def amountNanoseconds (amounts : List (Nat × TimeUnit)) : Nat :=
  sumOf (fun amount unit => amount * unit.nanoseconds) amounts

/-- Amounts are added when their sum is far from the end of the range. -/
theorem exists_addUnits? {total : Duration} {amount : Nat} {timeUnit : TimeUnit}
    (room : total.totalNanoseconds + amount * timeUnit.nanoseconds < wordLimit) :
    ∃ sum, total.addUnits? amount timeUnit = .ok (some sum) := by
  have range : wordLimit ≤ wordLimit * nanosPerSecond := by decide
  obtain ⟨sum, exact⟩ := exists_totalNanoseconds (room.trans_le range)
  refine ⟨sum, addUnits?_eq_some_iff.mpr ⟨?_, exact⟩⟩
  rw [totalNanoseconds, TimeUnit.mul_nanoseconds] at room
  omega

variable {total sum : Duration} {amounts : List (Nat × TimeUnit)}

theorem amountNanoseconds_nil : amountNanoseconds [] = 0 :=
  rfl

theorem amountNanoseconds_cons (amount : Nat) (timeUnit : TimeUnit) :
    amountNanoseconds ((amount, timeUnit) :: amounts) =
      amount * timeUnit.nanoseconds + amountNanoseconds amounts :=
  sumOf_cons _ _

theorem amountNanoseconds_append (front back : List (Nat × TimeUnit)) :
    amountNanoseconds (front ++ back) = amountNanoseconds front + amountNanoseconds back := by
  simp [amountNanoseconds, sumOf]

/-- Amounts add up to their nanoseconds, or not at all. -/
theorem totalNanoseconds_of_addAll? (added : addAll? total amounts = .ok (some sum)) :
    sum.totalNanoseconds = total.totalNanoseconds + amountNanoseconds amounts := by
  induction amounts generalizing total with
  | nil =>
      rw [addAll?] at added
      obtain rfl : total = sum := Option.some.inj (Except.ok.inj added)
      rw [amountNanoseconds_nil, Nat.add_zero]
  | cons entry rest induction =>
      obtain ⟨amount, timeUnit⟩ := entry
      rw [addAll?] at added
      split at added
      · next next step =>
          rw [induction added, (addUnits?_eq_some_iff.mp step).2, amountNanoseconds_cons,
            Nat.add_assoc]
      · cases added
      · cases added

theorem exists_addAll?
    (room : total.totalNanoseconds + amountNanoseconds amounts < wordLimit) :
    ∃ sum, addAll? total amounts = .ok (some sum) := by
  induction amounts generalizing total with
  | nil => exact ⟨total, rfl⟩
  | cons entry rest induction =>
      obtain ⟨amount, timeUnit⟩ := entry
      rw [amountNanoseconds_cons] at room
      have roomFirst : total.totalNanoseconds + amount * timeUnit.nanoseconds < wordLimit := by
        omega
      obtain ⟨next, step⟩ := exists_addUnits? roomFirst
      have roomBehind : next.totalNanoseconds + amountNanoseconds rest < wordLimit := by
        rw [(addUnits?_eq_some_iff.mp step).2]
        omega
      rw [addAll?, step]
      exact induction roomBehind

end Duration

namespace Span

/-- How many units a span counts. -/
def magnitude (span : Span) : ℚ :=
  Decimal.pointed span.whole (span.fraction.getD [])

/-- The nanoseconds of a span, rounded down. -/
def nanoseconds (span : Span) : Nat :=
  ⌊span.magnitude * span.timeUnit.nanoseconds⌋₊

/-- A span with at most ten digits behind its point, if it has one. -/
def IsShort (span : Span) : Prop :=
  ∀ digits ∈ span.fraction, digits.length ≤ 10

instance : DecidablePred IsShort :=
  fun span => inferInstanceAs (Decidable (∀ digits ∈ span.fraction, digits.length ≤ 10))

/-- The nanoseconds of spans, each rounded down. -/
def sumNanoseconds (spans : List Span) : Nat :=
  (spans.map nanoseconds).sum

variable {span : Span} {amounts : List (Nat × TimeUnit)}

theorem nanoseconds_of_whole {whole : List Char} {timeUnit : TimeUnit} :
    nanoseconds ⟨whole, none, timeUnit⟩ =
      Nat.ofDigitChars 10 whole 0 * timeUnit.nanoseconds := by
  have exact : Decimal.pointed whole [] * timeUnit.nanoseconds =
      ((Nat.ofDigitChars 10 whole 0 * timeUnit.nanoseconds : Nat) : ℚ) := by
    simp [Decimal.pointed]
  exact (congrArg Nat.floor exact).trans (Nat.floor_natCast _)

/-- A short span with a point counts as its nanoseconds as long as these fit. -/
theorem fractionalNanoseconds?_of_short {whole fraction : List Char} {timeUnit : TimeUnit}
    {counted : Nat} (wholeDigits : ∀ c ∈ whole, c.isDigit = true)
    (fractionDigits : ∀ c ∈ fraction, c.isDigit = true) (short : fraction.length ≤ 10) :
    fractionalNanoseconds? whole fraction timeUnit = some counted ↔
      counted = nanoseconds ⟨whole, some fraction, timeUnit⟩ ∧ counted < doubleWordLimit := by
  have floor : nanoseconds ⟨whole, some fraction, timeUnit⟩ =
      Nat.ofDigitChars 10 whole 0 * timeUnit.nanoseconds +
        keptFrom timeUnit.nanoseconds 0 fraction + ⌊lost timeUnit fraction⌋₊ := floor_exact rfl
  have nothing : ⌊lost timeUnit fraction⌋₊ = 0 :=
    Nat.floor_eq_zero.mpr (lost_lt_one_of_short short fractionDigits)
  rw [nothing, Nat.add_zero] at floor
  rw [fractionalNanoseconds?_eq_some_iff wholeDigits, floor]

/-- Seconds and nanoseconds are those of a whole number of nanoseconds. -/
theorem amountNanoseconds_parts (counted : Nat) :
    Duration.amountNanoseconds
      [(counted / nanosPerSecond, .second), (counted % nanosPerSecond, .nanosecond)] =
        counted := by
  have parts := Nat.div_add_mod' counted nanosPerSecond
  rw [Duration.amountNanoseconds_cons, Duration.amountNanoseconds_cons, TimeUnit.nanoseconds,
    TimeUnit.nanoseconds, Nat.mul_one, Duration.amountNanoseconds_nil, Nat.add_zero, parts]

theorem amountNanoseconds_of_amounts? (number : IsNumber span.whole span.fraction)
    (short : span.IsShort) (found : span.amounts? = some amounts) :
    Duration.amountNanoseconds amounts = span.nanoseconds := by
  obtain ⟨whole, fraction, timeUnit⟩ := span
  cases fraction with
  | none =>
      rw [amounts?, Decimal.ofDigits?_ten number.wholeDigits] at found
      cases found
      rw [nanoseconds_of_whole, Duration.amountNanoseconds_cons, Duration.amountNanoseconds_nil,
        Nat.add_zero]
  | some fraction =>
      obtain ⟨counted, resolved, rfl⟩ := Option.map_eq_some_iff.mp found
      rw [fractionalNanoseconds?_of_short number.wholeDigits
        (number.fractionDigits fraction rfl) (short fraction rfl)] at resolved
      rw [amountNanoseconds_parts, resolved.1]

theorem exists_amounts? (number : IsNumber span.whole span.fraction) (short : span.IsShort)
    (room : span.nanoseconds < doubleWordLimit) : ∃ amounts, span.amounts? = some amounts := by
  obtain ⟨whole, fraction, timeUnit⟩ := span
  cases fraction with
  | none =>
      rw [amounts?, Decimal.ofDigits?_ten number.wholeDigits]
      exact ⟨_, rfl⟩
  | some fraction =>
      have resolved := (fractionalNanoseconds?_of_short number.wholeDigits
        (number.fractionDigits fraction rfl) (short fraction rfl)).mpr ⟨rfl, room⟩
      dsimp only at resolved
      simp only [amounts?, resolved]
      exact ⟨_, rfl⟩

variable {spans : List Span} {parts : List (List (Nat × TimeUnit))} {text : List Char}

theorem Spells.forall_isNumber (spelled : Spells spans text) :
    ∀ span ∈ spans, IsNumber span.whole span.fraction := by
  induction spelled with
  | done blank => simp
  | span blank number named others induction => exact List.forall_mem_cons.mpr ⟨number, induction⟩

theorem sumNanoseconds_cons (span : Span) (spans : List Span) :
    sumNanoseconds (span :: spans) = span.nanoseconds + sumNanoseconds spans := by
  simp [sumNanoseconds]

theorem amountNanoseconds_of_mapM
    (numbers : ∀ span ∈ spans, IsNumber span.whole span.fraction)
    (short : ∀ span ∈ spans, span.IsShort) (found : spans.mapM amounts? = some parts) :
    Duration.amountNanoseconds parts.flatten = sumNanoseconds spans := by
  induction spans generalizing parts with
  | nil =>
      cases found
      rfl
  | cons span rest induction =>
      obtain ⟨number, numbersBehind⟩ := List.forall_mem_cons.mp numbers
      obtain ⟨shortFirst, shortBehind⟩ := List.forall_mem_cons.mp short
      simp only [List.mapM_cons, Option.bind_eq_bind, Option.bind_eq_some_iff, Option.pure_def,
        Option.some.injEq] at found
      obtain ⟨amounts, first, others, more, rfl⟩ := found
      rw [List.flatten_cons, Duration.amountNanoseconds_append, sumNanoseconds_cons,
        amountNanoseconds_of_amounts? number shortFirst first,
        induction numbersBehind shortBehind more]

theorem exists_mapM (numbers : ∀ span ∈ spans, IsNumber span.whole span.fraction)
    (short : ∀ span ∈ spans, span.IsShort) (room : sumNanoseconds spans < doubleWordLimit) :
    ∃ parts, spans.mapM amounts? = some parts := by
  induction spans with
  | nil => exact ⟨[], rfl⟩
  | cons span rest induction =>
      obtain ⟨number, numbersBehind⟩ := List.forall_mem_cons.mp numbers
      obtain ⟨shortFirst, shortBehind⟩ := List.forall_mem_cons.mp short
      rw [sumNanoseconds_cons] at room
      obtain ⟨amounts, first⟩ := exists_amounts? number shortFirst (by omega)
      obtain ⟨parts, others⟩ := induction numbersBehind shortBehind (by omega)
      refine ⟨amounts :: parts, ?_⟩
      rw [List.mapM_cons, first, others]
      rfl

end Span

namespace Duration

open TypedEnv.Span

variable {text : List Char} {spans : List Span}

/-- A text consists of spans, of which there is at least one. -/
def IsSpanned (text : List Char) : Prop :=
  ∃ spans, spans ≠ [] ∧ Spells spans text

theorem isSome_readAll?_iff : (readAll? text).isSome = true ↔ IsSpanned text := by
  rw [Option.isSome_iff_exists]
  exact exists_congr fun _ => readAll?_eq_some_iff

instance : DecidablePred IsSpanned :=
  fun _ => decidable_of_iff _ isSome_readAll?_iff

theorem read?_of_not_spanned (notSpanned : ¬ IsSpanned text) : read? text = .ok none := by
  rw [← isSome_readAll?_iff, Option.not_isSome_iff_eq_none] at notSpanned
  rw [read?, notSpanned]
  rfl

theorem read?_of_spells (nonempty : spans ≠ []) (spelled : Spells spans text) :
    read? text = match spans.mapM amounts? with
      | some parts => addAll? zero parts.flatten
      | none => .ok none := by
  have cut := readAll?_eq_some_iff.mpr ⟨nonempty, spelled⟩
  rw [read?, cut]
  rfl

/-- A text that is not spanned is no duration, and a text of short spans is no other duration
than the sum of its spans.  It is that duration if the sum fits 64 bits. -/
theorem read?_means_sum (text : List Char) :
    (¬ IsSpanned text → read? text = .ok none) ∧
      ∀ spans, spans ≠ [] → Spells spans text → (∀ span ∈ spans, span.IsShort) →
        (∀ duration, read? text = .ok (some duration) →
          duration.totalNanoseconds = sumNanoseconds spans) ∧
        (sumNanoseconds spans < wordLimit → ∃ duration, read? text = .ok (some duration) ∧
          duration.totalNanoseconds = sumNanoseconds spans) := by
  refine ⟨read?_of_not_spanned, ?_⟩
  intro spans nonempty spelled short
  have numbers := spelled.forall_isNumber
  have value : ∀ duration, read? text = .ok (some duration) →
      duration.totalNanoseconds = sumNanoseconds spans := by
    intro duration found
    rw [read?_of_spells nonempty spelled] at found
    split at found
    · next parts resolved =>
        rw [totalNanoseconds_of_addAll? found, amountNanoseconds_of_mapM numbers short resolved]
        exact Nat.zero_add _
    · cases found
  refine ⟨value, ?_⟩
  intro room
  have words : wordLimit < doubleWordLimit := by decide
  obtain ⟨parts, resolved⟩ := exists_mapM numbers short (room.trans words)
  have roomForSum : zero.totalNanoseconds + amountNanoseconds parts.flatten < wordLimit := by
    rw [amountNanoseconds_of_mapM numbers short resolved]
    exact (Nat.zero_add _).trans_lt room
  obtain ⟨duration, sum⟩ := exists_addAll? roomForSum
  have found : read? text = .ok (some duration) := by
    rw [read?_of_spells nonempty spelled, resolved]
    exact sum
  exact ⟨duration, found, value duration found⟩

/-- A whole hour, a second and a half, and a quarter of a microsecond. -/
def mixedSpans : List Span :=
  [⟨['1'], none, .hour⟩, ⟨['1'], some ['5'], .second⟩, ⟨[], some ['2', '5'], .microsecond⟩]

theorem read?_means_sum_mixedSpans :
    (¬ IsSpanned "2days".toList ∧ read? "2days".toList = .ok none) ∧
      Spells mixedSpans " 1h 1.5s.25µs ".toList ∧ (∀ span ∈ mixedSpans, span.IsShort) ∧
        sumNanoseconds mixedSpans = 3601500000250 ∧
          ∃ duration, read? " 1h 1.5s.25µs ".toList = .ok (some duration) ∧
            duration.totalNanoseconds = sumNanoseconds mixedSpans := by
  have notSpanned : ¬ IsSpanned "2days".toList := by decide +kernel
  have spelled : Spells mixedSpans " 1h 1.5s.25µs ".toList :=
    readMany?_eq_some_iff.mp (by decide +kernel)
  have short : ∀ span ∈ mixedSpans, span.IsShort := by decide
  have found : read? " 1h 1.5s.25µs ".toList =
      .ok (some ⟨3601, 500000250, by decide, by decide⟩) := by decide +kernel
  obtain ⟨value, exists_of_room⟩ := (read?_means_sum _).2 mixedSpans (by decide) spelled short
  have sum : sumNanoseconds mixedSpans = 3601500000250 := (value _ found).symm
  have room : sumNanoseconds mixedSpans < wordLimit := by
    rw [sum]
    decide
  exact ⟨⟨notSpanned, (read?_means_sum _).1 notSpanned⟩, spelled, short, sum, exists_of_room room⟩

end Duration

end TypedEnv
