import TypedEnv.Duration.Render
import TypedEnv.Proofs.Duration.Spans
import TypedEnv.Proofs.Duration.Sum
import TypedEnv.Proofs.Text.Blank

/-!
# Written durations are read back

The text of a duration consists of spans of whole units, which are read one by
one and add up to the duration.  No number and no truth value is written in
this way, so the text is also inferred as that duration.
-/

namespace TypedEnv

namespace TimeUnit

/-- The letters of a unit in a written duration. -/
def symbol : TimeUnit → List Char
  | .nanosecond => ['n', 's']
  | .microsecond => ['u', 's']
  | .millisecond => ['m', 's']
  | .second => ['s']
  | .minute => ['m']
  | .hour => ['h']

theorem symbol_mem_names (timeUnit : TimeUnit) : timeUnit.symbol ∈ timeUnit.names := by
  cases timeUnit <;> decide

theorem exists_symbol (timeUnit : TimeUnit) :
    ∃ letter ∈ letters, ∃ more ⊆ letters, timeUnit.symbol = letter :: more := by
  cases timeUnit with
  | nanosecond => exact ⟨'n', by decide, ['s'], by decide, rfl⟩
  | microsecond => exact ⟨'u', by decide, ['s'], by decide, rfl⟩
  | millisecond => exact ⟨'m', by decide, ['s'], by decide, rfl⟩
  | second => exact ⟨'s', by decide, [], by decide, rfl⟩
  | minute => exact ⟨'m', by decide, [], by decide, rfl⟩
  | hour => exact ⟨'h', by decide, [], by decide, rfl⟩

end TimeUnit

namespace Span

/-- A span of a whole number of units. -/
def ofAmount (entry : Nat × TimeUnit) : Span :=
  ⟨Decimal.digits entry.1, none, entry.2⟩

/-- The text of spans of whole units. -/
def wholeText (amounts : List (Nat × TimeUnit)) : List Char :=
  amounts.flatMap fun entry => Decimal.digits entry.1 ++ entry.2.symbol

theorem wholeText_cons (entry : Nat × TimeUnit) (rest : List (Nat × TimeUnit)) :
    wholeText (entry :: rest) =
      Decimal.digits entry.1 ++ (entry.2.symbol ++ wholeText rest) := by
  simp [wholeText]

/-- The text of whole units spells their spans, without blanks. -/
theorem spells_wholeText (amounts : List (Nat × TimeUnit)) :
    Spells (amounts.map ofAmount) (wholeText amounts) := by
  have noBlanks : ∀ c ∈ ([] : List Char), Text.isBlank c = true := by simp
  induction amounts with
  | nil => exact .done noBlanks
  | cons entry rest induction =>
      have number : IsNumber (Decimal.digits entry.1) none :=
        .whole (Decimal.digits_ne_nil _) fun _ member => Decimal.isDigit_of_mem_digits member
      rw [wholeText_cons]
      exact .span noBlanks number entry.2.symbol_mem_names induction

theorem readAll?_wholeText {amounts : List (Nat × TimeUnit)} (nonempty : amounts ≠ []) :
    readAll? (wholeText amounts) = some (amounts.map ofAmount) := by
  rw [readAll?_eq_some_iff]
  exact ⟨by simpa using nonempty, spells_wholeText amounts⟩

theorem amounts?_ofAmount (entry : Nat × TimeUnit) : amounts? (ofAmount entry) = some [entry] := by
  simp [amounts?, ofAmount, Decimal.ofDigits?_digits]

end Span

namespace Duration

/-- Spans of whole units are read as their sum. -/
theorem read?_wholeText {amounts : List (Nat × TimeUnit)} (nonempty : amounts ≠ []) :
    read? (Span.wholeText amounts) = addAll? zero amounts := by
  have spans := Span.readAll?_wholeText nonempty
  have each : (amounts.map Span.ofAmount).mapM Span.amounts? =
      some (amounts.map fun entry => [entry]) := by
    clear spans nonempty
    induction amounts with
    | nil => rfl
    | cons entry rest induction => simp [Span.amounts?_ofAmount, induction]
  have flat : (amounts.map fun entry => [entry]).flatten = amounts := by
    rw [← List.flatMap_def, List.flatMap_singleton']
  rw [Duration.read?, spans, Option.bind_some, each]
  dsimp only
  rw [flat]

variable (duration : Duration)

/-- The amount of each unit, from hours down to nanoseconds. -/
def amounts : List (Nat × TimeUnit) :=
  [(duration.seconds / 3600, .hour), (duration.seconds / 60 % 60, .minute),
    (duration.seconds % 60, .second), (duration.nanoseconds / 1000000, .millisecond),
    (duration.nanoseconds / 1000 % 1000, .microsecond),
    (duration.nanoseconds % 1000, .nanosecond)]

/-- The amounts that are written. -/
def writtenAmounts : List (Nat × TimeUnit) :=
  if duration.isZero then [(0, .second)] else duration.amounts.filter fun entry => 0 < entry.1

theorem toList_render : duration.render.toList = Span.wholeText duration.writtenAmounts := by
  have units : duration.unitAmounts =
      duration.amounts.map fun entry => (entry.1, String.ofList entry.2.symbol) := rfl
  rw [render, writtenAmounts]
  split
  · rfl
  · rw [units, List.filter_map, List.map_map, String.toList_join, List.flatMap_map]
    simp [Span.wholeText, Function.comp_def, Decimal.natText]

variable {duration} in
theorem isZero_iff : duration.isZero = true ↔ duration.seconds = 0 ∧ duration.nanoseconds = 0 := by
  simp [isZero]

theorem sumOf_amounts (part : Nat → TimeUnit → Nat) : sumOf part duration.amounts =
    part (duration.seconds / 3600) .hour + (part (duration.seconds / 60 % 60) .minute +
      (part (duration.seconds % 60) .second + (part (duration.nanoseconds / 1000000) .millisecond +
        (part (duration.nanoseconds / 1000 % 1000) .microsecond +
          part (duration.nanoseconds % 1000) .nanosecond)))) := by
  simp [sumOf, amounts]

theorem sumOf_writtenAmounts :
    sumOf (fun amount unit => unit.wholeSeconds amount) duration.writtenAmounts =
        duration.seconds ∧
      sumOf (fun amount unit => unit.partNanoseconds amount) duration.writtenAmounts =
        duration.nanoseconds := by
  rw [writtenAmounts]
  split
  · next none =>
      obtain ⟨noSeconds, noNanoseconds⟩ := isZero_iff.mp none
      rw [noSeconds, noNanoseconds]
      exact ⟨rfl, rfl⟩
  · rw [sumOf_filter TimeUnit.wholeSeconds_zero, sumOf_filter TimeUnit.partNanoseconds_zero,
      sumOf_amounts, sumOf_amounts]
    simp only [TimeUnit.wholeSeconds, TimeUnit.partNanoseconds]
    constructor
    · omega
    · omega

/-- At least one amount is written: without any the duration is zero, which is written `0s`. -/
theorem writtenAmounts_ne_nil : duration.writtenAmounts ≠ [] := by
  intro nothing
  obtain ⟨seconds, nanoseconds⟩ := duration.sumOf_writtenAmounts
  rw [nothing] at seconds nanoseconds
  have zero : duration.isZero = true := isZero_iff.mpr ⟨seconds.symm, nanoseconds.symm⟩
  rw [writtenAmounts, if_pos zero] at nothing
  cases nothing

/-- The text of a duration is read as that duration. -/
theorem read?_render : read? duration.render.toList = .ok (some duration) := by
  obtain ⟨seconds, nanoseconds⟩ := duration.sumOf_writtenAmounts
  rw [duration.toList_render, read?_wholeText duration.writtenAmounts_ne_nil]
  exact addAll?_of_sum (by rw [seconds]; exact Nat.zero_add _)
    (by rw [nanoseconds]; exact Nat.zero_add _)

/-- The text of a duration begins with digits, of which there is at least one, and the letter of
a unit. -/
theorem exists_toList_render : ∃ amount, ∃ letter ∈ TimeUnit.letters, ∃ rest,
    duration.render.toList = Decimal.digits amount ++ letter :: rest := by
  obtain ⟨⟨amount, timeUnit⟩, others, isCons⟩ :=
    List.exists_cons_of_ne_nil duration.writtenAmounts_ne_nil
  obtain ⟨letter, isLetter, more, -, symbol⟩ := timeUnit.exists_symbol
  refine ⟨amount, letter, isLetter, more ++ Span.wholeText others, ?_⟩
  rw [duration.toList_render, isCons, Span.wholeText_cons, symbol, List.cons_append]

/-- The text of a duration is none of the numbers and truth values that are tried first. -/
theorem inferNumber?_render : inferNumber? duration.render = none := by
  apply inferNumber?_of_isSpanText
  rw [duration.toList_render]
  exact Span.isSpanText_of_readAll? (Span.readAll?_wholeText duration.writtenAmounts_ne_nil)

/-- The text of a duration is read as that duration, and it is inferred as that duration. -/
theorem render_reads_back : read? duration.render.toList = .ok (some duration) ∧
    infer duration.render = .ok (.duration duration) := by
  have reads := duration.read?_render
  refine ⟨reads, ?_⟩
  have nonempty : ¬ duration.render.isEmpty = true := by
    intro isEmpty
    obtain ⟨amount, letter, -, rest, written⟩ := duration.exists_toList_render
    rw [String.isEmpty_iff.mp isEmpty] at written
    simp at written
  rw [infer, if_neg nonempty, duration.inferNumber?_render]
  simp [reads]

end Duration

end TypedEnv
