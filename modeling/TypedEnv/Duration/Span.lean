import TypedEnv.Duration.Basic
import TypedEnv.Decimal.Digits
import TypedEnv.Text.Blank

/-!
# Duration texts

A duration is written as one or more spans such as `1h30m`, `250ms` or `.5s`:
a decimal number and a unit, with blanks allowed before each span and at the
end.  `Span.readAll?` reads the spans and `Duration.read` adds them up.  A span
without a decimal point counts whole units; one with a point is first resolved
to whole nanoseconds, digit by digit, and then counts as seconds and
nanoseconds.
-/

namespace TypedEnv

/-- The units of time that a span may name. -/
inductive TimeUnit where
  | nanosecond
  | microsecond
  | millisecond
  | second
  | minute
  | hour
  deriving DecidableEq

namespace TimeUnit

def nanoseconds : TimeUnit → Nat
  | .nanosecond => 1
  | .microsecond => 1000
  | .millisecond => 1000000
  | .second => nanosPerSecond
  | .minute => 60 * nanosPerSecond
  | .hour => 3600 * nanosPerSecond

/-- Reads a unit and returns the text after it; the longest unit name wins. -/
def read? : List Char → Option (TimeUnit × List Char)
  | 'n' :: 's' :: rest => some (.nanosecond, rest)
  | 'u' :: 's' :: rest => some (.microsecond, rest)
  | 'µ' :: 's' :: rest => some (.microsecond, rest)
  | 'm' :: 's' :: rest => some (.millisecond, rest)
  | 'm' :: rest => some (.minute, rest)
  | 's' :: rest => some (.second, rest)
  | 'h' :: rest => some (.hour, rest)
  | _ => none

/-- A unit has at least one character. -/
theorem length_lt_of_read? {text rest : List Char} {timeUnit : TimeUnit}
    (found : read? text = some (timeUnit, rest)) : rest.length < text.length := by
  unfold read? at found
  split at found <;> simp only [Option.some.injEq, Prod.mk.injEq, reduceCtorEq] at found
  all_goals
    obtain ⟨_, rfl⟩ := found
    simp only [List.length_cons]
    omega

end TimeUnit

/-- One span: the digits before the point, those after it if there is a point, and the unit. -/
structure Span where
  whole : List Char
  fraction : Option (List Char)
  timeUnit : TimeUnit
  deriving DecidableEq

namespace Span

/-- Splits off a decimal number: digits with an optional point and further digits, or a point
with digits after it. -/
def readNumber? (text : List Char) : Option ((List Char × Option (List Char)) × List Char) :=
  let whole := text.takeWhile Char.isDigit
  match text.dropWhile Char.isDigit with
  | '.' :: rest =>
      let fraction := rest.takeWhile Char.isDigit
      if whole.isEmpty && fraction.isEmpty then none
      else some ((whole, some fraction), rest.dropWhile Char.isDigit)
  | rest => if whole.isEmpty then none else some ((whole, none), rest)

/-- Reads one span with the blanks before it. -/
def read? (text : List Char) : Option (Span × List Char) := do
  let ((whole, fraction), rest) ← readNumber? (Text.trimStart text)
  let (timeUnit, rest) ← TimeUnit.read? rest
  return (⟨whole, fraction, timeUnit⟩, rest)

theorem length_le_of_readNumber? {text rest : List Char}
    {number : List Char × Option (List Char)}
    (found : readNumber? text = some (number, rest)) : rest.length ≤ text.length := by
  have dropped : ∀ cs : List Char, (cs.dropWhile Char.isDigit).length ≤ cs.length := by
    intro cs
    exact (List.dropWhile_sublist _).length_le
  unfold readNumber? at found
  have outer := dropped text
  split at found
  next cs equality =>
    have inner := dropped cs
    rw [equality] at outer
    simp only [List.length_cons] at outer
    dsimp only at found
    split at found
    · simp at found
    · simp only [Option.some.injEq, Prod.mk.injEq] at found
      obtain ⟨_, rfl⟩ := found
      omega
  next =>
    dsimp only at found
    split at found
    · simp at found
    · simp only [Option.some.injEq, Prod.mk.injEq] at found
      obtain ⟨_, rfl⟩ := found
      exact outer

/-- A span has at least one character. -/
theorem length_lt_of_read? {text rest : List Char} {span : Span}
    (found : read? text = some (span, rest)) : rest.length < text.length := by
  unfold read? at found
  simp only [Option.bind_eq_bind, Option.bind_eq_some_iff, Prod.exists, Option.pure_def,
    Option.some.injEq, Prod.mk.injEq] at found
  obtain ⟨whole, fraction, middle, number, timeUnit, last, named, _, rfl⟩ := found
  have first := Text.trimStart_length_le text
  have second := length_le_of_readNumber? number
  have third := TimeUnit.length_lt_of_read? named
  omega

/-- Reads spans up to the end of the text; only blanks may follow the last one. -/
def readMany? (text : List Char) : Option (List Span) :=
  match _found : read? text with
  | some (span, rest) => (readMany? rest).map (span :: ·)
  | none => if (Text.trimStart text).isEmpty then some [] else none
  termination_by text.length
  decreasing_by exact length_lt_of_read? _found

/-- Reads a text that consists of one or more spans. -/
def readAll? (text : List Char) : Option (List Span) :=
  (readMany? text).filter (!·.isEmpty)

/-- The numbers of a fraction that fit 128 bits stay below this. -/
def doubleWordLimit : Nat := wordLimit * wordLimit

/-- Adds the digits of a fraction, each at a tenth of the scale of the digit before it; what a
scale loses below one nanosecond is dropped. -/
def addFraction? (total scale : Nat) : List Char → Option Nat
  | [] => some total
  | digit :: rest =>
      let scale := scale / 10
      let total := total + (digit.toNat - '0'.toNat) * scale
      if total < doubleWordLimit then addFraction? total scale rest else none

/-- The nanoseconds of a span with a decimal point, or nothing when a step leaves 128 bits. -/
def fractionalNanoseconds? (whole fraction : List Char) (timeUnit : TimeUnit) : Option Nat := do
  let units ← Decimal.ofDigits? 10 whole
  if units < doubleWordLimit ∧ units * timeUnit.nanoseconds < doubleWordLimit then
    addFraction? (units * timeUnit.nanoseconds) timeUnit.nanoseconds fraction
  else none

/-- The whole-unit amounts that a span stands for. -/
def amounts? (span : Span) : Option (List (Nat × TimeUnit)) :=
  match span.fraction with
  | none => (Decimal.ofDigits? 10 span.whole).map fun amount => [(amount, span.timeUnit)]
  | some fraction =>
      (fractionalNanoseconds? span.whole fraction span.timeUnit).map fun nanoseconds =>
        [(nanoseconds / nanosPerSecond, .second), (nanoseconds % nanosPerSecond, .nanosecond)]

end Span

namespace Duration

/-- Adds a whole number of units.  The number, and its value in seconds or in nanoseconds, have
to fit 64 bits. -/
def addUnits? (total : Duration) (amount : Nat) (timeUnit : TimeUnit) :
    Except Abort (Option Duration) :=
  let (seconds, nanoseconds) :=
    match timeUnit with
    | .nanosecond => (0, amount)
    | .microsecond => (0, amount * 1000)
    | .millisecond => (0, amount * 1000000)
    | .second => (amount, 0)
    | .minute => (amount * 60, 0)
    | .hour => (amount * 3600, 0)
  if amount < wordLimit ∧ seconds < wordLimit ∧ nanoseconds < wordLimit then
    total.advance? seconds nanoseconds
  else .ok none

/-- Adds amounts from left to right, up to the first sum that is out of range. -/
def addAll? (total : Duration) : List (Nat × TimeUnit) → Except Abort (Option Duration)
  | [] => .ok (some total)
  | (amount, timeUnit) :: rest =>
      match total.addUnits? amount timeUnit with
      | .ok (some total) => addAll? total rest
      | .ok none => .ok none
      | .error reason => .error reason

/-- Reads a duration text, or nothing when the text is none or its value is out of range. -/
def read? (text : List Char) : Except Abort (Option Duration) :=
  match (Span.readAll? text).bind fun spans => spans.mapM Span.amounts? with
  | some amounts => addAll? zero amounts.flatten
  | none => .ok none

end Duration

end TypedEnv
