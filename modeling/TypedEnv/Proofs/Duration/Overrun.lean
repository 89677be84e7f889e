import TypedEnv.Proofs.Duration.Sum

/-!
# Sums that stop the program

A sum of durations that is out of range is refused, with one exception.  When
the nanoseconds of an amount fill up the last second of the range exactly, the
sum carries one second for which there is no room, and the program stops.
-/

namespace TypedEnv.Duration

variable {total : Duration} {reason : Abort}

/-- An amount fills up the last second of the range exactly. -/
def FillsLastSecond (total : Duration) (amount : Nat) (timeUnit : TimeUnit) : Prop :=
  total.seconds + 1 = wordLimit ∧
    total.nanoseconds + timeUnit.partNanoseconds amount = nanosPerSecond

/-- The sum of the amounts before some amount is filled up by it. -/
def OverrunsFrom (total : Duration) (amounts : List (Nat × TimeUnit)) : Prop :=
  ∃ before amount timeUnit after sum, amounts = before ++ (amount, timeUnit) :: after ∧
    addAll? total before = .ok (some sum) ∧ sum.FillsLastSecond amount timeUnit

/-- A text consists of spans whose amounts fill up the last second on the way. -/
def Overruns (text : List Char) : Prop :=
  ∃ spans amounts, Span.readAll? text = some spans ∧ spans.mapM Span.amounts? = some amounts ∧
    OverrunsFrom zero amounts.flatten

section Seconds

variable {seconds nanoseconds : Nat}

theorem advance?_eq_error_iff :
    total.advance? seconds nanoseconds = .error reason ↔ reason = .secondsOverflow ∧
      total.seconds + seconds + 1 = wordLimit ∧
        total.nanoseconds + nanoseconds = nanosPerSecond := by
  by_cases full : total.nanoseconds + nanoseconds = nanosPerSecond
  · rw [advance?_of_full full]
    split
    · simp only [reduceCtorEq, false_iff]
      omega
    · split
      · simp only [reduceCtorEq, false_iff]
        omega
      · have last : total.seconds + seconds + 1 = wordLimit := by omega
        simp [last, full, eq_comm]
  · constructor
    · intro stopped
      rw [advance?_of_not_full full] at stopped
      cases stopped
    · rintro ⟨-, -, isFull⟩
      exact absurd isFull full

end Seconds

/-- Only nanoseconds fill up a second, and they come without seconds. -/
theorem wholeSeconds_of_full {amount : Nat} {timeUnit : TimeUnit}
    (full : total.nanoseconds + timeUnit.partNanoseconds amount = nanosPerSecond) :
    timeUnit.wholeSeconds amount = 0 := by
  have below := total.nanoseconds_lt
  cases timeUnit <;> simp only [TimeUnit.wholeSeconds, TimeUnit.partNanoseconds] at full ⊢ <;>
    omega

theorem addUnits?_eq_error_iff {amount : Nat} {timeUnit : TimeUnit} :
    total.addUnits? amount timeUnit = .error reason ↔
      reason = .secondsOverflow ∧ total.FillsLastSecond amount timeUnit := by
  have order : nanosPerSecond < wordLimit := by decide
  rw [addUnits?_eq]
  split
  · rw [advance?_eq_error_iff, FillsLastSecond]
    constructor
    · rintro ⟨rfl, last, full⟩
      rw [wholeSeconds_of_full full] at last
      exact ⟨rfl, last, full⟩
    · rintro ⟨rfl, last, full⟩
      rw [wholeSeconds_of_full full]
      exact ⟨rfl, last, full⟩
  · next outside =>
      simp only [reduceCtorEq, false_iff]
      rintro ⟨-, -, full⟩
      have noSeconds := wholeSeconds_of_full full
      have fits : amount < wordLimit := by
        rcases timeUnit.amount_le amount with inSeconds | inNanoseconds <;> omega
      exact outside ⟨fits, by omega, by omega⟩

theorem overrunsFrom_cons {amount : Nat} {timeUnit : TimeUnit} {rest : List (Nat × TimeUnit)} :
    OverrunsFrom total ((amount, timeUnit) :: rest) ↔ total.FillsLastSecond amount timeUnit ∨
      ∃ sum, total.addUnits? amount timeUnit = .ok (some sum) ∧ OverrunsFrom sum rest := by
  constructor
  · rintro ⟨before, last, lastUnit, after, sum, split, added, fills⟩
    cases before with
    | nil =>
        cases split
        cases added
        exact .inl fills
    | cons first others =>
        cases split
        rw [addAll?] at added
        split at added
        · next next step => exact .inr ⟨next, step, others, _, _, _, sum, rfl, added, fills⟩
        · cases added
        · cases added
  · rintro (fills | ⟨next, step, before, last, lastUnit, after, sum, rfl, added, fills⟩)
    · exact ⟨[], amount, timeUnit, rest, total, rfl, rfl, fills⟩
    · refine ⟨(amount, timeUnit) :: before, last, lastUnit, after, sum, rfl, ?_, fills⟩
      rw [addAll?, step]
      exact added

/-- A sum stops the program exactly at an amount that fills up the last second. -/
theorem addAll?_eq_error_iff {amounts : List (Nat × TimeUnit)} :
    addAll? total amounts = .error reason ↔
      reason = .secondsOverflow ∧ OverrunsFrom total amounts := by
  -- An amount either fills up the last second itself or leaves the rest another sum to start from.
  induction amounts generalizing total with
  | nil => simp [addAll?, OverrunsFrom]
  | cons entry rest induction =>
      obtain ⟨amount, timeUnit⟩ := entry
      rw [addAll?, overrunsFrom_cons]
      cases step : total.addUnits? amount timeUnit with
      | error other =>
          obtain ⟨rfl, fills⟩ := addUnits?_eq_error_iff.mp step
          simp [fills, eq_comm]
      | ok sum? =>
          have noFill : ¬ total.FillsLastSecond amount timeUnit := by
            intro fills
            have stopped := addUnits?_eq_error_iff.mpr ⟨rfl, fills⟩
            rw [step] at stopped
            cases stopped
          cases sum? with
          | none => simp [noFill]
          | some sum => simp [noFill, induction]

theorem read?_eq_error_iff {text : List Char} :
    read? text = .error reason ↔ reason = .secondsOverflow ∧ Overruns text := by
  rw [read?]
  split
  · next amounts found =>
      obtain ⟨spans, reads, resolved⟩ := Option.bind_eq_some_iff.mp found
      rw [addAll?_eq_error_iff]
      simp [Overruns, reads, resolved]
  · next missing =>
      simp only [reduceCtorEq, false_iff]
      rintro ⟨-, spans, amounts, reads, resolved, -⟩
      rw [reads, Option.bind_some, resolved] at missing
      cases missing

end TypedEnv.Duration
