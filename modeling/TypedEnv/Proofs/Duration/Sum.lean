import Mathlib.Tactic.Ring
import TypedEnv.Duration.Span

/-!
# Sums of durations

A duration is determined by its nanoseconds in all, and a sum is found exactly
when it is in range and the nanoseconds that are added fit a word.  So amounts
of units add up to a duration when their seconds and their nanoseconds do: no
sum on the way is out of range then, because none exceeds the last one.
-/

namespace TypedEnv

namespace TimeUnit

/-- The whole seconds of an amount of a unit; the units below a second have none. -/
def wholeSeconds (amount : Nat) : TimeUnit → Nat
  | .second => amount
  | .minute => amount * 60
  | .hour => amount * 3600
  | _ => 0

/-- The nanoseconds of an amount of a unit below a second. -/
def partNanoseconds (amount : Nat) : TimeUnit → Nat
  | .nanosecond => amount
  | .microsecond => amount * 1000
  | .millisecond => amount * 1000000
  | _ => 0

theorem amount_le (amount : Nat) (timeUnit : TimeUnit) :
    amount ≤ timeUnit.wholeSeconds amount ∨ amount ≤ timeUnit.partNanoseconds amount := by
  cases timeUnit <;> simp only [wholeSeconds, partNanoseconds] <;> omega

theorem wholeSeconds_zero (timeUnit : TimeUnit) : timeUnit.wholeSeconds 0 = 0 := by
  cases timeUnit <;> rfl

theorem partNanoseconds_zero (timeUnit : TimeUnit) : timeUnit.partNanoseconds 0 = 0 := by
  cases timeUnit <;> rfl

theorem mul_nanoseconds (amount : Nat) (timeUnit : TimeUnit) :
    amount * timeUnit.nanoseconds =
      timeUnit.wholeSeconds amount * nanosPerSecond + timeUnit.partNanoseconds amount := by
  cases timeUnit <;>
    simp only [TimeUnit.nanoseconds, TimeUnit.wholeSeconds, TimeUnit.partNanoseconds,
      nanosPerSecond] <;>
    omega

end TimeUnit

namespace Duration

section Parts

variable {sum : Duration} {seconds nanoseconds : Nat}

theorem ofParts?_parts (duration : Duration) :
    ofParts? duration.seconds duration.nanoseconds = some duration := by
  rw [ofParts?, dif_pos ⟨duration.seconds_lt, duration.nanoseconds_lt⟩]

theorem totalNanoseconds_of_ofParts? (found : ofParts? seconds nanoseconds = some sum) :
    sum.totalNanoseconds = seconds * nanosPerSecond + nanoseconds := by
  rw [ofParts?] at found
  split at found
  · cases found
    rfl
  · cases found

theorem totalNanoseconds_lt (duration : Duration) :
    duration.totalNanoseconds < wordLimit * nanosPerSecond := by
  have seconds := duration.seconds_lt
  have nanoseconds := duration.nanoseconds_lt
  simp only [totalNanoseconds, nanosPerSecond] at nanoseconds ⊢
  omega

/-- Seconds and nanoseconds are determined by the nanoseconds in all. -/
theorem parts_of_totalNanoseconds (exact : sum.totalNanoseconds =
    seconds * nanosPerSecond + nanoseconds) (below : nanoseconds < nanosPerSecond) :
    sum.seconds = seconds ∧ sum.nanoseconds = nanoseconds := by
  have range := sum.nanoseconds_lt
  simp only [totalNanoseconds, nanosPerSecond] at exact below range
  omega

theorem ofParts?_of_totalNanoseconds
    (exact : sum.totalNanoseconds = seconds * nanosPerSecond + nanoseconds)
    (below : nanoseconds < nanosPerSecond) : ofParts? seconds nanoseconds = some sum := by
  obtain ⟨rfl, rfl⟩ := parts_of_totalNanoseconds exact below
  exact ofParts?_parts sum

/-- Every number below the limit is the nanoseconds of a duration. -/
theorem exists_totalNanoseconds {counted : Nat} (below : counted < wordLimit * nanosPerSecond) :
    ∃ duration : Duration, duration.totalNanoseconds = counted :=
  ⟨⟨counted / nanosPerSecond, counted % nanosPerSecond,
    Nat.div_lt_of_lt_mul (by rwa [Nat.mul_comm]), Nat.mod_lt _ (by decide)⟩,
    Nat.div_add_mod' counted nanosPerSecond⟩

end Parts

section Steps

variable {total sum : Duration} {seconds nanoseconds amount : Nat} {timeUnit : TimeUnit}

theorem ofParts?_whole (seconds : Nat) : ofParts? seconds 0 =
    if fits : seconds < wordLimit then some ⟨seconds, 0, fits, by decide⟩ else none := by
  simp [ofParts?, show 0 < nanosPerSecond by decide]

/-- After a carry less than a second is left, so that the parts have to be in range and nothing
else can go wrong. -/
theorem advance?_of_not_full (notFull : total.nanoseconds + nanoseconds ≠ nanosPerSecond) :
    total.advance? seconds nanoseconds =
      .ok (if total.nanoseconds + nanoseconds < wordLimit then
        ofParts? (total.seconds + seconds + (total.nanoseconds + nanoseconds) / nanosPerSecond)
          ((total.nanoseconds + nanoseconds) % nanosPerSecond)
      else none) := by
  have below : (total.nanoseconds + nanoseconds) % nanosPerSecond < nanosPerSecond :=
    Nat.mod_lt _ (by decide)
  have carry : (if nanosPerSecond < total.nanoseconds + nanoseconds then
        ((total.nanoseconds + nanoseconds) / nanosPerSecond,
          (total.nanoseconds + nanoseconds) % nanosPerSecond)
      else (0, total.nanoseconds + nanoseconds)) =
      ((total.nanoseconds + nanoseconds) / nanosPerSecond,
        (total.nanoseconds + nanoseconds) % nanosPerSecond) := by
    split
    · rfl
    · rw [Nat.div_eq_of_lt (by omega), Nat.mod_eq_of_lt (by omega)]
  rw [advance?, carry]
  generalize (total.nanoseconds + nanoseconds) / nanosPerSecond = carried at below ⊢
  generalize (total.nanoseconds + nanoseconds) % nanosPerSecond = left at below ⊢
  dsimp only
  rw [if_neg below.ne, ← Nat.add_assoc]
  by_cases inWord : total.nanoseconds + nanoseconds < wordLimit
  · rw [if_neg (by omega), if_pos inWord]
    by_cases fits : total.seconds + seconds + carried < wordLimit
    · rw [if_neg (by omega), if_neg (by omega)]
    · have refused : ofParts? (total.seconds + seconds + carried) left = none := by
        rw [ofParts?, dif_neg (fun range => fits range.1)]
      rw [refused]
      split
      · rfl
      · rw [if_pos (by omega)]
  · rw [if_pos (by omega), if_neg inWord]

theorem advance?_of_full (full : total.nanoseconds + nanoseconds = nanosPerSecond) :
    total.advance? seconds nanoseconds =
      if wordLimit ≤ total.seconds + seconds then .ok none
      else if fits : total.seconds + seconds + 1 < wordLimit then
        .ok (some ⟨total.seconds + seconds + 1, 0, fits, by decide⟩)
      else .error .secondsOverflow := by
  have order : nanosPerSecond < wordLimit := by decide
  by_cases out : wordLimit ≤ total.seconds + seconds
  · simp [advance?, full, out]
  · have secondsInWord : ¬ wordLimit ≤ seconds := by omega
    by_cases fits : total.seconds + seconds + 1 < wordLimit
    · simp [advance?, full, order, secondsInWord, out, ofParts?_whole, fits]
    · simp [advance?, full, order, secondsInWord, out, ofParts?_whole, fits]

/-- No nanosecond is lost when seconds and nanoseconds are added. -/
theorem totalNanoseconds_of_advance?
    (added : total.advance? seconds nanoseconds = .ok (some sum)) :
    sum.totalNanoseconds =
      total.totalNanoseconds + (seconds * nanosPerSecond + nanoseconds) := by
  by_cases full : total.nanoseconds + nanoseconds = nanosPerSecond
  · rw [advance?_of_full full] at added
    split at added
    · cases added
    · split at added
      · cases added
        rw [totalNanoseconds, totalNanoseconds, Nat.add_zero, Nat.succ_mul, Nat.add_mul]
        omega
      · cases added
  · have carried := Nat.div_add_mod' (total.nanoseconds + nanoseconds) nanosPerSecond
    rw [advance?_of_not_full full] at added
    split at added
    · rw [totalNanoseconds_of_ofParts? (Except.ok.inj added), totalNanoseconds, Nat.add_mul,
        Nat.add_mul]
      omega
    · cases added

/-- A sum is found exactly when it is a duration and the nanoseconds fit a word. -/
theorem advance?_eq_some_iff : total.advance? seconds nanoseconds = .ok (some sum) ↔
    total.nanoseconds + nanoseconds < wordLimit ∧
      sum.totalNanoseconds =
        total.totalNanoseconds + (seconds * nanosPerSecond + nanoseconds) := by
  have order : nanosPerSecond < wordLimit := by decide
  constructor
  · intro added
    refine ⟨?_, totalNanoseconds_of_advance? added⟩
    by_cases full : total.nanoseconds + nanoseconds = nanosPerSecond
    · omega
    · rw [advance?_of_not_full full] at added
      split at added
      · assumption
      · cases added
  · rintro ⟨inWord, exact⟩
    have parts : sum.totalNanoseconds =
        (total.seconds + seconds) * nanosPerSecond + (total.nanoseconds + nanoseconds) := by
      rw [exact, totalNanoseconds, Nat.add_mul]
      omega
    by_cases full : total.nanoseconds + nanoseconds = nanosPerSecond
    · rw [full, ← Nat.succ_mul, ← Nat.add_zero (_ * nanosPerSecond)] at parts
      have found := ofParts?_of_totalNanoseconds parts (by decide)
      obtain ⟨last, -⟩ := parts_of_totalNanoseconds parts (by decide)
      have range := sum.seconds_lt
      rw [ofParts?_whole, dif_pos (by omega)] at found
      rw [advance?_of_full full, if_neg (by omega), dif_pos (by omega), ← found]
    · have carried := Nat.div_add_mod' (total.nanoseconds + nanoseconds) nanosPerSecond
      rw [← carried, ← Nat.add_assoc, ← Nat.add_mul] at parts
      rw [advance?_of_not_full full, if_pos inWord,
        ofParts?_of_totalNanoseconds parts (Nat.mod_lt _ (by decide))]

theorem addUnits?_eq (total : Duration) (amount : Nat) (timeUnit : TimeUnit) :
    total.addUnits? amount timeUnit =
      if amount < wordLimit ∧ timeUnit.wholeSeconds amount < wordLimit ∧
          timeUnit.partNanoseconds amount < wordLimit then
        total.advance? (timeUnit.wholeSeconds amount) (timeUnit.partNanoseconds amount)
      else .ok none := by
  cases timeUnit <;> rfl

/-- Units are counted exactly when their sum is a duration and those below a second, together with
the nanoseconds before them, fit a word. -/
theorem addUnits?_eq_some_iff : total.addUnits? amount timeUnit = .ok (some sum) ↔
    total.nanoseconds + timeUnit.partNanoseconds amount < wordLimit ∧
      sum.totalNanoseconds = total.totalNanoseconds + amount * timeUnit.nanoseconds := by
  rw [addUnits?_eq, TimeUnit.mul_nanoseconds]
  constructor
  · intro added
    split at added
    · exact advance?_eq_some_iff.mp added
    · cases added
  · rintro ⟨inWord, exact⟩
    have range := sum.totalNanoseconds_lt
    have secondsFit : timeUnit.wholeSeconds amount < wordLimit := by
      simp only [nanosPerSecond] at exact range
      omega
    have amountFits : amount < wordLimit := by
      rcases timeUnit.amount_le amount with inSeconds | inNanoseconds <;> omega
    rw [if_pos ⟨amountFits, secondsFit, by omega⟩]
    exact advance?_eq_some_iff.mpr ⟨inWord, exact⟩

end Steps

/-- The sum of one part, seconds or nanoseconds, of some amounts. -/
def sumOf (part : Nat → TimeUnit → Nat) (amounts : List (Nat × TimeUnit)) : Nat :=
  (amounts.map fun entry => part entry.1 entry.2).sum

variable {part : Nat → TimeUnit → Nat}

theorem sumOf_cons (entry : Nat × TimeUnit) (rest : List (Nat × TimeUnit)) :
    sumOf part (entry :: rest) = part entry.1 entry.2 + sumOf part rest := by
  simp [sumOf]

/-- Nothing is lost with the units that have no amount. -/
theorem sumOf_filter (zero : ∀ timeUnit, part 0 timeUnit = 0)
    (amounts : List (Nat × TimeUnit)) :
    sumOf part (amounts.filter fun entry => 0 < entry.1) = sumOf part amounts := by
  induction amounts with
  | nil => rfl
  | cons entry rest induction =>
      obtain ⟨amount, timeUnit⟩ := entry
      rw [List.filter_cons, sumOf_cons]
      split
      · rw [sumOf_cons, induction]
      · next empty =>
          obtain rfl : amount = 0 := by simpa using empty
          rw [induction, zero, Nat.zero_add]

/-- Amounts add up to a duration when their seconds and nanoseconds do. -/
theorem addAll?_of_sum {total sum : Duration} {amounts : List (Nat × TimeUnit)}
    (seconds : total.seconds + sumOf (fun amount unit => unit.wholeSeconds amount) amounts =
      sum.seconds)
    (nanoseconds : total.nanoseconds +
      sumOf (fun amount unit => unit.partNanoseconds amount) amounts = sum.nanoseconds) :
    addAll? total amounts = .ok (some sum) := by
  induction amounts generalizing total with
  | nil =>
      have same : some total = some sum := by
        rw [← ofParts?_parts total, ← ofParts?_parts sum, ← seconds, ← nanoseconds]
        rfl
      rw [addAll?, same]
  | cons entry rest induction =>
      obtain ⟨amount, timeUnit⟩ := entry
      rw [sumOf_cons] at seconds nanoseconds
      dsimp only at seconds nanoseconds
      have secondsRange := sum.seconds_lt
      have nanosecondsRange := sum.nanoseconds_lt
      have order : nanosPerSecond < wordLimit := by decide
      have added : total.addUnits? amount timeUnit =
          .ok (some ⟨total.seconds + timeUnit.wholeSeconds amount,
            total.nanoseconds + timeUnit.partNanoseconds amount, by omega, by omega⟩) := by
        refine addUnits?_eq_some_iff.mpr ⟨by omega, ?_⟩
        simp only [totalNanoseconds, TimeUnit.mul_nanoseconds, Nat.add_mul]
        omega
      rw [addAll?, added]
      exact induction (by dsimp only; omega) (by dsimp only; omega)

end Duration

end TypedEnv
