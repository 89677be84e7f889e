import TypedEnv.Proofs.Duration.Meaning

/-!
# A point behind a whole number

A whole number of units may be written with a point, behind which any number of
zeros stand.  Both texts are read as the same duration as long as the whole
number fits the words in which units below a second are counted: they are added
up in nanoseconds, while a number with a point is cut into seconds and
nanoseconds first.  Seconds, minutes and hours always fit.
-/

namespace TypedEnv

/-- Units from a second on have no nanoseconds of their own. -/
theorem TimeUnit.partNanoseconds_or_isShort (amount : Nat) (timeUnit : TimeUnit) :
    timeUnit.partNanoseconds amount = 0 ∨
      timeUnit ∈ [TimeUnit.nanosecond, .microsecond, .millisecond] := by
  cases timeUnit with
  | second => exact .inl rfl
  | minute => exact .inl rfl
  | hour => exact .inl rfl
  | _ => exact .inr (by decide)

namespace Duration

variable {total sum first second : Duration}

theorem addAll?_append_eq_some_iff {front back : List (Nat × TimeUnit)} :
    addAll? total (front ++ back) = .ok (some sum) ↔
      ∃ middle, addAll? total front = .ok (some middle) ∧
        addAll? middle back = .ok (some sum) := by
  induction front generalizing total with
  | nil => simp [addAll?]
  | cons entry rest induction =>
      obtain ⟨amount, timeUnit⟩ := entry
      rw [List.cons_append, addAll?, addAll?]
      cases total.addUnits? amount timeUnit with
      | error reason => simp
      | ok sum? =>
          cases sum? with
          | none => simp
          | some next => exact induction

theorem addAll?_singleton (total : Duration) (entry : Nat × TimeUnit) :
    addAll? total [entry] = total.addUnits? entry.1 entry.2 := by
  rw [addAll?]
  split
  · next same => rw [same, addAll?]
  · next same => rw [same]
  · next same => rw [same]

/-- Nanoseconds that are cut into seconds and the rest are counted whenever their sum is a
duration. -/
theorem addAll?_cut_eq_some_iff (counted : Nat) :
    addAll? total [(counted / nanosPerSecond, .second), (counted % nanosPerSecond, .nanosecond)] =
        .ok (some sum) ↔
      sum.totalNanoseconds = total.totalNanoseconds + counted := by
  have cut := Nat.div_add_mod' counted nanosPerSecond
  have small : counted % nanosPerSecond < nanosPerSecond := Nat.mod_lt _ (by decide)
  have order : nanosPerSecond + nanosPerSecond < wordLimit := by decide
  rw [← List.singleton_append, addAll?_append_eq_some_iff]
  simp only [addAll?_singleton, addUnits?_eq_some_iff, TimeUnit.partNanoseconds,
    TimeUnit.nanoseconds, Nat.mul_one]
  constructor
  · rintro ⟨middle, ⟨-, inSeconds⟩, -, exact⟩
    omega
  · intro exact
    have range := sum.totalNanoseconds_lt
    have totalRange := total.nanoseconds_lt
    have fits : total.seconds + counted / nanosPerSecond < wordLimit := by
      rw [← cut, totalNanoseconds, totalNanoseconds] at exact
      rw [totalNanoseconds] at range
      generalize counted / nanosPerSecond = seconds at exact
      simp only [nanosPerSecond] at exact range
      omega
    refine ⟨⟨_, total.nanoseconds, fits, totalRange⟩, ⟨by omega, ?_⟩, by dsimp only; omega, ?_⟩
    · simp only [totalNanoseconds, Nat.add_mul]
      omega
    · rw [exact]
      simp only [totalNanoseconds, Nat.add_mul]
      omega

/-- The sum of spans behind a duration. -/
def Adds (total : Duration) (spans : List Span) (sum : Duration) : Prop :=
  ∃ parts, spans.mapM Span.amounts? = some parts ∧
    addAll? total parts.flatten = .ok (some sum)

variable {front back spans : List Span} {span : Span} {text : List Char}

theorem Adds.unique (adds : Adds total spans first) (addsToo : Adds total spans second) :
    first = second := by
  obtain ⟨parts, resolved, added⟩ := adds
  obtain ⟨others, resolvedToo, addedToo⟩ := addsToo
  rw [resolved] at resolvedToo
  cases resolvedToo
  rw [added] at addedToo
  cases addedToo
  rfl

theorem adds_append_iff :
    Adds total (front ++ back) sum ↔ ∃ middle, Adds total front middle ∧ Adds middle back sum := by
  simp only [Adds, List.mapM_append, Option.bind_eq_bind, Option.bind_eq_some_iff, Option.pure_def,
    Option.some.injEq]
  constructor
  · rintro ⟨_, ⟨parts, resolved, others, resolvedBack, rfl⟩, added⟩
    rw [List.flatten_append, addAll?_append_eq_some_iff] at added
    obtain ⟨middle, addedFront, addedBack⟩ := added
    exact ⟨middle, ⟨parts, resolved, addedFront⟩, others, resolvedBack, addedBack⟩
  · rintro ⟨middle, ⟨parts, resolved, addedFront⟩, others, resolvedBack, addedBack⟩
    refine ⟨_, ⟨parts, resolved, others, resolvedBack, rfl⟩, ?_⟩
    rw [List.flatten_append, addAll?_append_eq_some_iff]
    exact ⟨middle, addedFront, addedBack⟩

theorem adds_cons_iff : Adds total (span :: spans) sum ↔
    ∃ middle, Adds total [span] middle ∧ Adds middle spans sum := by
  rw [← List.singleton_append, adds_append_iff]

theorem adds_singleton_iff : Adds total [span] sum ↔
    ∃ amounts, span.amounts? = some amounts ∧ addAll? total amounts = .ok (some sum) := by
  simp only [Adds, List.mapM_cons, List.mapM_nil, Option.bind_eq_bind, Option.bind_eq_some_iff,
    Option.pure_def, Option.bind_some, Option.some.injEq]
  constructor
  · rintro ⟨_, ⟨amounts, resolved, rfl⟩, added⟩
    exact ⟨amounts, resolved, by simpa using added⟩
  · rintro ⟨amounts, resolved, added⟩
    exact ⟨_, ⟨amounts, resolved, rfl⟩, by simpa using added⟩

theorem read?_eq_some_iff (nonempty : spans ≠ []) (spelled : Span.Spells spans text) :
    read? text = .ok (some sum) ↔ Adds zero spans sum := by
  rw [read?_of_spells nonempty spelled, Adds]
  cases spans.mapM Span.amounts? with
  | none => simp
  | some parts => simp

end Duration

namespace Span

open Duration

section Amounts

variable {whole : List Char} {timeUnit : TimeUnit} {total sum : Duration}

theorem keptFrom_replicate_zero (unit place zeros : Nat) :
    keptFrom unit place (List.replicate zeros '0') = 0 := by
  induction zeros generalizing place with
  | zero => rfl
  | succ zeros induction =>
      rw [List.replicate_succ, keptFrom, induction, Nat.sub_self, Nat.zero_mul]

/-- A whole number of units is added when the sum is a duration and has room for its
nanoseconds. -/
theorem adds_whole_iff (digits : ∀ c ∈ whole, c.isDigit = true) :
    Adds total [⟨whole, none, timeUnit⟩] sum ↔
      total.nanoseconds + timeUnit.partNanoseconds (Nat.ofDigitChars 10 whole 0) < wordLimit ∧
        sum.totalNanoseconds =
          total.totalNanoseconds + Nat.ofDigitChars 10 whole 0 * timeUnit.nanoseconds := by
  rw [adds_singleton_iff, amounts?, Decimal.ofDigits?_ten digits]
  simp only [Option.map_some, Option.some.injEq, exists_eq_left', addAll?_singleton,
    addUnits?_eq_some_iff]

/-- With a point and zeros behind it, a whole number of units is added whenever the sum is a
duration. -/
theorem adds_pointed_iff (digits : ∀ c ∈ whole, c.isDigit = true) (zeros : Nat) :
    Adds total [⟨whole, some (List.replicate zeros '0'), timeUnit⟩] sum ↔
      sum.totalNanoseconds =
        total.totalNanoseconds + Nat.ofDigitChars 10 whole 0 * timeUnit.nanoseconds := by
  rw [adds_singleton_iff, amounts?]
  simp only [Option.map_eq_some_iff, fractionalNanoseconds?_eq_some_iff digits,
    keptFrom_replicate_zero, Nat.add_zero]
  constructor
  · rintro ⟨_, ⟨_, ⟨rfl, -⟩, rfl⟩, added⟩
    exact (addAll?_cut_eq_some_iff _).mp added
  · intro exact
    have range := sum.totalNanoseconds_lt
    have words : wordLimit * nanosPerSecond < doubleWordLimit := by decide
    exact ⟨_, ⟨_, ⟨rfl, by omega⟩, rfl⟩, (addAll?_cut_eq_some_iff _).mpr exact⟩

end Amounts

section Text

variable {spans others : List Span} {text rest blanks : List Char}

theorem Spells.blank_append (blank : ∀ c ∈ blanks, Text.isBlank c = true)
    (spelled : Spells spans text) : Spells spans (blanks ++ text) := by
  cases spelled with
  | done blankToo => exact .done (List.forall_mem_append.mpr ⟨blank, blankToo⟩)
  | span blankToo number named behind =>
      rw [← List.append_assoc]
      exact .span (List.forall_mem_append.mpr ⟨blank, blankToo⟩) number named behind

/-- Texts one after the other spell the spans of the first and those of the second. -/
theorem Spells.append (spelled : Spells spans text) (spelledRest : Spells others rest) :
    Spells (spans ++ others) (text ++ rest) := by
  induction spelled with
  | done blank => exact spelledRest.blank_append blank
  | span blank number named behind induction =>
      simp only [List.append_assoc, List.cons_append]
      exact .span blank number named induction

end Text

/-- A place in a text of spans at which a whole number of units is written. -/
structure Site where
  before : List Span
  front : List Char
  whole : List Char
  timeUnit : TimeUnit
  name : List Char
  after : List Span
  rest : List Char
  spelledBefore : Spells before front
  number : IsNumber whole none
  named : name ∈ timeUnit.names
  spelledAfter : Spells after rest

namespace Site

variable (site : Site)

/-- The spans of the text when the number at the site is written with the given fraction. -/
def spans (fraction : Option (List Char)) : List Span :=
  site.before ++ ⟨site.whole, fraction, site.timeUnit⟩ :: site.after

/-- The text when the number at the site is written with the given fraction. -/
def text (fraction : Option (List Char)) : List Char :=
  site.front ++ (numberText site.whole fraction ++ (site.name ++ site.rest))

/-- The number at the site in units. -/
def amount : Nat :=
  Nat.ofDigitChars 10 site.whole 0

/-- The units at the site fit a word in nanoseconds, together with the nanoseconds that the sum of
the spans before them has besides its seconds. -/
def HasRoom : Prop :=
  ∀ sum, Adds .zero site.before sum →
    sum.nanoseconds + site.timeUnit.partNanoseconds site.amount < wordLimit

theorem spells {fraction : Option (List Char)} (number : IsNumber site.whole fraction) :
    Spells (site.spans fraction) (site.text fraction) := by
  have noBlanks : ∀ c ∈ ([] : List Char), Text.isBlank c = true := by simp
  exact site.spelledBefore.append (.span noBlanks number site.named site.spelledAfter)

theorem spans_ne_nil (fraction : Option (List Char)) : site.spans fraction ≠ [] := by
  simp [spans]

theorem pointed_isNumber (zeros : Nat) :
    IsNumber site.whole (some (List.replicate zeros '0')) :=
  .pointed (site.number.nonempty.resolve_right (by simp)) site.number.wholeDigits
    (Decimal.Binary64.isDigit_replicate_zero zeros)

/-- The text with a point and zeros behind the number at the site. -/
def pointed (zeros : Nat) : List Char :=
  site.text (some (List.replicate zeros '0'))

theorem spells_pointed (zeros : Nat) :
    Spells (site.spans (some (List.replicate zeros '0'))) (site.pointed zeros) :=
  site.spells (site.pointed_isNumber zeros)

theorem hasRoom_or_isShort :
    site.HasRoom ∨ site.timeUnit ∈ [TimeUnit.nanosecond, .microsecond, .millisecond] := by
  rcases TimeUnit.partNanoseconds_or_isShort site.amount site.timeUnit with none | isShort
  · refine .inl fun sum adds => ?_
    have order : nanosPerSecond < wordLimit := by decide
    have range := sum.nanoseconds_lt
    omega
  · exact .inr isShort

theorem adds_spans_iff {fraction : Option (List Char)} {sum : Duration} :
    Adds .zero (site.spans fraction) sum ↔
      ∃ front, Adds .zero site.before front ∧
        ∃ middle, Adds front [⟨site.whole, fraction, site.timeUnit⟩] middle ∧
          Adds middle site.after sum := by
  rw [spans, adds_append_iff]
  exact exists_congr fun front => and_congr_right fun _ => adds_cons_iff

end Site

theorem Spells.exists_site {before after : List Span} {whole text : List Char}
    {timeUnit : TimeUnit} (spelled : Spells (before ++ ⟨whole, none, timeUnit⟩ :: after) text) :
    ∃ site : Site, site.before = before ∧ site.after = after ∧ site.whole = whole ∧
      site.timeUnit = timeUnit ∧ site.text none = text := by
  induction before generalizing text with
  | nil =>
      cases spelled with
      | @span _ _ _ blanks name _ rest blank number named others =>
          exact ⟨⟨[], blanks, whole, timeUnit, name, after, rest, .done blank, number, named,
            others⟩, rfl, rfl, rfl, rfl, rfl⟩
  | cons first more induction =>
      cases spelled with
      | @span _ _ _ blanks name _ rest blank number named others =>
          obtain ⟨site, rfl, rfl, rfl, rfl, rfl⟩ := induction others
          refine ⟨{ site with
            before := _
            front := _
            spelledBefore := .span blank number named site.spelledBefore }, rfl, rfl, rfl, rfl, ?_⟩
          simp [Site.text]

end Span

namespace Duration

open TypedEnv.Span

/-- Reading a text does not stop the program. -/
def IsQuiet (text : List Char) : Prop :=
  ∀ reason, read? text ≠ .error reason

theorem IsQuiet.exists_eq {text : List Char} (quiet : IsQuiet text) :
    ∃ result, read? text = .ok result := by
  cases found : read? text with
  | error reason => exact absurd found (quiet reason)
  | ok result => exact ⟨result, rfl⟩

section Reading

variable (site : Site) (zeros : Nat)

/-- A whole number has a value exactly when it has room and the number with a point has that
value. -/
theorem read?_whole_iff {duration : Duration} :
    read? (site.text none) = .ok (some duration) ↔
      site.HasRoom ∧ read? (site.pointed zeros) = .ok (some duration) := by
  have digits := site.number.wholeDigits
  rw [read?_eq_some_iff (site.spans_ne_nil _) (site.spells site.number),
    read?_eq_some_iff (site.spans_ne_nil _) (site.spells_pointed zeros), site.adds_spans_iff,
    site.adds_spans_iff]
  constructor
  · rintro ⟨front, adds, middle, added, rest⟩
    obtain ⟨room, exact⟩ := (adds_whole_iff digits).mp added
    refine ⟨?_, front, adds, middle, (adds_pointed_iff digits zeros).mpr exact, rest⟩
    intro sum addsToo
    rw [addsToo.unique adds]
    exact room
  · rintro ⟨room, front, adds, middle, added, rest⟩
    have exact := (adds_pointed_iff digits zeros).mp added
    exact ⟨front, adds, middle, (adds_whole_iff digits).mpr ⟨room front adds, exact⟩, rest⟩

/-- A whole number with room reads as the number with a point. -/
theorem read?_whole_of_room (room : site.HasRoom) (quiet : IsQuiet (site.text none))
    (quietPointed : IsQuiet (site.pointed zeros)) :
    read? (site.text none) = read? (site.pointed zeros) := by
  obtain ⟨result, reads⟩ := quiet.exists_eq
  obtain ⟨resultPointed, readsPointed⟩ := quietPointed.exists_eq
  have same : result = resultPointed := by
    ext duration
    have values : read? (site.text none) = .ok (some duration) ↔
        site.HasRoom ∧ read? (site.pointed zeros) = .ok (some duration) :=
      read?_whole_iff site zeros
    rw [reads, readsPointed] at values
    simpa [room] using values
  rw [reads, readsPointed, same]

theorem read?_whole_of_no_room (noRoom : ¬ site.HasRoom) (quiet : IsQuiet (site.text none)) :
    read? (site.text none) = .ok none := by
  obtain ⟨result, reads⟩ := quiet.exists_eq
  cases result with
  | none => exact reads
  | some duration => exact absurd ((read?_whole_iff site 0).mp reads).1 noRoom

end Reading

/-- A whole number of units in a text of spans reads as the same number with a point and zeros
behind it, as long as it has room; without room it has no value.  Whole seconds, minutes and hours
always have room. -/
theorem read?_pointed :
    (∀ before after whole timeUnit text,
      Spells (before ++ ⟨whole, none, timeUnit⟩ :: after) text →
        ∃ site : Site, site.before = before ∧ site.after = after ∧ site.whole = whole ∧
          site.timeUnit = timeUnit ∧ site.text none = text) ∧
    ∀ (site : Site) (zeros : Nat),
      (∀ duration, read? (site.text none) = .ok (some duration) ↔
        site.HasRoom ∧ read? (site.pointed zeros) = .ok (some duration)) ∧
      (IsQuiet (site.text none) → IsQuiet (site.pointed zeros) →
        (site.HasRoom → read? (site.text none) = read? (site.pointed zeros)) ∧
        (¬ site.HasRoom → read? (site.text none) = .ok none)) ∧
      (site.HasRoom ∨ site.timeUnit ∈ [.nanosecond, .microsecond, .millisecond]) := by
  refine ⟨fun _ _ _ _ _ => Spells.exists_site, ?_⟩
  intro site zeros
  refine ⟨fun _ => read?_whole_iff site zeros, ?_, site.hasRoom_or_isShort⟩
  intro quiet quietPointed
  exact ⟨fun room => read?_whole_of_room site zeros room quiet quietPointed,
    fun noRoom => read?_whole_of_no_room site noRoom quiet⟩

/-- Five milliseconds between an hour and two seconds. -/
def shortMilliseconds : Site where
  before := [⟨['1'], none, .hour⟩]
  front := "1h ".toList
  whole := ['5']
  timeUnit := .millisecond
  name := ['m', 's']
  after := [⟨['2'], none, .second⟩]
  rest := " 2s".toList
  spelledBefore := readMany?_eq_some_iff.mp (by decide +kernel)
  number := .whole (by simp) (by simp)
  named := by decide
  spelledAfter := readMany?_eq_some_iff.mp (by decide +kernel)

/-- A number of nanoseconds that no word holds. -/
def longNanoseconds : Site where
  before := []
  front := []
  whole := "18446744073709551616".toList
  timeUnit := .nanosecond
  name := ['n', 's']
  after := []
  rest := []
  spelledBefore := readMany?_eq_some_iff.mp (by decide +kernel)
  number := .whole (by simp) (Text.forall_mem_of_all (by decide))
  named := by decide
  spelledAfter := readMany?_eq_some_iff.mp (by decide +kernel)

theorem isQuiet_of_eq {text : List Char} {result : Option Duration}
    (reads : read? text = .ok result) : IsQuiet text := by
  intro reason stopped
  rw [reads] at stopped
  cases stopped

theorem read?_pointed_shortMilliseconds :
    (Spells ([⟨['1'], none, .hour⟩] ++ [⟨['5'], none, .millisecond⟩, ⟨['2'], none, .second⟩])
      "1h 5ms 2s".toList ∧
      ∃ site : Site, site.before = [⟨['1'], none, .hour⟩] ∧ site.after = [⟨['2'], none, .second⟩] ∧
        site.whole = ['5'] ∧ site.timeUnit = .millisecond ∧
        site.text none = "1h 5ms 2s".toList) ∧
    (IsQuiet (shortMilliseconds.text none) ∧ IsQuiet (shortMilliseconds.pointed 2) ∧
      shortMilliseconds.HasRoom ∧
      read? (shortMilliseconds.text none) = read? (shortMilliseconds.pointed 2)) ∧
    (IsQuiet (longNanoseconds.text none) ∧ IsQuiet (longNanoseconds.pointed 0) ∧
      ¬ longNanoseconds.HasRoom ∧ read? (longNanoseconds.text none) = .ok none) := by
  have spelled : Spells
      ([⟨['1'], none, .hour⟩] ++ [⟨['5'], none, .millisecond⟩, ⟨['2'], none, .second⟩])
      "1h 5ms 2s".toList := readMany?_eq_some_iff.mp (by decide +kernel)
  have reads : read? (shortMilliseconds.text none) =
      .ok (some ⟨3602, 5000000, by decide, by decide⟩) := by decide +kernel
  have readsPointed : read? (shortMilliseconds.pointed 2) =
      .ok (some ⟨3602, 5000000, by decide, by decide⟩) := by decide +kernel
  have refused : read? (longNanoseconds.text none) = .ok none := by decide +kernel
  have readsLong : read? (longNanoseconds.pointed 0) =
      .ok (some ⟨18446744073, 709551616, by decide, by decide⟩) := by decide +kernel
  have quiet := isQuiet_of_eq reads
  have quietPointed := isQuiet_of_eq readsPointed
  have quietRefused := isQuiet_of_eq refused
  have quietLong := isQuiet_of_eq readsLong
  obtain ⟨exists_site, at_site⟩ := read?_pointed
  obtain ⟨values, same, -⟩ := at_site shortMilliseconds 2
  obtain ⟨valuesLong, none, -⟩ := at_site longNanoseconds 0
  have room : shortMilliseconds.HasRoom := ((values _).mp reads).1
  have noRoom : ¬ longNanoseconds.HasRoom := by
    intro room
    have found := (valuesLong _).mpr ⟨room, readsLong⟩
    rw [refused] at found
    cases found
  exact ⟨⟨spelled, exists_site _ _ _ _ _ spelled⟩,
    ⟨quiet, quietPointed, room, (same quiet quietPointed).1 room⟩,
    ⟨quietRefused, quietLong, noRoom, (none quietRefused quietLong).2 noRoom⟩⟩

/-- A point makes a duration of a number of nanoseconds that is none without it. -/
theorem read?_longNanoseconds :
    longNanoseconds.text none = "18446744073709551616ns".toList ∧
    longNanoseconds.pointed 0 = "18446744073709551616.ns".toList ∧
    read? (longNanoseconds.text none) = .ok none ∧
    read? (longNanoseconds.pointed 0) =
      .ok (some ⟨18446744073, 709551616, by decide, by decide⟩) := by
  decide +kernel

end Duration

end TypedEnv
