import TypedEnv.Outcome

/-!
# Durations

A duration is a number of seconds below `2^64` and of nanoseconds below one
second.  Sums are checked: `advance?` adds seconds and nanoseconds within the
ranges of the format, and tells a sum that is out of range from one that
carries a last second over the end of the range, which stops the program.
-/

namespace TypedEnv

def nanosPerSecond : Nat := 1000000000

/-- The first number that a 64-bit word does not hold. -/
def wordLimit : Nat := 18446744073709551616

/-- A span of time with nanosecond precision. -/
structure Duration where
  seconds : Nat
  nanoseconds : Nat
  seconds_lt : seconds < wordLimit
  nanoseconds_lt : nanoseconds < nanosPerSecond
  deriving DecidableEq

namespace Duration

def zero : Duration := ⟨0, 0, by decide, by decide⟩

instance : Inhabited Duration := ⟨zero⟩

def isZero (duration : Duration) : Bool :=
  duration.seconds == 0 && duration.nanoseconds == 0

def totalNanoseconds (duration : Duration) : Nat :=
  duration.seconds * nanosPerSecond + duration.nanoseconds

def ofParts? (seconds nanoseconds : Nat) : Option Duration :=
  if h : seconds < wordLimit ∧ nanoseconds < nanosPerSecond then
    some ⟨seconds, nanoseconds, h.1, h.2⟩
  else none

/-- Adds seconds and nanoseconds to a duration, or nothing when a sum is out of range.  Exactly
one full second of nanoseconds is carried last, and the program stops when there is no room for
it. -/
def advance? (duration : Duration) (seconds nanoseconds : Nat) :
    Except Abort (Option Duration) :=
  let nanoseconds := duration.nanoseconds + nanoseconds
  if wordLimit ≤ nanoseconds then .ok none
  else
    let (carry, nanoseconds) :=
      if nanosPerSecond < nanoseconds then
        (nanoseconds / nanosPerSecond, nanoseconds % nanosPerSecond)
      else (0, nanoseconds)
    if wordLimit ≤ seconds + carry then .ok none
    else
      let seconds := duration.seconds + (seconds + carry)
      if wordLimit ≤ seconds then .ok none
      else if nanoseconds = nanosPerSecond then
        match ofParts? (seconds + 1) 0 with
        | some duration => .ok (some duration)
        | none => .error .secondsOverflow
      else .ok (ofParts? seconds nanoseconds)

end Duration

end TypedEnv
