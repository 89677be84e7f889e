import TypedEnv.Duration.Span

/-!
# Writing durations

A duration is written with the largest units first, leaving out the units
with no amount, so `9900` seconds are `2h45m`.  The result is a text that
`Duration.read?` accepts.
-/

namespace TypedEnv.Duration

/-- The amount of each unit in a duration, from hours down to nanoseconds. -/
def unitAmounts (duration : Duration) : List (Nat × String) :=
  [(duration.seconds / 3600, "h"),
   (duration.seconds / 60 % 60, "m"),
   (duration.seconds % 60, "s"),
   (duration.nanoseconds / 1000000, "ms"),
   (duration.nanoseconds / 1000 % 1000, "us"),
   (duration.nanoseconds % 1000, "ns")]

/-- Writes a duration as compact spans; no time at all is `0s`. -/
def render (duration : Duration) : String :=
  if duration.isZero then "0s"
  else String.join <| (duration.unitAmounts.filter fun entry => 0 < entry.1).map fun entry =>
    Decimal.natText entry.1 ++ entry.2

end TypedEnv.Duration
