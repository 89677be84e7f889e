/-!
# Asking for a listing

A program lists its variables instead of running when one of its arguments is
the listing switch, with one or two hyphens and an optional `=true`.
-/

namespace TypedEnv

/-- The spellings of the listing switch. -/
def listingSwitches : List String :=
  ["--env", "-env", "--env=true", "-env=true"]

/-- Whether the arguments after the program name ask for a listing. -/
def listingRequested (arguments : List String) : Bool :=
  (arguments.drop 1).any listingSwitches.contains

end TypedEnv
