/-!
# How a program ends

A program ends with an exit code, what it wrote as its output, and what it
wrote as messages to the people who run it.
-/

namespace TypedEnv

/-- The end of a program. -/
structure Exit where
  code : Nat
  output : String
  messages : String
  deriving DecidableEq

namespace Exit

def success (output : String) : Exit := ⟨0, output, ""⟩

def failure (code : Nat) (messages : String) : Exit := ⟨code, "", messages⟩

end Exit

end TypedEnv
