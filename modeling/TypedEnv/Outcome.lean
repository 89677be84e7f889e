import TypedEnv.Text.Quoted

/-!
# Outcomes

An operation returns a result, reports an error to its caller, or stops the
whole program.  `Abort` lists the reasons for the last; they are kept apart
from errors because no caller can handle them.
-/

namespace TypedEnv

/-- Why the program stops outright. -/
inductive Abort where
  /-- A variable name was declared in a registry that already has it. -/
  | redefined (name : String)
  /-- A duration carried one second more than its range holds. -/
  | secondsOverflow
  /-- An identifier was made from no text. -/
  | emptyIdentifier
  /-- An identifier was made from digits alone. -/
  | numericIdentifier
  /-- An identifier was made from a text that is none. -/
  | notIdentifier (text : String)
  /-- A raw identifier was made from a word that has no raw form. -/
  | notRawIdentifier (text : String)
  deriving DecidableEq

def Abort.message : Abort → String
  | .redefined name => s!"variable redefined: {name}"
  | .secondsOverflow => "overflow in Duration::new"
  | .emptyIdentifier => "Ident is not allowed to be empty; use Option<Ident>"
  | .numericIdentifier => "Ident cannot be a number; use Literal instead"
  | .notIdentifier text => s!"{Text.quoted text} is not a valid Ident"
  | .notRawIdentifier text => s!"`r#{text}` cannot be a raw identifier"

/-- The ways in which an operation returns no result. -/
inductive Failure (ε : Type) where
  | error (cause : ε)
  | abort (reason : Abort)
  deriving DecidableEq

/-- The outcome of an operation that reports errors and may stop the program. -/
abbrev Outcome (ε α : Type) := Except (Failure ε) α

namespace Outcome

/-- A result that may only be missing because the program stopped. -/
def ofAbort {ε α : Type} : Except Abort α → Outcome ε α
  | .ok value => .ok value
  | .error reason => .error (.abort reason)

/-- A result that may only be missing because of an error. -/
def ofError {ε α : Type} : Except ε α → Outcome ε α
  | .ok value => .ok value
  | .error cause => .error (.error cause)

/-- Changes the error of an outcome and nothing else. -/
def mapCause {ε δ α : Type} (change : ε → δ) : Outcome ε α → Outcome δ α
  | .ok value => .ok value
  | .error (.error cause) => .error (.error (change cause))
  | .error (.abort reason) => .error (.abort reason)

end Outcome

end TypedEnv
