import TypedEnv.Exit
import TypedEnv.Registry.Basic

/-!
# Starting a program

A program declares its variables and then applies the environment to them
once.  This either lets it go on or, when a listing was asked for and nothing
is wrong, ends it after the listing.
-/

namespace TypedEnv

/-- What becomes of a program that has applied its environment. -/
inductive Startup where
  /-- It goes on, with the first failure if there was one. -/
  | continues (registry : Registry) (failure? : Option (Failure EnvError))
  | ends (exit : Exit)

/-- Applies an environment, and lists the variables if a listing was asked for. -/
def Registry.start (registry : Registry) (environment : Environment) : Startup :=
  match registry.overlay environment with
  | (changed, none) =>
      if changed.dumps then .ends (.success changed.dump) else .continues changed none
  | (changed, some failure) => .continues changed (some failure)

/-- Ends the program at an error, which it reports. -/
def Startup.orExit : Startup → Startup
  | .continues _ (some (.error error)) => .ends (.failure 2 (error.message ++ "\n"))
  | startup => startup

end TypedEnv
