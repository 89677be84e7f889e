import TypedEnv.Value.Infer

/-!
# Errors of a registry

What can go wrong when variables get their values and are read back, and the
types in which they can be read.
-/

namespace TypedEnv

/-- The types in which a variable can be read: the type of a kind, or any. -/
inductive ReadType where
  | exactly (kind : Kind)
  | any
  deriving DecidableEq

def ReadType.label : ReadType → String
  | .exactly kind => kind.label
  | .any => "value"

/-- An error of a registry; each names the variable. -/
inductive EnvError where
  /-- A text does not convert to the kind of the variable. -/
  | conversion (name : String) (cause : InferError)
  | validation (name : String)
  | unknown (name : String)
  /-- The variable cannot be read in the type that was asked for. -/
  | typeMismatch (name : String) (expected : ReadType) (actual : Kind)
  deriving DecidableEq

namespace EnvError

def name : EnvError → String
  | .conversion name _ => name
  | .validation name => name
  | .unknown name => name
  | .typeMismatch name _ _ => name

def message : EnvError → String
  | .conversion name cause =>
      s!"invalid value {Text.quoted cause.text} for env {name}: {cause.reason.message}"
  | .validation name => s!"could not set {name}"
  | .unknown name => s!"env {name} is not registered"
  | .typeMismatch name expected actual =>
      s!"env {name} holds a {actual.label} value, expected {expected.label}"

end EnvError

/-- A value read in a type; a signed number that is not negative can be read as unsigned. -/
def Value.convert? (type : ReadType) (value : Value) : Option Value :=
  match type with
  | .any => some value
  | .exactly .uint => value.uint?.map .uint
  | .exactly kind => if value.kind = kind then some value else none

/-- A value read in a type, for the variable of the given name. -/
def Value.convert (type : ReadType) (name : String) (value : Value) : Except EnvError Value :=
  match value.convert? type with
  | some value => .ok value
  | none => .error (.typeMismatch name type value.kind)

end TypedEnv
