import TypedEnv.Module.Generate
import TypedEnv.Registry.Basic

/-!
# What a configuration module does

`Module.run` executes the main function of a module on a registry and an
environment: registrations in order, overrides, the assembly of the settings
and the validations in order.  A name that is not declared, or an expression
that has no value of its type, has no meaning and ends the execution.  As a
sample, `Sample.settings?` runs the module of a small service with a value of
every kind that can be inferred.
-/

namespace TypedEnv

open Source (Identifier)

/-- The settings that a module assembles: values, and groups of named settings. -/
inductive Settings where
  | value (value : Value)
  | group (fields : List (String × Settings))

/-- The settings at a path of field names. -/
def Settings.at? (settings : Settings) : List String → Option Settings
  | [] => some settings
  | name :: rest =>
      match settings with
      | .value _ => none
      | .group fields => (fields.lookup name).bind (·.at? rest)

def Settings.value? (settings : Settings) (path : List String) : Option Value :=
  match settings.at? path with
  | some (.value found) => some found
  | _ => none

namespace Module

/-- Why the execution of a module ends without settings. -/
inductive Stop where
  /-- A name or an expression has no meaning. -/
  | meaningless
  | failure (failure : Failure EnvError)

def signedText (negative : Bool) (digits : List Char) : List Char :=
  if negative then '-' :: digits else digits

/-- The value of an expression where a value of a kind is expected. -/
def DefaultExpr.value? (kind : Kind) (expression : DefaultExpr) : Option Value :=
  match kind, expression with
  | .int, .integer negative magnitude =>
      let number : Int := if negative then -(magnitude : Int) else magnitude
      if Int64.minValue.toInt ≤ number ∧ number ≤ Int64.maxValue.toInt then
        some (.int (.ofInt number))
      else none
  | .uint, .integer false magnitude =>
      if magnitude < UInt64.size then some (.uint (.ofNat magnitude)) else none
  | .float, .decimal negative digits =>
      (Decimal.Binary64.ofText? (signedText negative digits)).map .float
  | .float, .notNumber => some (.float .nan)
  | .float, .infinity negative => some (.float (.infinite negative))
  | .bool, .truth value => some (.bool value)
  | .duration, .seconds count => (Duration.ofParts? count 0).map .duration
  | .duration, .duration whole part => (Duration.ofParts? whole part).map .duration
  | .url, .address content => some (.url (Url.read content.toList).toOption)
  | .url, .noAddress => some (.url none)
  | .string, .text content => some (.string content)
  | .stringList, .items parts => some (.stringList parts)
  | _, _ => none

/-- Whether a value counts as not set by a test for its type; nothing when the test is one for
values of another type. -/
def EmptyTest.holds? : EmptyTest → Value → Option Bool
  | .isZeroInteger, .int number => some (number == 0)
  | .isZeroInteger, .uint number => some (number == 0)
  | .isZeroFloat, .float number => some number.isZero
  | .isZeroDuration, .duration span => some span.isZero
  | .isMissing, .url address => some address.isNone
  | .isEmptyText, .string content => some content.isEmpty
  | .isEmptyText, .stringList parts => some parts.isEmpty
  | _, _ => none

def constant? (module : Module) (name : Identifier) : Option String :=
  (module.constants.find? (·.name == name)).map ConstantDecl.value

/-- The handles that are bound to names, the latest first. -/
abbrev Bindings := List (Identifier × Handle)

/-- A registry with the handles of its variables. -/
structure Running where
  registry : Registry
  bindings : Bindings

def registerNext (module : Module) (running : Running) (registration : Registration) :
    Except Stop Running :=
  match module.constant? registration.constant,
      registration.default.value? registration.kind with
  | some name, some value =>
      match running.registry.declare name value with
      | .error reason => .error (.failure (.abort reason))
      | .ok registry =>
          let handle : Handle := ⟨name, .exactly registration.kind⟩
          .ok ⟨registry, (registration.handle, handle) :: running.bindings⟩
  | _, _ => .error .meaningless

/-- Executes the registrations and applies the overrides. -/
def resolve (module : Module) (registry : Registry) (environment : Environment) :
    Except Stop Running := do
  let running ← module.registrations.foldlM module.registerNext ⟨registry, []⟩
  match running.registry.overlay environment with
  | (registry, none) => return { running with registry }
  | (_, some failure) => throw (.failure failure)

mutual

def Assembly.settings (running : Running) : Assembly → Except Stop Settings
  | .read name =>
      match running.bindings.lookup name with
      | none => .error .meaningless
      | some handle =>
          match running.registry.get handle with
          | .ok value => .ok (.value value)
          | .error cause => .error (.failure (.error cause))
  | .record _ fields => do
      let settings ← Assembly.fieldSettings running fields
      return .group settings

def Assembly.fieldSettings (running : Running) :
    List (Identifier × Assembly) → Except Stop (List (String × Settings))
  | [] => .ok []
  | (name, assembly) :: rest => do
      let settings ← assembly.settings running
      let others ← Assembly.fieldSettings running rest
      return (name.text, settings) :: others

end

def validate (module : Module) (settings : Settings) (validation : Validation) :
    Except Stop Unit :=
  match (settings.value? (validation.path.map Identifier.text)).bind validation.test.holds?,
      module.constant? validation.constant with
  | some true, some name => .error (.failure (.error (.validation name)))
  | some false, some _ => .ok ()
  | _, _ => .error .meaningless

/-- Executes the main function of a module. -/
def run (module : Module) (registry : Registry) (environment : Environment) :
    Except Stop Settings := do
  let running ← module.resolve registry environment
  let settings ← module.assembly.settings running
  module.validations.forM (module.validate settings)
  return settings

end Module

namespace Sample

/-- The declarations of a small service. -/
def declarations : String :=
  "# The settings of a small service.\n" ++
  "APP_NAME=svc\n" ++
  "APP_DEBUG=false\n" ++
  "APP_DB__HOST=localhost\n" ++
  "APP_DB__PORT=5432\n" ++
  "APP_DB__POOL__TIMEOUT=2h45m\n" ++
  "APP_DB__POOL__MAX_SIZE=10\n" ++
  "APP_RATIO=0.75\n" ++
  "APP_MAX_BYTES=18446744073709551615\n" ++
  "APP_ENDPOINT=https://api.example.com/v1\n" ++
  "APP_TYPE=worker\n"

def front : String := "APP_"

def sampleModule : Outcome Diagnostic Module := do
  let declarations ← Declaration.readTyped declarations
  Module.ofDeclarations declarations (some front) .standard

/-- The settings of the service in an environment; nothing when its module has no meaning. -/
def settings? (environment : Environment) : Option (Outcome EnvError Settings) :=
  match sampleModule with
  | .error _ => none
  | .ok module =>
      match module.run .empty environment with
      | .ok settings => some (.ok settings)
      | .error (.failure failure) => some (.error failure)
      | .error .meaningless => none

end Sample

end TypedEnv
