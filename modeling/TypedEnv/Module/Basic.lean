import TypedEnv.Source.Path
import TypedEnv.Value.Basic

/-!
# Configuration modules

A configuration module declares a constant for the name of every variable and
a structure for every group.  Its main function registers the variables with
their defaults, applies overrides, assembles a configuration from the values,
and checks that nothing that has to be set was left empty.
-/

namespace TypedEnv

open Source (Identifier)

namespace Module

/-- A constant that holds the name of a variable. -/
structure ConstantDecl where
  name : Identifier
  value : String
  deriving DecidableEq

/-- The type of a field: the type of a kind of values, or the structure of a group. -/
inductive FieldType where
  | value (kind : Kind)
  | structure (name : Identifier)
  deriving DecidableEq

structure FieldDecl where
  name : Identifier
  type : FieldType
  deriving DecidableEq

/-- The structure of a group or of the whole configuration. -/
structure StructureDecl where
  name : Identifier
  fields : List FieldDecl
  deriving DecidableEq

inductive DefaultExpr where
  | integer (negative : Bool) (magnitude : Nat)
  | decimal (negative : Bool) (digits : List Char)
  | notNumber
  | infinity (negative : Bool)
  | truth (truth : Bool)
  | seconds (seconds : Nat)
  | duration (seconds nanoseconds : Nat)
  | address (text : String)
  | noAddress
  | text (text : String)
  | items (items : List String)
  deriving DecidableEq

/-- Registers a variable of a kind and binds its handle to a name. -/
structure Registration where
  handle : Identifier
  kind : Kind
  constant : Identifier
  default : DefaultExpr
  deriving DecidableEq

/-- How a configuration is put together: values that are read through handles, and structures. -/
inductive Assembly where
  | read (handle : Identifier)
  | record (name : Identifier) (fields : List (Identifier × Assembly))

/-- The tests for a value that counts as not set. -/
inductive EmptyTest where
  | isZeroInteger
  | isZeroFloat
  | isZeroDuration
  | isMissing
  | isEmptyText
  deriving DecidableEq

/-- Fails for the variable of a constant when the value at a path counts as not set. -/
structure Validation where
  path : List Identifier
  test : EmptyTest
  constant : Identifier
  deriving DecidableEq

/-- The test for a kind; a truth value is always set. -/
def EmptyTest.ofKind? : Kind → Option EmptyTest
  | .int | .uint => some .isZeroInteger
  | .float => some .isZeroFloat
  | .bool => none
  | .duration => some .isZeroDuration
  | .url => some .isMissing
  | .string | .stringList => some .isEmptyText

def DefaultExpr.ofValue : Value → DefaultExpr
  | .int number => .integer (number < 0) number.toInt.natAbs
  | .uint number => .integer false number.toNat
  | .float .nan => .notNumber
  | .float (.infinite negative) => .infinity negative
  | .float (.finite negative significand exponent _) =>
      .decimal negative (Decimal.Binary64.magnitudeText .plain significand exponent)
  | .bool value => .truth value
  | .duration span =>
      if span.nanoseconds = 0 then .seconds span.seconds
      else .duration span.seconds span.nanoseconds
  | .url none => .noAddress
  | .url (some target) => .address target.render
  | .string content => .text content
  | .stringList parts => .items parts

end Module

structure Module where
  /-- Where the names that the module needs are imported from. -/
  runtime : Source.Path
  /-- The structure of the whole configuration. -/
  root : Identifier
  constants : List Module.ConstantDecl
  structures : List Module.StructureDecl
  registrations : List Module.Registration
  assembly : Module.Assembly
  validations : List Module.Validation
  /-- The number of fields that hold the value of a variable. -/
  fieldCount : Nat

namespace Module

/-- How many parts of each sort a module has. -/
structure Counters where
  constants : Nat
  fields : Nat
  structures : Nat
  registrations : Nat
  validations : Nat
  deriving DecidableEq

def counters (module : Module) : Counters where
  constants := module.constants.length
  fields := module.fieldCount
  structures := module.structures.length
  registrations := module.registrations.length
  validations := module.validations.length

end Module

end TypedEnv
