import TypedEnv.Config.Build
import TypedEnv.Module.Basic

/-!
# Making configuration modules

`Module.synthesize` turns a forest into a module in one walk, so that every
variable gets one constant, one field, one registration and, unless it is a
truth value, one validation.  Structures stand before those of their groups.
-/

namespace TypedEnv.Module

open Config (Leaf Node Forest)
open Source (Identifier)

/-- What is left open about a module: where its imports come from and the name of the structure
of the whole configuration. -/
structure Options where
  runtime : String
  root : String

def Options.standard : Options := ⟨"envgen_runtime", "Config"⟩

/-- The names that every module imports. -/
def importedNames : List String :=
  ["EnvError", "EnvSource", "ProcessEnv", "Registry"]

/-- What the walk has made of some nodes. -/
structure Parts where
  constants : List ConstantDecl
  fields : List FieldDecl
  structures : List StructureDecl
  registrations : List Registration
  values : List (Identifier × Assembly)
  validations : List Validation
  /-- The number of fields that hold the value of a variable. -/
  fieldCount : Nat

namespace Parts

def empty : Parts := ⟨[], [], [], [], [], [], 0⟩

/-- The parts of some nodes and of those after them. -/
def append (first second : Parts) : Parts where
  constants := first.constants ++ second.constants
  fields := first.fields ++ second.fields
  structures := first.structures ++ second.structures
  registrations := first.registrations ++ second.registrations
  values := first.values ++ second.values
  validations := first.validations ++ second.validations
  fieldCount := first.fieldCount + second.fieldCount

def ofLeaf (field : Identifier) (leaf : Leaf) : Except Abort Parts := do
  let constant ← Identifier.exactly leaf.constName
  let handle ← Identifier.exactly leaf.handleName
  let path ← leaf.path.mapM Identifier.ofName
  let kind := leaf.default.kind
  let validations :=
    match EmptyTest.ofKind? kind with
    | none => []
    | some test => [⟨path, test, constant⟩]
  return {
    constants := [⟨constant, leaf.envName⟩]
    fields := [⟨field, .value kind⟩]
    structures := []
    registrations := [⟨handle, kind, constant, .ofValue leaf.default⟩]
    values := [(field, .read handle)]
    validations
    fieldCount := 1 }

/-- The parts of a group, from those of its children. -/
def ofGroup (field type : Identifier) (inner : Parts) : Parts where
  constants := inner.constants
  fields := [⟨field, .structure type⟩]
  structures := ⟨type, inner.fields⟩ :: inner.structures
  registrations := inner.registrations
  values := [(field, .record type inner.values)]
  validations := inner.validations
  fieldCount := inner.fieldCount

mutual

def ofNode : Node → Except Abort Parts
  | .leaf _ field entry => do
      let field ← Identifier.ofName field
      ofLeaf field entry
  | .group _ field typeName children => do
      let field ← Identifier.ofName field
      let type ← Identifier.exactly typeName
      let inner ← ofNodes children
      return ofGroup field type inner

/-- The parts of some nodes. -/
def ofNodes : List Node → Except Abort Parts
  | [] => return empty
  | node :: rest => do
      let first ← ofNode node
      let others ← ofNodes rest
      return first.append others

end

end Parts

mutual

/-- The first group below a node with a type name that is taken, by field and type name. -/
def findType? (taken : String → Bool) : Node → Option (String × String)
  | .leaf _ _ _ => none
  | .group _ field typeName children =>
      if taken typeName then some (field, typeName) else findTypeIn? taken children

def findTypeIn? (taken : String → Bool) : List Node → Option (String × String)
  | [] => none
  | node :: rest => (findType? taken node).or (findTypeIn? taken rest)

end

/-- Reads the options and checks that no structure hides an imported name or the structure of
the whole configuration. -/
def checkOptions (forest : Forest) (options : Options) :
    Except Cause (Source.Path × Identifier) := do
  let runtime ← (Source.Path.read options.runtime).mapError fun problem =>
    Cause.invalidName options.runtime (.notPath problem)
  let root ← (Identifier.read options.root).mapError fun problem =>
    Cause.invalidName options.root (.notTypeName problem)
  if importedNames.contains options.root then
    throw (.conflict options.root .rootImport)
  let taken := fun name => name == options.root || importedNames.contains name
  match findTypeIn? taken forest.roots with
  | some (field, typeName) => throw (.conflict field (.reservedType typeName))
  | none => return (runtime, root)

/-- The module for a configuration. -/
def synthesize (forest : Forest) (options : Options) : Outcome Diagnostic Module := do
  let (runtime, root) ← .ofError ((checkOptions forest options).mapError Diagnostic.ofCause)
  let parts ← .ofAbort (Parts.ofNodes forest.roots)
  return {
    runtime, root
    constants := parts.constants
    structures := ⟨root, parts.fields⟩ :: parts.structures
    registrations := parts.registrations
    assembly := .record root parts.values
    validations := parts.validations
    fieldCount := parts.fieldCount }

end TypedEnv.Module
