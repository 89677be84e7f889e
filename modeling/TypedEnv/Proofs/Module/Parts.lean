import TypedEnv.Module.Synthesis
import TypedEnv.Proofs.Outcome

/-!
# The parts of a configuration module

What a variable contributes to a module, and what a group does, as functions
of the forest alone.  The walk that makes a module threads these parts through
one recursion over the nodes, and whenever it succeeds it has collected exactly
the parts that are described here.
-/

namespace TypedEnv

namespace Source.Identifier

/-- The identifier for a name, in raw form when the name cannot be read as it is. -/
def named (text : String) : Identifier :=
  ⟨text, (Identifier.read text).toOption.isNone⟩

theorem eq_named_of_ofName {text : String} {name : Identifier}
    (success : ofName text = .ok name) : name = named text := by
  rw [ofName] at success
  split at success
  · next known reads =>
      split at success
      · cases success
        simp [named, plain, reads, Except.toOption]
      · cases success
  · next problem fails =>
      split_ifs at success
      cases success
      simp [named, fails, Except.toOption]

theorem eq_plain_of_exactly {text : String} {name : Identifier}
    (success : exactly text = .ok name) : name = plain text := by
  rw [exactly] at success
  split_ifs at success
  cases success
  rfl

theorem eq_map_named_of_mapM {texts : List String} {names : List Identifier}
    (success : texts.mapM ofName = .ok names) : names = texts.map named := by
  have related := mapM_eq_ok_iff.mp success
  induction related with
  | nil => rfl
  | cons first rest induction =>
      rw [List.map_cons, ← eq_named_of_ofName first, ← induction (mapM_eq_ok_iff.mpr rest)]

theorem named_text (text : String) : (named text).text = text := rfl

theorem named_injective : Function.Injective named := by
  intro first second equality
  have sameText := congrArg Identifier.text equality
  simpa only [named_text] using sameText

theorem plain_injective : Function.Injective plain := by
  intro first second equality
  exact congrArg Identifier.text equality

end Source.Identifier

namespace Config

open TypedEnv.Module Source

namespace Leaf

def constant (leaf : Leaf) : ConstantDecl :=
  ⟨.plain leaf.constName, leaf.envName⟩

def handle (leaf : Leaf) : Identifier :=
  .plain leaf.handleName

def registration (leaf : Leaf) : Registration :=
  ⟨leaf.handle, leaf.default.kind, .plain leaf.constName, .ofValue leaf.default⟩

/-- The fields through which the value of a variable is reached. -/
def accessPath (leaf : Leaf) : List Identifier :=
  leaf.path.map .named

/-- The validation of a variable, unless its value is a truth value. -/
def validation? (leaf : Leaf) : Option Validation :=
  (EmptyTest.ofKind? leaf.default.kind).map fun test =>
    ⟨leaf.accessPath, test, .plain leaf.constName⟩

end Leaf

namespace Node

/-- The field of a node in the structure of its group. -/
def fieldDecl : Node → FieldDecl
  | .leaf _ field entry => ⟨.named field, .value entry.default.kind⟩
  | .group _ field typeName _ => ⟨.named field, .structure (.plain typeName)⟩

mutual

/-- The structures of the groups at and below a node, each before those inside it. -/
def structures : Node → List StructureDecl
  | .leaf _ _ _ => []
  | .group _ _ typeName children =>
      ⟨.plain typeName, children.map fieldDecl⟩ :: structuresOf children

def structuresOf : List Node → List StructureDecl
  | [] => []
  | node :: rest => node.structures ++ structuresOf rest

end

mutual

/-- How the value of a node is put together. -/
def assembly : Node → Assembly
  | .leaf _ _ entry => .read entry.handle
  | .group _ _ typeName children => .record (.plain typeName) (assembliesOf children)

/-- How the values of neighbours are put together, each with its field. -/
def assembliesOf : List Node → List (Identifier × Assembly)
  | [] => []
  | node :: rest => (.named node.field, node.assembly) :: assembliesOf rest

end

theorem leavesOf_singleton (node : Node) : leavesOf [node] = node.leaves := by
  rw [leavesOf, leavesOf, List.append_nil]

end Node

end Config

namespace Module.Parts

open Config Node
open Source (Identifier)

/-- The parts of some nodes. -/
def describing (nodes : List Node) : Parts where
  constants := (leavesOf nodes).map Leaf.constant
  fields := nodes.map fieldDecl
  structures := structuresOf nodes
  registrations := (leavesOf nodes).map Leaf.registration
  values := assembliesOf nodes
  validations := (leavesOf nodes).filterMap Leaf.validation?
  fieldCount := (leavesOf nodes).length

theorem describing_cons (node : Node) (rest : List Node) :
    describing (node :: rest) = (describing [node]).append (describing rest) := by
  simp [describing, append, leavesOf, structuresOf, assembliesOf]

/-- The parts of a variable are those that describe it. -/
theorem eq_describing_of_ofLeaf {name field : String} {entry : Leaf} {parts : Parts}
    (made : ofLeaf (.named field) entry = .ok parts) :
    parts = describing [.leaf name field entry] := by
  obtain ⟨constant, constantNamed, made⟩ := bind_eq_ok_iff.mp made
  obtain ⟨handle, handleNamed, made⟩ := bind_eq_ok_iff.mp made
  obtain ⟨path, pathNamed, made⟩ := bind_eq_ok_iff.mp made
  obtain rfl := Identifier.eq_plain_of_exactly constantNamed
  obtain rfl := Identifier.eq_plain_of_exactly handleNamed
  obtain rfl := Identifier.eq_map_named_of_mapM pathNamed
  rw [← pure_eq_ok_iff.mp made, describing, leavesOf_singleton, leaves]
  congr 1
  -- a truth value has no test, and so no validation
  cases test : EmptyTest.ofKind? entry.default.kind with
  | none => simp [Leaf.validation?, test]
  | some test => simp [Leaf.validation?, test]; rfl

theorem ofGroup_describing (name field typeName : String) (children : List Node) :
    ofGroup (.named field) (.plain typeName) (describing children) =
      describing [.group name field typeName children] := by
  simp [describing, ofGroup, leavesOf, leaves, structuresOf, Node.structures, assembliesOf,
    Node.assembly, fieldDecl, Node.field]

mutual

theorem eq_describing_of_ofNode {node : Node} {parts : Parts} (made : ofNode node = .ok parts) :
    parts = describing [node] := by
  cases node with
  | leaf name field entry =>
      rw [ofNode] at made
      obtain ⟨identifier, fieldNamed, made⟩ := bind_eq_ok_iff.mp made
      obtain rfl := Identifier.eq_named_of_ofName fieldNamed
      exact eq_describing_of_ofLeaf made
  | group name field typeName children =>
      rw [ofNode] at made
      obtain ⟨identifier, fieldNamed, made⟩ := bind_eq_ok_iff.mp made
      obtain ⟨type, typeNamed, made⟩ := bind_eq_ok_iff.mp made
      obtain ⟨inner, innerMade, made⟩ := bind_eq_ok_iff.mp made
      obtain rfl := Identifier.eq_named_of_ofName fieldNamed
      obtain rfl := Identifier.eq_plain_of_exactly typeNamed
      obtain rfl := eq_describing_of_ofNodes innerMade
      obtain rfl := pure_eq_ok_iff.mp made
      exact ofGroup_describing name field typeName children

/-- Whatever the walk over some nodes makes are the parts that describe them. -/
theorem eq_describing_of_ofNodes {nodes : List Node} {parts : Parts}
    (made : ofNodes nodes = .ok parts) : parts = describing nodes := by
  cases nodes with
  | nil =>
      rw [ofNodes] at made
      obtain rfl := pure_eq_ok_iff.mp made
      rfl
  | cons node rest =>
      rw [ofNodes] at made
      obtain ⟨first, firstMade, made⟩ := bind_eq_ok_iff.mp made
      obtain ⟨others, othersMade, made⟩ := bind_eq_ok_iff.mp made
      obtain rfl := eq_describing_of_ofNode firstMade
      obtain rfl := eq_describing_of_ofNodes othersMade
      obtain rfl := pure_eq_ok_iff.mp made
      exact (describing_cons node rest).symm

end

end Module.Parts

namespace Module

open Config
open Source (Identifier)

/-- A module is made when its options fit and the walk over the forest succeeds, and it has the
parts of the walk. -/
theorem synthesize_eq_ok_iff {forest : Forest} {options : Options} {module : Module} :
    synthesize forest options = .ok module ↔
      ∃ runtime root parts, checkOptions forest options = .ok (runtime, root) ∧
        Parts.ofNodes forest.roots = .ok parts ∧
        module =
          { runtime, root
            constants := parts.constants
            structures := ⟨root, parts.fields⟩ :: parts.structures
            registrations := parts.registrations
            assembly := .record root parts.values
            validations := parts.validations
            fieldCount := parts.fieldCount } := by
  constructor
  · intro made
    obtain ⟨⟨runtime, root⟩, checked, made⟩ := bind_eq_ok_iff.mp made
    obtain ⟨parts, walked, made⟩ := bind_eq_ok_iff.mp made
    have fits := mapError_eq_ok_iff.mp (Outcome.ofError_eq_ok_iff.mp checked)
    exact ⟨runtime, root, parts, fits, Outcome.ofAbort_eq_ok_iff.mp walked,
      (pure_eq_ok_iff.mp made).symm⟩
  · rintro ⟨runtime, root, parts, fits, walked, rfl⟩
    have checked : Outcome.ofError ((checkOptions forest options).mapError Diagnostic.ofCause) =
        .ok (runtime, root) :=
      Outcome.ofError_eq_ok_iff.mpr (mapError_eq_ok_iff.mpr fits)
    refine bind_eq_ok_iff.mpr ⟨_, checked, bind_eq_ok_iff.mpr ⟨parts, ?_, rfl⟩⟩
    exact Outcome.ofAbort_eq_ok_iff.mpr walked

end Module

end TypedEnv
