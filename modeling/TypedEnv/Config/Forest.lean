import TypedEnv.Value.Basic

/-!
# Configuration forests

A configuration is a forest whose leaves are variables and whose other nodes
are groups of fields.  Every node has the field name under which it stands in
its group and a normalized name by which it can be found.
-/

namespace TypedEnv.Config

structure Leaf where
  /-- The full name of the variable in an environment. -/
  envName : String
  /-- The constant that holds the full name. -/
  constName : String
  /-- The fields from the root down to the variable. -/
  path : List String
  default : Value
  line : Nat
  deriving DecidableEq

/-- The name of the binding that holds the handle of a variable. -/
def Leaf.handleName (leaf : Leaf) : String :=
  String.intercalate "_" leaf.path ++ "_var"

theorem Leaf.handleName_eq_iff {leaf other : Leaf} : leaf.handleName = other.handleName ↔
    String.intercalate "_" leaf.path = String.intercalate "_" other.path :=
  String.append_left_inj _

def Leaf.dottedPath (leaf : Leaf) : String :=
  String.intercalate "." leaf.path

/-- A node of a configuration: a variable, or a group with the name of its type. -/
inductive Node where
  | leaf (name field : String) (entry : Leaf)
  | group (name field typeName : String) (children : List Node)

namespace Node

def name : Node → String
  | .leaf name _ _ => name
  | .group name _ _ _ => name

def field : Node → String
  | .leaf _ field _ => field
  | .group _ field _ _ => field

/-- The nodes in a group; a variable has none. -/
def children : Node → List Node
  | .leaf _ _ _ => []
  | .group _ _ _ children => children

def leaf? : Node → Option Leaf
  | .leaf _ _ entry => some entry
  | .group _ _ _ _ => none

/-- The node of a group with a normalized name. -/
def child? (node : Node) (name : String) : Option Node :=
  node.children.find? (·.name == name)

mutual

def leaves : Node → List Leaf
  | .leaf _ _ entry => [entry]
  | .group _ _ _ children => leavesOf children

/-- The variables below some nodes. -/
def leavesOf : List Node → List Leaf
  | [] => []
  | node :: rest => node.leaves ++ leavesOf rest

end

mutual

/-- The number of groups at and below a node. -/
def groupCount : Node → Nat
  | .leaf _ _ _ => 0
  | .group _ _ _ children => groupCountOf children + 1

def groupCountOf : List Node → Nat
  | [] => 0
  | node :: rest => node.groupCount + groupCountOf rest

end

end Node

/-- The topmost nodes of a configuration in the order of their declaration. -/
structure Forest where
  roots : List Node

namespace Forest

def leaves (forest : Forest) : List Leaf :=
  Node.leavesOf forest.roots

def groupCount (forest : Forest) : Nat :=
  Node.groupCountOf forest.roots

def find? (forest : Forest) (name : String) : Option Node :=
  forest.roots.find? (·.name == name)

/-- The node that is reached through normalized names. -/
def follow? (forest : Forest) : List String → Option Node
  | [] => none
  | name :: rest => rest.foldlM (fun node name => node.child? name) =<< forest.find? name

end Forest

end TypedEnv.Config
