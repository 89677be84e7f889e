import TypedEnv.Config.Forest
import TypedEnv.Declaration.File
import TypedEnv.Name.Segment

/-!
# Building configurations

The name of a variable is cut at double underscores: the last segment names a
field and those before it name groups.  `Forest.build` places declarations
one after the other and refuses the first that cannot stand beside those
before it, because a field, a constant or a type would have two meanings.
-/

namespace TypedEnv.Config

/-- A text without the underscores at its end and with one in their place; nothing when only
underscores are there. -/
def normalizePrefix? (text : String) : Option String :=
  match text.toList.reverse.dropWhile (· == '_') with
  | [] => none
  | kept => some (String.ofList ('_' :: kept).reverse)

/-- A name without the text with which it may begin. -/
def stripFront (front : Option String) (name : String) : String :=
  match front with
  | none => name
  | some front =>
      if front.toList.isPrefixOf name.toList then String.ofList (name.toList.drop front.length)
      else name

/-- Cuts a text at its double underscores, from left to right. -/
def cutSegments : List Char → List (List Char)
  | [] => [[]]
  | '_' :: '_' :: rest => [] :: cutSegments rest
  | c :: rest =>
      match cutSegments rest with
      | [] => [[c]]
      | first :: others => (c :: first) :: others

def segmentsOf (name : String) : List String :=
  (cutSegments name.toList).map String.ofList

/-- What a declaration asks for: the segments of its name and their field names. -/
structure Claim where
  envName : String
  default : Value
  line : Nat
  segments : List String
  fields : List String

/-- The segments and field names of a declaration. -/
def Claim.ofDeclaration (front : Option String) (declaration : Declaration) :
    Except Cause Claim := do
  let invalid := fun reason => Cause.invalidName declaration.name reason
  let segments := segmentsOf (stripFront front declaration.name)
  if segments.any String.isEmpty then throw (invalid .emptySegment)
  let fields ← segments.mapM fun segment =>
    (Name.fieldName segment).mapError fun problem => invalid (.badSegment problem)
  return ⟨declaration.name, declaration.value, declaration.line, segments, fields⟩

def Claim.constName (claim : Claim) : String :=
  Name.constName claim.fields

def Claim.leaf (claim : Claim) : Leaf :=
  ⟨claim.envName, claim.constName, claim.fields, claim.default, claim.line⟩

/-- The nodes with the children of one group changed. -/
def replaceChildren (field : String) (children : List Node) (nodes : List Node) : List Node :=
  nodes.map fun node =>
    match node with
    | .group name other typeName before =>
        if other == field then .group name other typeName children
        else .group name other typeName before
    | leaf => leaf

/-- Places a variable below some nodes.  `passed` counts the segments that were followed, and the
last argument holds those that are left.  `types` says which type belongs to which group, by its
path; the result has the types of the new groups, too. -/
def place (claim : Claim) (types : List (String × String)) (passed : Nat) (nodes : List Node) :
    List (String × String) → Except Clash (List Node × List (String × String))
  | [] => .ok (nodes, types)
  | [(segment, field)] =>
      match nodes.find? (·.field == field) with
      | some (.leaf _ _ owner) => .error (.field field owner.envName)
      | some (.group _ _ _ _) => .error (.sectionField field)
      | none => .ok (nodes ++ [.leaf (Name.normalize true segment) field claim.leaf], types)
  | (segment, field) :: next :: rest =>
      match nodes.find? (·.field == field) with
      | some (.leaf _ _ owner) => .error (.variableAtPath owner.dottedPath owner.envName)
      | some (.group _ _ _ children) => do
          let (children, types) ← place claim types (passed + 1) children (next :: rest)
          return (replaceChildren field children nodes, types)
      | none =>
          let typeName := Name.typeName (claim.segments.take (passed + 1))
          let path := String.intercalate "." (claim.fields.take (passed + 1))
          match types.lookup typeName with
          | some owner => .error (.sectionType path owner typeName)
          | none => do
              let (children, types) ←
                place claim ((typeName, path) :: types) (passed + 1) [] (next :: rest)
              return (nodes ++ [.group (Name.normalize true segment) field typeName children],
                types)

/-- A forest in the making: who owns which constant and which group owns which type. -/
structure Builder where
  roots : List Node
  constants : List (String × String)
  types : List (String × String)

namespace Builder

def empty : Builder := ⟨[], [], []⟩

def addClaim (builder : Builder) (claim : Claim) : Except Clash Builder :=
  match builder.constants.lookup claim.constName with
  | some owner => .error (.constant claim.constName owner)
  | none => do
      let (roots, types) ←
        place claim builder.types 0 builder.roots (claim.segments.zip claim.fields)
      return ⟨roots, (claim.constName, claim.envName) :: builder.constants, types⟩

def add (front : Option String) (builder : Builder) (declaration : Declaration) :
    Except Diagnostic Builder :=
  let placed := do
    let claim ← Claim.ofDeclaration front declaration
    (builder.addClaim claim).mapError fun clash => Cause.conflict claim.envName clash
  placed.mapError (.atLine declaration.line)

end Builder

/-- The configuration of some declarations.  The front text is normalized and removed from the
names that begin with it. -/
def Forest.build (declarations : List Declaration) (front : Option String) :
    Except Diagnostic Forest := do
  let builder ← declarations.foldlM (Builder.add (front.bind normalizePrefix?)) .empty
  return ⟨builder.roots⟩

end TypedEnv.Config
