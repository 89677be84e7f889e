import TypedEnv.Module.Generate
import TypedEnv.Proofs.Config.Compatibility
import TypedEnv.Proofs.Declaration.File
import TypedEnv.Proofs.Module.Hygiene
import TypedEnv.Proofs.Source.Identifier

/-!
# Identifiers of a module

The program stops when it makes an identifier from a text that is none.  This
never happens to a configuration from a declaration file: all its names are
words and none is reserved, and only fields can be keywords.  A module is
therefore made or refused with an error, and it writes every name as it can be
read, a field that is a keyword in raw form.
-/

namespace TypedEnv

open Name (IsIdentifier IsField reservedWords)
open Source (Identifier keywords)

namespace Source.Identifier

/-- An identifier as it has to be written, with a mark when it is a keyword and otherwise not. -/
structure IsWritten (name : Identifier) : Prop where
  isIdentifier : IsIdentifier name.text
  render : name.render = if name.text ∈ keywords then "r#" ++ name.text else name.text

variable {text : String}

theorem isWritten_plain (isIdentifier : IsIdentifier text) (notKeyword : text ∉ keywords) :
    (plain text).IsWritten :=
  ⟨isIdentifier, by simp [plain, Identifier.render, notKeyword]⟩

theorem isWritten_named (isIdentifier : IsIdentifier text) : (named text).IsWritten := by
  rw [← eq_named_of_ofName (ofName_of_isIdentifier isIdentifier)]
  exact ⟨isIdentifier, by simp [Identifier.render]⟩

end Source.Identifier

namespace Config

namespace Node

mutual

/-- The field of a node and the fields below it. -/
def fieldNames : Node → List String
  | .leaf _ field _ => [field]
  | .group _ field _ children => field :: fieldNamesOf children

def fieldNamesOf : List Node → List String
  | [] => []
  | node :: rest => node.fieldNames ++ fieldNamesOf rest

end

/-- All names of some nodes can be written as identifiers, and only fields need a mark for it. -/
structure AreWritable (nodes : List Node) : Prop where
  fields : ∀ name ∈ fieldNamesOf nodes, IsIdentifier name
  paths : ∀ leaf ∈ leavesOf nodes, ∀ name ∈ leaf.path, IsIdentifier name
  types : ∀ name ∈ typeNamesOf nodes, IsIdentifier name ∧ name ∉ keywords
  constants : ∀ leaf ∈ leavesOf nodes, IsIdentifier leaf.constName ∧ leaf.constName ∉ keywords
  handles : ∀ leaf ∈ leavesOf nodes, IsIdentifier leaf.handleName ∧ leaf.handleName ∉ keywords

namespace AreWritable

variable {node : Node} {rest : List Node}

theorem of_cons (writable : AreWritable (node :: rest)) :
    AreWritable [node] ∧ AreWritable rest := by
  obtain ⟨fields, paths, types, constants, handles⟩ := writable
  simp only [fieldNamesOf, leavesOf, typeNamesOf, List.forall_mem_append]
    at fields paths types constants handles
  refine ⟨⟨?_, ?_, ?_, ?_, ?_⟩, fields.2, paths.2, types.2, constants.2, handles.2⟩
  · simpa [fieldNamesOf] using fields.1
  · simpa [leavesOf] using paths.1
  · simpa [typeNamesOf] using types.1
  · simpa [leavesOf] using constants.1
  · simpa [leavesOf] using handles.1

theorem of_group {name field typeName : String} {children : List Node}
    (writable : AreWritable [.group name field typeName children]) :
    IsIdentifier field ∧ (IsIdentifier typeName ∧ typeName ∉ keywords) ∧ AreWritable children := by
  obtain ⟨fields, paths, types, constants, handles⟩ := writable
  simp only [fieldNamesOf, fieldNames, typeNamesOf, Node.typeNames, List.append_nil,
    List.forall_mem_cons] at fields types
  rw [leavesOf_singleton, leaves] at paths constants handles
  exact ⟨fields.1, types.1, fields.2, paths, types.2, constants, handles⟩

end AreWritable

mutual

/-- Every field lies on the path of a variable. -/
theorem exists_leaf_of_mem_fieldNames {above : List String} {node : Node} {name : String}
    (placed : node.WellPlaced above) (member : name ∈ node.fieldNames) :
    ∃ leaf ∈ node.leaves, name ∈ leaf.path := by
  cases node with
  | leaf other field entry =>
      obtain rfl := List.mem_singleton.mp member
      have atField : entry.path = above ++ [name] := placed
      exact ⟨entry, List.mem_singleton_self entry, by simp [atField]⟩
  | group other field typeName children =>
      rcases List.mem_cons.mp member with rfl | below
      · obtain ⟨leaf, isLeaf⟩ := exists_mem_leaves placed
        have inside := prefix_of_mem_leaves placed isLeaf
        exact ⟨leaf, isLeaf, inside.subset (by simp [Node.field])⟩
      · exact exists_leaf_of_mem_fieldNamesOf placed.2 below

theorem exists_leaf_of_mem_fieldNamesOf {above : List String} {nodes : List Node} {name : String}
    (placed : WellPlacedList above nodes) (member : name ∈ fieldNamesOf nodes) :
    ∃ leaf ∈ leavesOf nodes, name ∈ leaf.path := by
  cases nodes with
  | nil => cases member
  | cons node rest =>
      obtain ⟨-, nodePlaced, restPlaced⟩ := placed
      rcases List.mem_append.mp member with inNode | inRest
      · obtain ⟨leaf, isLeaf, inPath⟩ := exists_leaf_of_mem_fieldNames nodePlaced inNode
        exact ⟨leaf, List.mem_append_left _ isLeaf, inPath⟩
      · obtain ⟨leaf, isLeaf, inPath⟩ := exists_leaf_of_mem_fieldNamesOf restPlaced inRest
        exact ⟨leaf, List.mem_append_right _ isLeaf, inPath⟩

end

end Node

namespace Forest

variable {declarations : List Declaration} {front : Option String} {forest : Forest}

/-- The path of a variable has field names only, and at least one. -/
theorem isField_of_mem_leaves
    (named : ∀ declaration ∈ declarations, ∀ c ∈ declaration.name.toList,
      Declaration.isNameChar c = true)
    (built : build declarations front = .ok forest) :
    ∀ leaf ∈ forest.leaves, leaf.path ≠ [] ∧ ∀ name ∈ leaf.path, IsField name := by
  intro leaf member
  obtain ⟨builder, roots, represents⟩ := represents_of_build built
  have admissible := (isBuildable_iff named).mp ⟨forest, built⟩
  rw [leaves, ← roots] at member
  obtain ⟨declaration, isDeclared, samePath⟩ := represents.exists_declaration member
  have accepted := (admissible.nameable declaration isDeclared).accepted
    (named declaration isDeclared)
  rw [← samePath]
  exact ⟨by simp [fieldsIn, segmentsIn, segmentsOf_ne_nil], accepted⟩

/-- The names of a configuration can all be written. -/
theorem areWritable_of_build
    (named : ∀ declaration ∈ declarations, ∀ c ∈ declaration.name.toList,
      Declaration.isNameChar c = true)
    (built : build declarations front = .ok forest) : Node.AreWritable forest.roots := by
  have isField := isField_of_mem_leaves named built
  refine ⟨?fields, ?paths, ?types, ?constants, ?handles⟩
  case fields =>
    intro name member
    obtain ⟨leaf, isLeaf, inPath⟩ :=
      Node.exists_leaf_of_mem_fieldNamesOf (wellPlaced_of_build built) member
    exact ((isField leaf isLeaf).2 name inPath).isIdentifier
  case paths =>
    intro leaf isLeaf name inPath
    exact ((isField leaf isLeaf).2 name inPath).isIdentifier
  case types =>
    intro typeName isType
    obtain ⟨path, nonempty, accepted, rfl⟩ := exists_path_of_mem_typeNames named built isType
    exact Name.isIdentifier_typeName nonempty accepted
  case constants =>
    intro leaf isLeaf
    obtain ⟨nonempty, accepted⟩ := isField leaf isLeaf
    rw [constName_of_build built leaf isLeaf]
    exact Name.isIdentifier_constName nonempty accepted
  case handles =>
    intro leaf isLeaf
    obtain ⟨nonempty, accepted⟩ := isField leaf isLeaf
    exact Name.isIdentifier_handleName nonempty accepted

end Forest

end Config

namespace Module

open Config Config.Node

namespace Parts

theorem exists_ofLeaf {name field : String} {entry : Leaf} (identifier : Identifier)
    (writable : AreWritable [.leaf name field entry]) :
    ∃ parts, ofLeaf identifier entry = .ok parts := by
  have isLeaf : entry ∈ leavesOf [.leaf name field entry] := by simp [leavesOf, leaves]
  have constant := Identifier.exactly_of_isWord (writable.constants entry isLeaf).1.word
  have handle := Identifier.exactly_of_isWord (writable.handles entry isLeaf).1.word
  obtain ⟨path, named⟩ : ∃ path, entry.path.mapM Identifier.ofName = .ok path := by
    refine ⟨entry.path.map fun name => ⟨name, keywords.contains name⟩, mapM_eq_ok_iff.mpr ?_⟩
    rw [List.forall₂_map_right_iff, List.forall₂_same]
    exact fun name inPath =>
      Identifier.ofName_of_isIdentifier (writable.paths entry isLeaf name inPath)
  rw [ofLeaf, constant, handle, named]
  exact ⟨_, rfl⟩

mutual

theorem exists_ofNode {node : Node} (writable : AreWritable [node]) :
    ∃ parts, ofNode node = .ok parts := by
  cases node with
  | leaf name field entry =>
      have isIdentifier : IsIdentifier field :=
        writable.fields field (by simp [fieldNamesOf, fieldNames])
      have fieldNamed := Identifier.ofName_of_isIdentifier isIdentifier
      obtain ⟨parts, made⟩ := exists_ofLeaf _ writable
      rw [ofNode, fieldNamed]
      exact ⟨parts, made⟩
  | group name field typeName children =>
      obtain ⟨isIdentifier, ⟨typeIdentifier, -⟩, childrenWritable⟩ := writable.of_group
      have fieldNamed := Identifier.ofName_of_isIdentifier isIdentifier
      have typeNamed := Identifier.exactly_of_isWord typeIdentifier.word
      obtain ⟨inner, made⟩ := exists_ofNodes childrenWritable
      rw [ofNode, fieldNamed, typeNamed, made]
      exact ⟨_, rfl⟩

/-- The walk over nodes whose names can be written never stops the program. -/
theorem exists_ofNodes {nodes : List Node} (writable : AreWritable nodes) :
    ∃ parts, ofNodes nodes = .ok parts := by
  cases nodes with
  | nil => exact ⟨empty, by rw [ofNodes]; rfl⟩
  | cons node rest =>
      obtain ⟨nodeWritable, restWritable⟩ := writable.of_cons
      obtain ⟨first, firstMade⟩ := exists_ofNode nodeWritable
      obtain ⟨others, othersMade⟩ := exists_ofNodes restWritable
      rw [ofNodes, firstMade, othersMade]
      exact ⟨_, rfl⟩

end

end Parts

section Identifiers

mutual

/-- The identifiers in an assembly. -/
def Assembly.identifiers : Assembly → List Identifier
  | .read handle => [handle]
  | .record name fields => name :: Assembly.identifiersOf fields

def Assembly.identifiersOf : List (Identifier × Assembly) → List Identifier
  | [] => []
  | (field, assembly) :: rest => field :: (assembly.identifiers ++ Assembly.identifiersOf rest)

end

def FieldType.identifiers : FieldType → List Identifier
  | .value _ => []
  | .structure name => [name]

def FieldDecl.identifiers (field : FieldDecl) : List Identifier :=
  field.name :: field.type.identifiers

def StructureDecl.identifiers (declaration : StructureDecl) : List Identifier :=
  declaration.name :: declaration.fields.flatMap FieldDecl.identifiers

/-- All identifiers that a module declares or uses, apart from the names of its imports. -/
def identifiers (module : Module) : List Identifier :=
  module.constants.map ConstantDecl.name ++
    module.structures.flatMap StructureDecl.identifiers ++
    module.registrations.flatMap (fun registration =>
      [registration.handle, registration.constant]) ++
    module.assembly.identifiers ++
    module.validations.flatMap (fun validation => validation.constant :: validation.path)

variable {nodes : List Node}

theorem isWritten_constant (writable : AreWritable nodes) :
    ∀ leaf ∈ leavesOf nodes, (Identifier.plain leaf.constName).IsWritten := by
  intro leaf isLeaf
  obtain ⟨isIdentifier, notKeyword⟩ := writable.constants leaf isLeaf
  exact Identifier.isWritten_plain isIdentifier notKeyword

theorem isWritten_handle (writable : AreWritable nodes) :
    ∀ leaf ∈ leavesOf nodes, leaf.handle.IsWritten := by
  intro leaf isLeaf
  obtain ⟨isIdentifier, notKeyword⟩ := writable.handles leaf isLeaf
  exact Identifier.isWritten_plain isIdentifier notKeyword

theorem isWritten_fieldDecl {node : Node} (writable : AreWritable [node]) :
    ∀ name ∈ node.fieldDecl.identifiers, name.IsWritten := by
  cases node with
  | leaf name field entry =>
      have isIdentifier : IsIdentifier field :=
        writable.fields field (by simp [fieldNamesOf, fieldNames])
      simpa [fieldDecl, FieldDecl.identifiers, FieldType.identifiers] using
        Identifier.isWritten_named isIdentifier
  | group name field typeName children =>
      obtain ⟨isIdentifier, ⟨typeIdentifier, notKeyword⟩, -⟩ := writable.of_group
      simpa [fieldDecl, FieldDecl.identifiers, FieldType.identifiers] using
        ⟨Identifier.isWritten_named isIdentifier,
          Identifier.isWritten_plain typeIdentifier notKeyword⟩

theorem isWritten_fieldDecls (writable : AreWritable nodes) :
    ∀ name ∈ nodes.flatMap (fun node => node.fieldDecl.identifiers), name.IsWritten := by
  induction nodes with
  | nil => simp
  | cons node rest induction =>
      obtain ⟨nodeWritable, restWritable⟩ := writable.of_cons
      rw [List.flatMap_cons, List.forall_mem_append]
      exact ⟨isWritten_fieldDecl nodeWritable, induction restWritable⟩

mutual

theorem isWritten_structures {node : Node} (writable : AreWritable [node]) :
    ∀ declaration ∈ node.structures, ∀ name ∈ declaration.identifiers, name.IsWritten := by
  cases node with
  | leaf name field entry => simp [Node.structures]
  | group name field typeName children =>
      obtain ⟨-, ⟨typeIdentifier, notKeyword⟩, childrenWritable⟩ := writable.of_group
      rw [Node.structures, List.forall_mem_cons]
      refine ⟨?_, isWritten_structuresOf childrenWritable⟩
      rw [StructureDecl.identifiers, List.forall_mem_cons, List.flatMap_map]
      exact ⟨Identifier.isWritten_plain typeIdentifier notKeyword,
        isWritten_fieldDecls childrenWritable⟩

/-- The structures of the groups are written as they have to be. -/
theorem isWritten_structuresOf {nodes : List Node} (writable : AreWritable nodes) :
    ∀ declaration ∈ structuresOf nodes, ∀ name ∈ declaration.identifiers, name.IsWritten := by
  cases nodes with
  | nil => simp [structuresOf]
  | cons node rest =>
      obtain ⟨nodeWritable, restWritable⟩ := writable.of_cons
      rw [structuresOf, List.forall_mem_append]
      exact ⟨isWritten_structures nodeWritable, isWritten_structuresOf restWritable⟩

end

mutual

theorem isWritten_assembly {node : Node} (writable : AreWritable [node]) :
    ∀ name ∈ node.assembly.identifiers, name.IsWritten := by
  cases node with
  | leaf name field entry =>
      have isLeaf : entry ∈ leavesOf [.leaf name field entry] := by simp [leavesOf, leaves]
      simpa [Node.assembly, Assembly.identifiers] using isWritten_handle writable entry isLeaf
  | group name field typeName children =>
      obtain ⟨-, ⟨typeIdentifier, notKeyword⟩, childrenWritable⟩ := writable.of_group
      rw [Node.assembly, Assembly.identifiers, List.forall_mem_cons]
      exact ⟨Identifier.isWritten_plain typeIdentifier notKeyword,
        isWritten_assembliesOf childrenWritable⟩

theorem isWritten_assembliesOf {nodes : List Node} (writable : AreWritable nodes) :
    ∀ name ∈ Assembly.identifiersOf (assembliesOf nodes), name.IsWritten := by
  cases nodes with
  | nil => simp [assembliesOf, Assembly.identifiersOf]
  | cons node rest =>
      obtain ⟨nodeWritable, restWritable⟩ := writable.of_cons
      have isIdentifier : IsIdentifier node.field := by
        refine nodeWritable.fields node.field ?_
        cases node <;> simp [fieldNamesOf, fieldNames, Node.field]
      rw [assembliesOf, Assembly.identifiersOf, List.forall_mem_cons, List.forall_mem_append]
      exact ⟨Identifier.isWritten_named isIdentifier, isWritten_assembly nodeWritable,
        isWritten_assembliesOf restWritable⟩

end

theorem isWritten_validation {leaf : Leaf} {validation : Validation} (writable : AreWritable nodes)
    (isLeaf : leaf ∈ leavesOf nodes) (validated : leaf.validation? = some validation) :
    ∀ name ∈ validation.constant :: validation.path, name.IsWritten := by
  obtain ⟨test, -, rfl⟩ := Option.map_eq_some_iff.mp validated
  refine List.forall_mem_cons.mpr ⟨isWritten_constant writable leaf isLeaf, ?_⟩
  rw [Leaf.accessPath, List.forall_mem_map]
  exact fun name inPath => Identifier.isWritten_named (writable.paths leaf isLeaf name inPath)

variable {forest : Forest} {options : Options} {module : Module}

/-- Apart from the structure of the whole configuration, whose name is read from the options,
everything in a module is written as it has to be. -/
theorem isWritten_of_synthesize (writable : AreWritable forest.roots)
    (made : synthesize forest options = .ok module) :
    ∀ name ∈ module.identifiers, name = module.root ∨ name.IsWritten := by
  obtain ⟨runtime, root, -, rfl⟩ := eq_describing_of_synthesize made
  -- the root is named twice, in front of the structures and of the assembly
  simp only [identifiers, List.forall_mem_append, List.flatMap_cons, StructureDecl.identifiers,
    Assembly.identifiers, List.forall_mem_cons, List.flatMap_map]
  refine ⟨⟨⟨⟨?constants, ⟨.inl trivial, ?rootFields⟩, ?structures⟩, ?registrations⟩,
    .inl trivial, ?assembly⟩, ?validations⟩
  all_goals intro name member; right
  case constants =>
    rw [List.map_map] at member
    obtain ⟨leaf, isLeaf, rfl⟩ := List.mem_map.mp member
    exact isWritten_constant writable leaf isLeaf
  case rootFields => exact isWritten_fieldDecls writable name member
  case structures =>
    obtain ⟨declaration, isDeclared, inside⟩ := List.mem_flatMap.mp member
    exact isWritten_structuresOf writable declaration isDeclared name inside
  case registrations =>
    obtain ⟨leaf, isLeaf, inside⟩ := List.mem_flatMap.mp member
    rcases List.mem_pair.mp inside with rfl | rfl
    · exact isWritten_handle writable leaf isLeaf
    · exact isWritten_constant writable leaf isLeaf
  case assembly => exact isWritten_assembliesOf writable name member
  case validations =>
    obtain ⟨validation, isValidation, inside⟩ := List.mem_flatMap.mp member
    obtain ⟨leaf, isLeaf, validated⟩ := List.mem_filterMap.mp isValidation
    exact isWritten_validation writable isLeaf validated name inside

/-- When all names can be written, only the options can be refused. -/
theorem synthesize_of_areWritable (writable : AreWritable forest.roots) :
    (∃ module, synthesize forest options = .ok module) ∨
      ∃ cause, checkOptions forest options = .error cause ∧
        synthesize forest options = .error (.error (.ofCause cause)) := by
  obtain ⟨parts, walked⟩ := Parts.exists_ofNodes writable
  cases checked : checkOptions forest options with
  | error cause =>
      refine .inr ⟨cause, rfl, ?_⟩
      rw [synthesize, checked]
      rfl
  | ok accepted =>
      exact .inl ⟨_, synthesize_eq_ok_iff.mpr ⟨accepted.1, accepted.2, parts, checked, walked, rfl⟩⟩

end Identifiers

variable {text : String} {declarations : List Declaration}

/-- The declarations of a file never stop the program.  Every configuration of them has names
that can all be written.  A module is made unless a declaration or an option is refused; it
writes the names as they have to be, and its structure of the whole configuration has no reserved
word for a name. -/
theorem ofDeclarations_writes_identifiers
    (read : Declaration.readTyped text = .ok declarations) (front : Option String)
    (options : Options) :
    (∀ forest, Forest.build declarations front = .ok forest → AreWritable forest.roots) ∧
      ((∃ module, ofDeclarations declarations front options = .ok module ∧
          module.root.text ∉ reservedWords ∧
          ∀ name ∈ module.identifiers, name = module.root ∨ name.IsWritten) ∨
        ∃ diagnostic, ofDeclarations declarations front options = .error (.error diagnostic) ∧
          (Forest.build declarations front = .error diagnostic ∨
            ∃ forest cause, Forest.build declarations front = .ok forest ∧
              checkOptions forest options = .error cause ∧ diagnostic = .ofCause cause)) := by
  have named := Declaration.isNameChar_of_readTyped read
  refine ⟨fun forest built => Forest.areWritable_of_build named built, ?_⟩
  cases built : Forest.build declarations front with
  | error diagnostic =>
      refine .inr ⟨diagnostic, ?_, .inl rfl⟩
      rw [ofDeclarations, built]
      rfl
  | ok forest =>
      have writable := Forest.areWritable_of_build named built
      have isSynthesis : ofDeclarations declarations front options = synthesize forest options := by
        rw [ofDeclarations, built]
        rfl
      rw [isSynthesis]
      rcases synthesize_of_areWritable writable with ⟨module, made⟩ | ⟨cause, refused, failed⟩
      · obtain ⟨runtime, root, checked, isModule⟩ := eq_describing_of_synthesize made
        obtain rfl : module.root = root := congrArg Module.root isModule
        have unreserved := Identifier.unreserved_of_read (of_checkOptions checked).1
        exact .inl ⟨module, made, unreserved, isWritten_of_synthesize writable made⟩
      · exact .inr ⟨_, failed, .inr ⟨forest, cause, rfl, refused, rfl⟩⟩

/-- A field and a section that are keywords, with a constant, a handle and a type for them. -/
def keywordDeclarations : List Declaration :=
  [⟨"TYPE", "1", .int 1, 1⟩, ⟨"FN__MAX.CRATE", "x", .string "x", 2⟩]

theorem ofDeclarations_writes_identifiers_keywordDeclarations :
    Declaration.readTyped "TYPE=1\nFN__MAX.CRATE=x\n" = .ok keywordDeclarations ∧
      (∀ forest, Forest.build keywordDeclarations none = .ok forest → AreWritable forest.roots) ∧
      ∃ module, ofDeclarations keywordDeclarations none .standard = .ok module ∧
        Identifier.mk "type" true ∈ module.identifiers ∧
        module.root.text ∉ reservedWords ∧
        ∀ name ∈ module.identifiers, name = module.root ∨ name.IsWritten := by
  have read : Declaration.readTyped "TYPE=1\nFN__MAX.CRATE=x\n" = .ok keywordDeclarations := by
    decide +kernel
  have isRaw : (ofDeclarations keywordDeclarations none .standard).toOption.any (fun module =>
      module.identifiers.contains (Identifier.mk "type" true)) = true := by decide +kernel
  obtain ⟨allWritable, made | failed⟩ := ofDeclarations_writes_identifiers read none .standard
  · obtain ⟨module, made, unreserved, written⟩ := made
    rw [made] at isRaw
    exact ⟨read, allWritable, module, made, List.contains_iff_mem.mp isRaw, unreserved, written⟩
  · obtain ⟨diagnostic, failed, -⟩ := failed
    rw [failed] at isRaw
    cases isRaw

end Module

end TypedEnv
