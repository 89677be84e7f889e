import TypedEnv.Proofs.Config.Building
import TypedEnv.Proofs.Module.Access

/-!
# Modules and configurations correspond

A module repeats its configuration several times: as constants, as
registrations, as structures, as the assembly of its settings, and as
validations.  `Module.Mirrors` says that all of them stay aligned.  Variables
keep the order of the forest, an assembly has the shape of the structures, and
the path of every variable leads to its own handle.  The structures refer to
each other by their names, so the path of every variable leads to its own field
exactly when no section has the name of the structure of the whole
configuration.  The check of the options prevents this for the text of the
options, but a blank before the name is enough to get past it.
-/

namespace TypedEnv

open Config Config.Node TypedEnv.Module
open Source (Identifier)

namespace Module

mutual

/-- The handles that an assembly reads, from left to right. -/
def Assembly.handles : Assembly → List Identifier
  | .read handle => [handle]
  | .record _ fields => Assembly.handlesOf fields

def Assembly.handlesOf : List (Identifier × Assembly) → List Identifier
  | [] => []
  | (_, assembly) :: rest => assembly.handles ++ Assembly.handlesOf rest

end

/-- The part of an assembly at a path of fields. -/
def Assembly.at? (assembly : Assembly) : List Identifier → Option Assembly
  | [] => some assembly
  | name :: rest =>
      match assembly with
      | .read _ => none
      | .record _ fields => (fields.lookup name).bind (·.at? rest)

mutual

/-- The records of an assembly, each before those inside it, with the names of its fields. -/
def Assembly.outlines : Assembly → List (Identifier × List Identifier)
  | .read _ => []
  | .record name fields => (name, fields.map Prod.fst) :: Assembly.outlinesOf fields

def Assembly.outlinesOf : List (Identifier × Assembly) → List (Identifier × List Identifier)
  | [] => []
  | (_, assembly) :: rest => assembly.outlines ++ Assembly.outlinesOf rest

end

def StructureDecl.outline (declaration : StructureDecl) : Identifier × List Identifier :=
  (declaration.name, declaration.fields.map FieldDecl.name)

mutual

/-- An assembly fits a type: a variable that is registered with a kind fits that kind, and a
record fits the structure that its name means. -/
inductive Assembly.Fits (declared : List StructureDecl) (registered : List Registration) :
    FieldType → Assembly → Prop where
  | read {registration : Registration} (member : registration ∈ registered) :
      Assembly.Fits declared registered (.value registration.kind) (.read registration.handle)
  | record {name : Identifier} {declaration : StructureDecl}
      {fields : List (Identifier × Assembly)}
      (meant : StructureDecl.named? declared name = some declaration)
      (inner : Assembly.FitsAll declared registered declaration.fields fields) :
      Assembly.Fits declared registered (.structure name) (.record name fields)

/-- The fields of a structure fit their declarations one by one. -/
inductive Assembly.FitsAll (declared : List StructureDecl) (registered : List Registration) :
    List FieldDecl → List (Identifier × Assembly) → Prop where
  | nil : Assembly.FitsAll declared registered [] []
  | cons {field : FieldDecl} {fields : List FieldDecl} {assembly : Assembly}
      {rest : List (Identifier × Assembly)}
      (first : Assembly.Fits declared registered field.type assembly)
      (others : Assembly.FitsAll declared registered fields rest) :
      Assembly.FitsAll declared registered (field :: fields) ((field.name, assembly) :: rest)

end

/-- The names of the structures of a module.  An identifier is the same name with and without
the mark of a raw one. -/
def structureNames (module : Module) : List String :=
  module.structures.map fun declaration => declaration.name.text

end Module

namespace Config.Node

mutual

theorem handles_assembly (node : Node) :
    node.assembly.handles = node.leaves.map Leaf.handle := by
  cases node with
  | leaf name field entry => rfl
  | group name field typeName children => exact handlesOf_assembliesOf children

/-- An assembly reads the handles of the variables, each at its turn. -/
theorem handlesOf_assembliesOf (nodes : List Node) :
    Assembly.handlesOf (assembliesOf nodes) = (leavesOf nodes).map Leaf.handle := by
  cases nodes with
  | nil => rfl
  | cons node rest =>
      rw [assembliesOf, Assembly.handlesOf, handles_assembly node, handlesOf_assembliesOf rest,
        leavesOf, List.map_append]

end

theorem assembliesOf_eq_map (nodes : List Node) :
    assembliesOf nodes = nodes.map fun node => (.named node.field, node.assembly) := by
  induction nodes with
  | nil => rfl
  | cons node rest induction => rw [assembliesOf, List.map_cons, induction]

/-- Neighbours are put together with the names of their fields. -/
theorem map_fst_assembliesOf (nodes : List Node) :
    (assembliesOf nodes).map Prod.fst = (nodes.map fieldDecl).map FieldDecl.name := by
  rw [assembliesOf_eq_map, List.map_map, List.map_map]
  exact List.map_congr_left fun node _ => (fieldDecl_name node).symm

mutual

theorem outlines_assembly (node : Node) :
    node.assembly.outlines = node.structures.map StructureDecl.outline := by
  cases node with
  | leaf name field entry => rfl
  | group name field typeName children =>
      rw [Node.assembly, Assembly.outlines, outlinesOf_assembliesOf children, Node.structures,
        List.map_cons, map_fst_assembliesOf]
      rfl

/-- An assembly has a record for every structure, with the same fields. -/
theorem outlinesOf_assembliesOf (nodes : List Node) :
    Assembly.outlinesOf (assembliesOf nodes) =
      (structuresOf nodes).map StructureDecl.outline := by
  cases nodes with
  | nil => rfl
  | cons node rest =>
      rw [assembliesOf, Assembly.outlinesOf, outlines_assembly node,
        outlinesOf_assembliesOf rest, structuresOf, List.map_append]

end

section Shape

variable {declared : List StructureDecl} {registered : List Registration}

mutual

theorem fits_assembly {node : Node}
    (distinct : (declared.map fun other => other.name.text).Nodup)
    (structuresDeclared : node.structures ⊆ declared)
    (leavesRegistered : node.leaves.map Leaf.registration ⊆ registered) :
    Assembly.Fits declared registered node.fieldDecl.type node.assembly := by
  cases node with
  | leaf name field entry =>
      have member : entry.registration ∈ registered := leavesRegistered (by simp [leaves])
      exact .read member
  | group name field typeName children =>
      rw [Node.structures, List.cons_subset] at structuresDeclared
      obtain ⟨member, innerDeclared⟩ := structuresDeclared
      exact .record (StructureDecl.named?_of_mem distinct member)
        (fitsAll_assembliesOf distinct innerDeclared leavesRegistered)

/-- The assemblies of neighbours fit their fields when the structures have different names, and
those below are declared and the variables registered. -/
theorem fitsAll_assembliesOf {nodes : List Node}
    (distinct : (declared.map fun other => other.name.text).Nodup)
    (structuresDeclared : structuresOf nodes ⊆ declared)
    (leavesRegistered : (leavesOf nodes).map Leaf.registration ⊆ registered) :
    Assembly.FitsAll declared registered (nodes.map fieldDecl) (assembliesOf nodes) := by
  cases nodes with
  | nil => exact .nil
  | cons node rest =>
      rw [structuresOf, List.append_subset] at structuresDeclared
      rw [leavesOf, List.map_append, List.append_subset] at leavesRegistered
      have first := fits_assembly distinct structuresDeclared.1 leavesRegistered.1
      have others := fitsAll_assembliesOf distinct structuresDeclared.2 leavesRegistered.2
      rw [List.map_cons, assembliesOf, ← fieldDecl_name]
      exact .cons first others

end

end Shape

section Reading

variable {above : List String} {owner : Identifier} {nodes : List Node} {path : List String}
  {entry : Leaf} {slot : Slot} {declared : List StructureDecl}

/-- The neighbours of a node do not hide how its value is put together. -/
theorem lookup_assembliesOf {node : Node} {field : String} (placed : WellPlacedList above nodes)
    (member : node ∈ nodes) (same : node.field = field) :
    (assembliesOf nodes).lookup (.named field) = some node.assembly := by
  have distinct : (nodes.map fun node => Identifier.named node.field).Nodup := by
    have names := placed.fields_nodup.map Identifier.named_injective
    rwa [List.map_map] at names
  rw [assembliesOf_eq_map, ← same]
  exact lookup_map_of_mem distinct member

/-- An assembly has the handle of a variable at the end of its path. -/
theorem Located.at? (located : Located owner nodes path entry slot)
    (placed : WellPlacedList above nodes) (name : Identifier) :
    (Assembly.record name (assembliesOf nodes)).at? (path.map .named) =
      some (.read entry.handle) := by
  induction located generalizing above name with
  | @here owner nodes known field entry member =>
      have found : (assembliesOf nodes).lookup (.named field) = some (.read entry.handle) :=
        lookup_assembliesOf placed member rfl
      rw [List.map_cons, Assembly.at?, found, Option.bind_some]
      rfl
  | @inside owner nodes children known field typeName path entry slot member inner induction =>
      have found : (assembliesOf nodes).lookup (.named field) =
          some (.record (.plain typeName) (assembliesOf children)) :=
        lookup_assembliesOf placed member rfl
      rw [List.map_cons, Assembly.at?, found, Option.bind_some]
      exact induction (placed.children member) _

end Reading

mutual

theorem map_text_structures (node : Node) :
    (node.structures.map fun declaration => declaration.name.text) = node.typeNames := by
  cases node with
  | leaf name field entry => rfl
  | group name field typeName children =>
      rw [Node.structures, List.map_cons, map_text_structuresOf children]
      rfl

/-- There is a structure for the type of every group. -/
theorem map_text_structuresOf (nodes : List Node) :
    ((structuresOf nodes).map fun declaration => declaration.name.text) = typeNamesOf nodes := by
  cases nodes with
  | nil => rfl
  | cons node rest =>
      rw [structuresOf, List.map_append, map_text_structures node, map_text_structuresOf rest,
        typeNamesOf]

end

mutual

theorem length_structures (node : Node) : node.structures.length = node.groupCount := by
  cases node with
  | leaf name field entry => rfl
  | group name field typeName children =>
      rw [Node.structures, List.length_cons, length_structuresOf children, groupCount]

theorem length_structuresOf (nodes : List Node) :
    (structuresOf nodes).length = groupCountOf nodes := by
  cases nodes with
  | nil => rfl
  | cons node rest =>
      rw [structuresOf, List.length_append, length_structures node, length_structuresOf rest,
        groupCountOf]

end

end Config.Node

namespace Config.Leaf

/-- A variable has to be set unless its value is a truth value. -/
def hasToBeSet (leaf : Leaf) : Bool :=
  leaf.default.kind != .bool

/-- A validation is for a variable when it tests the value at its path by its kind, and fails for
its constant. -/
structure ValidatedBy (leaf : Leaf) (validation : Validation) : Prop where
  path : validation.path = leaf.accessPath
  test : EmptyTest.ofKind? leaf.default.kind = some validation.test
  constant : validation.constant = leaf.constant.name

theorem hasToBeSet_eq_isSome (leaf : Leaf) :
    leaf.hasToBeSet = (EmptyTest.ofKind? leaf.default.kind).isSome := by
  rw [hasToBeSet]
  cases leaf.default.kind <;> rfl

/-- Exactly the variables that have to be set are validated. -/
theorem validatedBy_filterMap (leaves : List Leaf) :
    List.Forall₂ ValidatedBy (leaves.filter hasToBeSet) (leaves.filterMap validation?) := by
  induction leaves with
  | nil => exact .nil
  | cons leaf rest induction =>
      cases tested : EmptyTest.ofKind? leaf.default.kind with
      | none =>
          have exempt : ¬leaf.hasToBeSet = true := by simp [hasToBeSet_eq_isSome, tested]
          rw [List.filter_cons_of_neg exempt,
            List.filterMap_cons_none (by simp [validation?, tested])]
          exact induction
      | some test =>
          have obliged : leaf.hasToBeSet = true := by simp [hasToBeSet_eq_isSome, tested]
          rw [List.filter_cons_of_pos obliged,
            List.filterMap_cons_some (b := ⟨leaf.accessPath, test, .plain leaf.constName⟩)
              (by simp [validation?, tested])]
          exact .cons ⟨rfl, tested, rfl⟩ induction

end Config.Leaf

namespace Module

/-- What a module shares with the configuration that it was made for, and when its structures
lead from each variable to its field. -/
structure Mirrors (module : Module) (forest : Forest) (options : Options) : Prop where
  constants : module.constants = forest.leaves.map Leaf.constant
  registrations : module.registrations = forest.leaves.map Leaf.registration
  validations :
    List.Forall₂ Leaf.ValidatedBy (forest.leaves.filter Leaf.hasToBeSet) module.validations
  structures : module.structures =
    ⟨module.root, forest.roots.map fieldDecl⟩ :: structuresOf forest.roots
  outlines : module.assembly.outlines = module.structures.map StructureDecl.outline
  handles : module.assembly.handles = forest.leaves.map Leaf.handle
  handles_nodup : module.assembly.handles.Nodup
  handle_at_path : ∀ leaf ∈ forest.leaves,
    module.assembly.at? leaf.accessPath = some (.read leaf.handle)
  slots : (slotsOf module.root forest.roots).map Prod.fst = forest.leaves
  root : Identifier.read options.root = .ok module.root
  root_apart : module.root.text = options.root → module.root.text ∉ forest.typeNames
  shape_iff : module.assembly.Fits module.structures module.registrations
      (.structure module.root) ↔ module.root.text ∉ forest.typeNames
  slot_at_path_iff : ∀ entry ∈ slotsOf module.root forest.roots,
    module.slot? entry.1.accessPath = some entry.2 ↔
      ¬ Enters module.root.text forest.roots entry.1.path
  entered_iff : (∃ leaf ∈ forest.leaves, Enters module.root.text forest.roots leaf.path) ↔
    module.root.text ∈ forest.typeNames
  counters : module.counters =
    { constants := forest.leaves.length
      fields := forest.leaves.length
      structures := forest.groupCount + 1
      registrations := forest.leaves.length
      validations := (forest.leaves.filter Leaf.hasToBeSet).length }

mutual

theorem findType?_eq_none_iff {taken : String → Bool} {node : Node} :
    findType? taken node = none ↔ ∀ typeName ∈ node.typeNames, taken typeName = false := by
  cases node with
  | leaf name field entry => simp [findType?, Node.typeNames]
  | group name field typeName children =>
      rw [findType?, Node.typeNames, List.forall_mem_cons, ← findTypeIn?_eq_none_iff]
      split
      · next isTaken => simp [isTaken]
      · next notTaken => simp [notTaken]

/-- No group is found exactly when the type of none is taken. -/
theorem findTypeIn?_eq_none_iff {taken : String → Bool} {nodes : List Node} :
    findTypeIn? taken nodes = none ↔ ∀ typeName ∈ typeNamesOf nodes, taken typeName = false := by
  cases nodes with
  | nil => simp [findTypeIn?, typeNamesOf]
  | cons node rest =>
      rw [findTypeIn?, Option.or_eq_none_iff, findType?_eq_none_iff, findTypeIn?_eq_none_iff,
        typeNamesOf, List.forall_mem_append]

end

variable {declarations : List Declaration} {front : Option String} {forest : Forest}
  {options : Options} {module : Module} {root : Identifier}

/-- What the check of the options finds out about names. -/
theorem of_checkOptions {runtime : Source.Path} {root : Identifier}
    (checked : checkOptions forest options = .ok (runtime, root)) :
    Identifier.read options.root = .ok root ∧ options.root ∉ importedNames ∧
      options.root ∉ forest.typeNames ∧
      ∀ typeName ∈ forest.typeNames, typeName ∉ importedNames := by
  obtain ⟨path, -, checked⟩ := bind_eq_ok_iff.mp checked
  obtain ⟨name, nameRead, checked⟩ := bind_eq_ok_iff.mp checked
  split at checked
  · cases checked
  · next notImported =>
      dsimp only at checked
      split at checked
      · cases checked
      · next noneTaken =>
          cases checked
          have free := findTypeIn?_eq_none_iff.mp noneTaken
          refine ⟨mapError_eq_ok_iff.mp nameRead, by simpa using notImported, ?_, ?_⟩
          · intro isType
            simpa using free options.root isType
          · intro typeName isType isImported
            simpa [isImported] using free typeName isType

/-- The module for a forest is described by the forest and by what its options are read as. -/
theorem eq_describing_of_synthesize (made : synthesize forest options = .ok module) :
    ∃ runtime root, checkOptions forest options = .ok (runtime, root) ∧
      module =
        { runtime, root
          constants := forest.leaves.map Leaf.constant
          structures := ⟨root, forest.roots.map fieldDecl⟩ :: structuresOf forest.roots
          registrations := forest.leaves.map Leaf.registration
          assembly := .record root (assembliesOf forest.roots)
          validations := forest.leaves.filterMap Leaf.validation?
          fieldCount := forest.leaves.length } := by
  obtain ⟨runtime, root, parts, checked, walked, rfl⟩ := synthesize_eq_ok_iff.mp made
  obtain rfl := Parts.eq_describing_of_ofNodes walked
  exact ⟨runtime, root, checked, rfl⟩

open Forest in
theorem exists_module_interleaved :
    ∃ module, synthesize interleavedForest .standard = .ok module := by
  have succeeds : (synthesize interleavedForest .standard).toOption.isSome := by decide +kernel
  cases made : synthesize interleavedForest .standard with
  | error failure => rw [made] at succeeds; cases succeeds
  | ok module => exact ⟨module, rfl⟩

/-- The configuration of `DB__HOST=x`. -/
def databaseForest : Forest :=
  ⟨[.group "Db" "db" "Db"
      [.leaf "Host" "host" ⟨"DB__HOST", "DB_HOST_ENV_NAME", ["db", "host"], .string "x", 1⟩]]⟩

/-- A blank before the name of the root is enough to get past the check of the options. -/
theorem exists_module_blankRoot :
    ∃ declarations module,
      Declaration.readTyped "DB__HOST=x" = .ok declarations ∧
      Forest.build declarations none = .ok databaseForest ∧
      synthesize databaseForest ⟨"envgen_runtime", " Db"⟩ = .ok module ∧
      module.root.text = "Db" := by
  have read : Declaration.readTyped "DB__HOST=x" =
      .ok [⟨"DB__HOST", "x", .string "x", 1⟩] := by decide +kernel
  have built : Forest.build [⟨"DB__HOST", "x", .string "x", 1⟩] none = .ok databaseForest := rfl
  have named : (synthesize databaseForest ⟨"envgen_runtime", " Db"⟩).toOption.any
      (·.root.text == "Db") = true := by decide +kernel
  cases made : synthesize databaseForest ⟨"envgen_runtime", " Db"⟩ with
  | error failure => rw [made] at named; cases named
  | ok module =>
      rw [made] at named
      exact ⟨_, module, read, built, rfl, by simpa [Except.toOption] using named⟩

/-- The structures of a module are those of the root and of the sections. -/
theorem structureNames_of_synthesize (made : synthesize forest options = .ok module) :
    module.structureNames = module.root.text :: forest.typeNames := by
  obtain ⟨runtime, root, -, rfl⟩ := eq_describing_of_synthesize made
  exact congrArg (root.text :: ·) (map_text_structuresOf forest.roots)

theorem handles_nodup_of_build (built : Forest.build declarations front = .ok forest) :
    (forest.leaves.map Leaf.handle).Nodup := by
  have distinct := (Forest.handleNames_nodup_of_build built).map Identifier.plain_injective
  rwa [List.map_map] at distinct

theorem located_of_build (built : Forest.build declarations front = .ok forest)
    {owner : Identifier} {entry : Leaf} {slot : Slot}
    (member : (entry, slot) ∈ slotsOf owner forest.roots) :
    Located owner forest.roots entry.path entry slot := by
  obtain ⟨path, equality, located⟩ :=
    located_of_mem_slotsOf (Forest.wellPlaced_of_build built) member
  rw [List.nil_append] at equality
  rwa [equality]

section Structures

variable (forest root) in
/-- The structures of the whole configuration and of its groups. -/
def allStructures : List StructureDecl :=
  ⟨root, forest.roots.map fieldDecl⟩ :: structuresOf forest.roots

variable {registered : List Registration}

theorem allStructures_distinct (types : forest.typeNames.Nodup)
    (apart : root.text ∉ forest.typeNames) :
    ((allStructures forest root).map fun other => other.name.text).Nodup := by
  rw [allStructures, List.map_cons, map_text_structuresOf]
  exact List.nodup_cons.mpr ⟨apart, types⟩

theorem named?_root_eq_none (taken : root.text ∈ forest.typeNames) {name : Identifier}
    (same : root.text = name.text) :
    StructureDecl.named? (allStructures forest root) name = none := by
  rw [Forest.typeNames, ← map_text_structuresOf, same] at taken
  exact StructureDecl.named?_eq_none_of_again same taken

/-- The assembly of a whole configuration fits exactly when no section has its name. -/
theorem fits_iff (types : forest.typeNames.Nodup)
    (registrations : forest.leaves.map Leaf.registration ⊆ registered) :
    Assembly.Fits (allStructures forest root) registered (.structure root)
        (.record root (assembliesOf forest.roots)) ↔ root.text ∉ forest.typeNames := by
  constructor
  · intro fits taken
    cases fits with
    | record meant inner =>
        rw [named?_root_eq_none taken rfl] at meant
        cases meant
  · intro apart
    have distinct := allStructures_distinct types apart
    refine .record (StructureDecl.named?_of_mem distinct List.mem_cons_self) ?_
    exact fitsAll_assembliesOf distinct (List.subset_cons_self _ _) registrations

/-- The path of a variable ends at its own field unless it enters a section that has the name of
the whole configuration. -/
theorem slot_at_path_iff_of_build (built : Forest.build declarations front = .ok forest)
    {entry : Leaf × Slot} (isSlot : entry ∈ slotsOf root forest.roots) :
    StructureDecl.slot? (allStructures forest root) ⟨root, forest.roots.map fieldDecl⟩
        entry.1.accessPath = some entry.2 ↔ ¬ Enters root.text forest.roots entry.1.path := by
  have placed := Forest.wellPlaced_of_build built
  constructor
  · intro endsAtField enters
    have known : structuresOf forest.roots ⊆ allStructures forest root :=
      List.subset_cons_self _ _
    have meaningless := named?_root_eq_none enters.mem_typeNamesOf rfl
    rw [Leaf.accessPath, enters.slot?_eq_none placed known meaningless] at endsAtField
    cases endsAtField
  · intro avoids
    refine (located_of_build built isSlot).slot?_of_not_enters placed ?_ avoids
    intro declaration isDeclared
    by_cases isRoot : declaration.name.text = root.text
    · exact .inl isRoot
    · have types := Forest.typeNames_nodup_of_build built
      rw [Forest.typeNames, ← map_text_structuresOf] at types
      refine .inr ?_
      rw [allStructures, StructureDecl.named?_cons_of_ne (Ne.symm isRoot)]
      exact StructureDecl.named?_of_mem types isDeclared

/-- The path of some variable enters the section that has the name of the whole configuration, if
there is one. -/
theorem entered_iff_of_build (built : Forest.build declarations front = .ok forest)
    {typeName : String} : (∃ leaf ∈ forest.leaves, Enters typeName forest.roots leaf.path) ↔
      typeName ∈ forest.typeNames := by
  constructor
  · rintro ⟨leaf, -, enters⟩
    exact enters.mem_typeNamesOf
  · intro isType
    obtain ⟨leaf, isLeaf, path, samePath, enters⟩ :=
      exists_enters_of_mem_typeNamesOf (Forest.wellPlaced_of_build built) isType
    rw [List.nil_append] at samePath
    exact ⟨leaf, isLeaf, samePath ▸ enters⟩

end Structures

/-- Every module mirrors the configuration that it was made for. -/
theorem mirrors_of_synthesize (built : Forest.build declarations front = .ok forest)
    (made : synthesize forest options = .ok module) : module.Mirrors forest options := by
  obtain ⟨runtime, root, checked, rfl⟩ := eq_describing_of_synthesize made
  obtain ⟨rootRead, -, apart, -⟩ := of_checkOptions checked
  have types := Forest.typeNames_nodup_of_build built
  have outlines : Assembly.outlines (.record root (assembliesOf forest.roots)) =
      (allStructures forest root).map StructureDecl.outline := by
    rw [Assembly.outlines, outlinesOf_assembliesOf, map_fst_assembliesOf]
    rfl
  have handles : Assembly.handles (.record root (assembliesOf forest.roots)) =
      forest.leaves.map Leaf.handle := handlesOf_assembliesOf forest.roots
  have slots : (slotsOf root forest.roots).map Prod.fst = forest.leaves :=
    map_fst_slotsOf root forest.roots
  have validated := Leaf.validatedBy_filterMap forest.leaves
  refine ⟨rfl, rfl, validated, rfl, outlines, handles, ?nodup, ?handleAtPath, slots, rootRead,
    ?apart, fits_iff types (List.Subset.refl _), fun entry => slot_at_path_iff_of_build built,
    entered_iff_of_build built, ?counters⟩
  case nodup =>
    rw [handles]
    exact handles_nodup_of_build built
  case handleAtPath =>
    intro leaf member
    rw [← slots] at member
    obtain ⟨⟨entry, slot⟩, atSlot, rfl⟩ := List.mem_map.mp member
    exact (located_of_build built atSlot).at? (Forest.wellPlaced_of_build built) root
  case apart =>
    intro sameText
    rwa [sameText]
  case counters =>
    have validations := validated.length_eq
    have groups := length_structuresOf forest.roots
    simp only [counters, List.length_map, List.length_cons, groups, Forest.groupCount, validations]

open Forest in
theorem mirrors_of_synthesize_interleaved :
    ∃ module, synthesize interleavedForest .standard = .ok module ∧
      module.Mirrors interleavedForest .standard := by
  have built : build interleaved (some "P") = .ok interleavedForest := rfl
  obtain ⟨module, made⟩ := exists_module_interleaved
  exact ⟨module, made, mirrors_of_synthesize built made⟩

/-- Behind a blank, the name of the section is the name of two structures, and the path of its
variable leads nowhere. -/
theorem slot?_blankRoot :
    ∃ declarations module,
      Declaration.readTyped "DB__HOST=x" = .ok declarations ∧
      Forest.build declarations none = .ok databaseForest ∧
      synthesize databaseForest ⟨"envgen_runtime", " Db"⟩ = .ok module ∧
      ∃ validation ∈ module.validations, module.slot? validation.path = none := by
  obtain ⟨declarations, module, read, built, made, rootText⟩ := exists_module_blankRoot
  refine ⟨declarations, module, read, built, made, ?_⟩
  obtain ⟨runtime, root, -, rfl⟩ := eq_describing_of_synthesize made
  have enters : Enters "Db" databaseForest.roots ["db", "host"] :=
    .here List.mem_cons_self (by simp)
  have taken : root.text ∈ databaseForest.typeNames := by
    rw [rootText]
    exact enters.mem_typeNamesOf
  have meaningless : StructureDecl.named? (allStructures databaseForest root) (.plain "Db") =
      none :=
    named?_root_eq_none taken rootText
  refine ⟨⟨["db", "host"].map .named, .isEmptyText, .plain "DB_HOST_ENV_NAME"⟩,
    List.mem_cons_self, ?_⟩
  exact enters.slot?_eq_none (Forest.wellPlaced_of_build built) (List.subset_cons_self _ _)
    meaningless

end Module

end TypedEnv
