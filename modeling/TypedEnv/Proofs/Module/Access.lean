import TypedEnv.Proofs.Config.Room
import TypedEnv.Proofs.Lookup
import TypedEnv.Proofs.Module.Parts

/-!
# Paths through structures

The path of a variable is read through the structures of a module: it goes from
field to field, and the type of a field that is no value names the structure in
which it goes on.  A name that several declarations share leads nowhere.  A
path therefore ends at the field of its variable unless it enters a group whose
type is such a name.
-/

namespace TypedEnv

open Config Config.Node
open Source (Identifier)

/-- A field together with the structure that declares it. -/
structure Module.Slot where
  owner : Identifier
  field : Module.FieldDecl

open TypedEnv.Module

namespace Config.Node

mutual

/-- The variables at and below a node of a structure, each with its own field. -/
def slots (owner : Identifier) : Node → List (Leaf × Slot)
  | .leaf name field entry => [(entry, ⟨owner, fieldDecl (.leaf name field entry)⟩)]
  | .group _ _ typeName children => slotsOf (.plain typeName) children

/-- The variables at and below some nodes of a structure, each with its own field. -/
def slotsOf (owner : Identifier) : List Node → List (Leaf × Slot)
  | [] => []
  | node :: rest => node.slots owner ++ slotsOf owner rest

end

/-- A path of fields leads from the nodes of a structure down to a variable and its field. -/
inductive Located : Identifier → List Node → List String → Leaf → Slot → Prop where
  | here {owner : Identifier} {nodes : List Node} {name field : String} {entry : Leaf}
      (member : .leaf name field entry ∈ nodes) :
      Located owner nodes [field] entry ⟨owner, fieldDecl (.leaf name field entry)⟩
  | inside {owner : Identifier} {nodes children : List Node} {name field typeName : String}
      {path : List String} {entry : Leaf} {slot : Slot}
      (member : .group name field typeName children ∈ nodes)
      (inner : Located (.plain typeName) children path entry slot) :
      Located owner nodes (field :: path) entry slot

theorem Located.mono {owner : Identifier} {nodes others : List Node} {path : List String}
    {entry : Leaf} {slot : Slot} (located : Located owner nodes path entry slot)
    (included : nodes ⊆ others) : Located owner others path entry slot := by
  cases located with
  | here member => exact .here (included member)
  | inside member inner => exact .inside (included member) inner

mutual

theorem located_of_mem_slots {owner : Identifier} {above : List String} {node : Node}
    {entry : Leaf} {slot : Slot} (placed : node.WellPlaced above)
    (member : (entry, slot) ∈ node.slots owner) :
    ∃ path, entry.path = above ++ path ∧ Located owner [node] path entry slot := by
  cases node with
  | leaf name field known =>
      rw [slots, List.mem_singleton] at member
      cases member
      exact ⟨[field], placed, .here (List.mem_singleton_self _)⟩
  | group name field typeName children =>
      rw [slots] at member
      obtain ⟨path, equality, located⟩ := located_of_mem_slotsOf placed.2 member
      refine ⟨field :: path, ?_, .inside (List.mem_singleton_self _) located⟩
      rw [equality, List.append_assoc, List.singleton_append]

/-- In a well placed list the path of a variable leads to it. -/
theorem located_of_mem_slotsOf {owner : Identifier} {above : List String} {nodes : List Node}
    {entry : Leaf} {slot : Slot} (placed : WellPlacedList above nodes)
    (member : (entry, slot) ∈ slotsOf owner nodes) :
    ∃ path, entry.path = above ++ path ∧ Located owner nodes path entry slot := by
  cases nodes with
  | nil => cases member
  | cons node rest =>
      obtain ⟨-, nodePlaced, restPlaced⟩ := placed
      rw [slotsOf, List.mem_append] at member
      rcases member with atNode | inRest
      · obtain ⟨path, equality, located⟩ := located_of_mem_slots nodePlaced atNode
        exact ⟨path, equality, located.mono (by simp)⟩
      · obtain ⟨path, equality, located⟩ := located_of_mem_slotsOf restPlaced inRest
        exact ⟨path, equality, located.mono (List.subset_cons_self node rest)⟩

end

mutual

theorem map_fst_slots (owner : Identifier) (node : Node) :
    (node.slots owner).map Prod.fst = node.leaves := by
  cases node with
  | leaf name field entry => rfl
  | group name field typeName children => exact map_fst_slotsOf (.plain typeName) children

theorem map_fst_slotsOf (owner : Identifier) (nodes : List Node) :
    (slotsOf owner nodes).map Prod.fst = leavesOf nodes := by
  cases nodes with
  | nil => rfl
  | cons node rest =>
      rw [slotsOf, List.map_append, map_fst_slots owner node, map_fst_slotsOf owner rest, leavesOf]

end

theorem WellPlacedList.fields_nodup {above : List String} {nodes : List Node}
    (placed : WellPlacedList above nodes) : (nodes.map Node.field).Nodup := by
  induction nodes with
  | nil => exact .nil
  | cons node rest induction =>
      obtain ⟨fresh, -, restPlaced⟩ := placed
      refine List.nodup_cons.mpr ⟨?_, induction restPlaced⟩
      intro member
      obtain ⟨other, inRest, same⟩ := List.mem_map.mp member
      exact fresh other inRest same

theorem fieldDecl_name (node : Node) : node.fieldDecl.name = .named node.field := by
  cases node <;> rfl

theorem WellPlacedList.children {above : List String} {nodes children : List Node}
    {name field typeName : String} (placed : WellPlacedList above nodes)
    (member : .group name field typeName children ∈ nodes) :
    WellPlacedList (above ++ [field]) children := by
  obtain ⟨before, after, rfl⟩ := List.append_of_mem member
  obtain ⟨-, ⟨-, ⟨-, childrenPlaced⟩, -⟩, -⟩ := wellPlacedList_append.mp placed
  exact childrenPlaced

end Config.Node

namespace Module

/-- The structure of a name, if exactly one declaration has this name.  An identifier is the same
name with and without the mark of a raw one. -/
def StructureDecl.named? (declared : List StructureDecl) (name : Identifier) :
    Option StructureDecl :=
  match declared.filter (·.name.text == name.text) with
  | [declaration] => some declaration
  | _ => none

/-- The field that a path reaches from a structure, when the types of fields are declared
structures. -/
def StructureDecl.slot? (declared : List StructureDecl) (start : StructureDecl) :
    List Identifier → Option Slot
  | [] => none
  | name :: rest =>
      match start.fields.find? (·.name == name), rest with
      | none, _ => none
      | some field, [] => some ⟨start.name, field⟩
      | some field, _ :: _ =>
          match field.type with
          | .value _ => none
          | .structure type => (named? declared type).bind fun next => next.slot? declared rest

/-- The field of a module that a path reaches from the structure of the whole configuration. -/
def slot? (module : Module) (path : List Identifier) : Option Slot :=
  match module.structures with
  | [] => none
  | whole :: _ => whole.slot? module.structures path

namespace StructureDecl

variable {declared groups : List StructureDecl} {whole declaration other : StructureDecl}
  {name : Identifier}

theorem named?_of_mem (distinct : (declared.map fun other => other.name.text).Nodup)
    (member : declaration ∈ declared) :
    named? declared declaration.name = some declaration := by
  rw [named?, filter_eq_singleton_of_mem distinct member]

/-- A name that means a declaration is the name of no other one. -/
theorem eq_of_named? (found : named? declared name = some declaration)
    (member : other ∈ declared) (same : other.name.text = name.text) : other = declaration := by
  have isNamed : other ∈ declared.filter (·.name.text == name.text) :=
    List.mem_filter.mpr ⟨member, by simpa using same⟩
  rw [named?] at found
  split at found
  · next only isOnly =>
      cases found
      rw [isOnly] at isNamed
      exact List.mem_singleton.mp isNamed
  · cases found

theorem named?_cons_of_ne (different : whole.name.text ≠ name.text) :
    named? (whole :: groups) name = named? groups name := by
  rw [named?, List.filter_cons_of_neg (by simpa using different), named?]

/-- A name that a later declaration has again means nothing. -/
theorem named?_eq_none_of_again (first : whole.name.text = name.text)
    (again : name.text ∈ groups.map fun other => other.name.text) :
    named? (whole :: groups) name = none := by
  obtain ⟨other, isGroup, same⟩ := List.mem_map.mp again
  have inRest : other ∈ groups.filter (·.name.text == name.text) :=
    List.mem_filter.mpr ⟨isGroup, by simpa using same⟩
  rw [named?, List.filter_cons_of_pos (by simpa using first)]
  split
  · next only isOnly =>
      obtain ⟨-, noOther⟩ := List.cons.inj isOnly
      rw [noOther] at inRest
      cases inRest
  · rfl

end StructureDecl

end Module

namespace Config.Node

section Reading

variable {above : List String} {owner : Identifier} {nodes children : List Node}
  {path : List String} {entry : Leaf} {slot : Slot} {declared : List StructureDecl}

theorem structures_subset {node : Node} (member : node ∈ nodes) :
    node.structures ⊆ structuresOf nodes := by
  induction nodes with
  | nil => cases member
  | cons first rest induction =>
      rw [structuresOf]
      rcases List.mem_cons.mp member with rfl | inRest
      · exact List.subset_append_left _ _
      · exact List.subset_append_of_subset_right _ (induction inRest)

theorem find?_fieldDecl {node : Node} {field : String} (placed : WellPlacedList above nodes)
    (member : node ∈ nodes) (same : node.field = field) :
    (nodes.map fieldDecl).find? (·.name == .named field) = some node.fieldDecl := by
  have names : (nodes.map fieldDecl).map FieldDecl.name = (nodes.map Node.field).map .named := by
    simp [fieldDecl_name]
  have distinct : ((nodes.map fieldDecl).map FieldDecl.name).Nodup := by
    rw [names]
    exact placed.fields_nodup.map Identifier.named_injective
  rw [← same, ← fieldDecl_name]
  exact find?_eq_some_of_mem distinct (List.mem_map_of_mem member)

theorem Located.path_ne_nil (located : Located owner nodes path entry slot) : path ≠ [] := by
  cases located <;> simp

/-- A path goes on in the structure that the type of a group means. -/
theorem slot?_of_group {name field typeName : String} {rest : List Identifier}
    (placed : WellPlacedList above nodes)
    (member : .group name field typeName children ∈ nodes) (goesOn : rest ≠ []) :
    StructureDecl.slot? declared ⟨owner, nodes.map fieldDecl⟩ (.named field :: rest) =
      (StructureDecl.named? declared (.plain typeName)).bind fun next =>
        next.slot? declared rest := by
  have found : (nodes.map fieldDecl).find? (·.name == .named field) =
      some ⟨.named field, .structure (.plain typeName)⟩ :=
    find?_fieldDecl placed member rfl
  obtain ⟨name, others, rfl⟩ := List.exists_cons_of_ne_nil goesOn
  simp only [StructureDecl.slot?, found]

end Reading

section Entering

variable {typeName : String} {above : List String} {owner : Identifier}
  {nodes others : List Node} {path : List String} {declared : List StructureDecl}

/-- On its way through some nodes a path enters a group of a type. -/
inductive Enters (typeName : String) : List Node → List String → Prop where
  | here {nodes children : List Node} {name field : String} {path : List String}
      (member : .group name field typeName children ∈ nodes) (goesOn : path ≠ []) :
      Enters typeName nodes (field :: path)
  | inside {nodes children : List Node} {name field other : String} {path : List String}
      (member : .group name field other children ∈ nodes) (inner : Enters typeName children path) :
      Enters typeName nodes (field :: path)

theorem Enters.mono (enters : Enters typeName nodes path) (included : nodes ⊆ others) :
    Enters typeName others path := by
  cases enters with
  | here member goesOn => exact .here (included member) goesOn
  | inside member inner => exact .inside (included member) inner

theorem Enters.path_ne_nil (enters : Enters typeName nodes path) : path ≠ [] := by
  cases enters <;> simp

/-- A path ends nowhere when it enters a group whose type means no structure. -/
theorem Enters.slot?_eq_none (enters : Enters typeName nodes path)
    (placed : WellPlacedList above nodes) (known : structuresOf nodes ⊆ declared)
    (meaningless : StructureDecl.named? declared (.plain typeName) = none) :
    StructureDecl.slot? declared ⟨owner, nodes.map fieldDecl⟩ (path.map .named) = none := by
  induction enters generalizing above owner with
  | @here nodes children name field path member goesOn =>
      have onward : path.map Identifier.named ≠ [] := by simpa using goesOn
      rw [List.map_cons, slot?_of_group placed member onward, meaningless, Option.bind_none]
  | @inside nodes children name field other path member inner induction =>
      have onward : path.map Identifier.named ≠ [] := by simpa using inner.path_ne_nil
      rw [List.map_cons, slot?_of_group placed member onward]
      cases opened : StructureDecl.named? declared (.plain other) with
      | none => rfl
      | some next =>
          have isDeclared := known (structures_subset member List.mem_cons_self)
          obtain rfl := StructureDecl.eq_of_named? opened isDeclared rfl
          have childrenKnown : structuresOf children ⊆ declared :=
            fun _ below => known (structures_subset member (List.mem_cons_of_mem _ below))
          rw [Option.bind_some]
          exact induction (placed.children member) childrenKnown

/-- The path of a variable ends at its own field when it enters no group of a type, and all other
types mean the structures of their groups. -/
theorem Located.slot?_of_not_enters {entry : Leaf} {slot : Slot}
    (located : Located owner nodes path entry slot) (placed : WellPlacedList above nodes)
    (known : ∀ declaration ∈ structuresOf nodes, declaration.name.text = typeName ∨
      StructureDecl.named? declared declaration.name = some declaration)
    (avoids : ¬ Enters typeName nodes path) :
    StructureDecl.slot? declared ⟨owner, nodes.map fieldDecl⟩ (path.map .named) =
      some slot := by
  induction located generalizing above with
  | @here owner nodes name field entry member =>
      have found : (nodes.map fieldDecl).find? (·.name == .named field) =
          some (fieldDecl (.leaf name field entry)) :=
        find?_fieldDecl placed member rfl
      simp only [List.map_cons, List.map_nil, StructureDecl.slot?, found]
  | @inside owner nodes children name field other path entry slot member inner induction =>
      have onward : path.map Identifier.named ≠ [] := by simpa using inner.path_ne_nil
      have childrenKnown : ∀ declaration ∈ structuresOf children,
          declaration.name.text = typeName ∨
            StructureDecl.named? declared declaration.name = some declaration :=
        fun declaration below =>
          known declaration (structures_subset member (List.mem_cons_of_mem _ below))
      rw [List.map_cons, slot?_of_group placed member onward]
      rcases known _ (structures_subset member List.mem_cons_self) with isType | opened
      · obtain rfl : other = typeName := isType
        exact absurd (.here member inner.path_ne_nil) avoids
      · rw [opened, Option.bind_some]
        exact induction (placed.children member) childrenKnown fun enters =>
          avoids (.inside member enters)

theorem mem_typeNamesOf_of_mem {node : Node} (member : node ∈ nodes)
    (isType : typeName ∈ node.typeNames) : typeName ∈ typeNamesOf nodes := by
  obtain ⟨before, after, rfl⟩ := List.append_of_mem member
  rw [typeNamesOf_append, typeNamesOf]
  exact List.mem_append_right _ (List.mem_append_left _ isType)

theorem Enters.mem_typeNamesOf (enters : Enters typeName nodes path) :
    typeName ∈ typeNamesOf nodes := by
  induction enters with
  | here member goesOn => exact mem_typeNamesOf_of_mem member List.mem_cons_self
  | inside member inner induction =>
      exact mem_typeNamesOf_of_mem member (List.mem_cons_of_mem _ induction)

mutual

theorem exists_enters_of_mem_typeNames {above : List String} {node : Node}
    (placed : node.WellPlaced above) (isType : typeName ∈ node.typeNames) :
    ∃ leaf ∈ node.leaves, ∃ path, leaf.path = above ++ path ∧ Enters typeName [node] path := by
  cases node with
  | leaf name field entry => cases isType
  | group name field other children =>
      have ⟨nonempty, childrenPlaced⟩ := placed
      have isHere : Node.group name field other children ∈ [.group name field other children] :=
        List.mem_singleton_self _
      rcases List.mem_cons.mp isType with rfl | isBelow
      · obtain ⟨leaf, isLeaf⟩ := exists_mem_leaves placed
        obtain ⟨child, -, ⟨rest, goesOn⟩⟩ := exists_node_of_mem_leavesOf childrenPlaced isLeaf
        refine ⟨leaf, isLeaf, field :: child.field :: rest, ?_, .here isHere (by simp)⟩
        rw [← goesOn]
        simp
      · obtain ⟨leaf, isLeaf, path, samePath, enters⟩ :=
          exists_enters_of_mem_typeNamesOf childrenPlaced isBelow
        refine ⟨leaf, isLeaf, field :: path, ?_, .inside isHere enters⟩
        rw [samePath, List.append_assoc, List.singleton_append]

/-- The path of some variable enters a group of each type, because no group is empty. -/
theorem exists_enters_of_mem_typeNamesOf {above : List String} {nodes : List Node}
    (placed : WellPlacedList above nodes) (isType : typeName ∈ typeNamesOf nodes) :
    ∃ leaf ∈ leavesOf nodes, ∃ path, leaf.path = above ++ path ∧ Enters typeName nodes path := by
  cases nodes with
  | nil => cases isType
  | cons node rest =>
      obtain ⟨-, nodePlaced, restPlaced⟩ := placed
      rw [typeNamesOf, List.mem_append] at isType
      rcases isType with atNode | inRest
      · obtain ⟨leaf, isLeaf, path, samePath, enters⟩ :=
          exists_enters_of_mem_typeNames nodePlaced atNode
        exact ⟨leaf, List.mem_append_left _ isLeaf, path, samePath, enters.mono (by simp)⟩
      · obtain ⟨leaf, isLeaf, path, samePath, enters⟩ :=
          exists_enters_of_mem_typeNamesOf restPlaced inRest
        exact ⟨leaf, List.mem_append_right _ isLeaf, path, samePath,
          enters.mono (List.subset_cons_self node rest)⟩

end

end Entering

end Config.Node

end TypedEnv
