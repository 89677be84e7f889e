import TypedEnv.Proofs.Module.Correspondence
import TypedEnv.Proofs.Module.Resolution

/-!
# The execution of a module

Once the overrides are applied, the assembly of a module repeats the shape of
the forest with the value of every variable at its path, and the validations
find the first variable that has to be set and is not.  `run_of_ok` and
`run_of_error` say what the whole execution returns.
-/

namespace TypedEnv

open Config TypedEnv.Module
open Config.Node (assembliesOf leavesOf slotsOf Located WellPlacedList)
open Source (Identifier)

namespace Config

/-- Whether a variable has to be set and is not. -/
def Leaf.isUnset (entry : Leaf × Value) : Bool :=
  entry.1.hasToBeSet && entry.2.isEmpty

/-- The value of a variable in an environment, if its override converts. -/
def Leaf.valueIn (environment : Environment) (leaf : Leaf) : Value :=
  (leaf.resolve Leaf.writtenDefault environment).toOption.getD leaf.default

theorem Leaf.valueIn_of_ok {leaf : Leaf} {environment : Environment} {value : Value}
    (success : leaf.resolve Leaf.writtenDefault environment = .ok value) :
    leaf.valueIn environment = value := by
  rw [valueIn, success]
  rfl

namespace Node

mutual

/-- The settings at a node. -/
def settings (value : Leaf → Value) : Node → Settings
  | .leaf _ _ entry => .value (value entry)
  | .group _ _ _ children => .group (settingsOf value children)

def settingsOf (value : Leaf → Value) : List Node → List (String × Settings)
  | [] => []
  | node :: rest => (node.field, node.settings value) :: settingsOf value rest

end

theorem settingsOf_eq_map (value : Leaf → Value) (nodes : List Node) :
    settingsOf value nodes = nodes.map fun node => (node.field, node.settings value) := by
  induction nodes with
  | nil => rfl
  | cons node rest induction => rw [settingsOf, List.map_cons, induction]

theorem lookup_settingsOf {value : Leaf → Value} {above : List String} {nodes : List Node}
    {node : Node} (placed : WellPlacedList above nodes) (member : node ∈ nodes) :
    (settingsOf value nodes).lookup node.field = some (node.settings value) := by
  rw [settingsOf_eq_map]
  exact lookup_map_of_mem placed.fields_nodup member

/-- A path that leads to a variable leads to its value in the settings. -/
theorem Located.at?_settings {value : Leaf → Value} {above : List String} {owner : Identifier}
    {nodes : List Node} {path : List String} {entry : Leaf} {slot : Slot}
    (located : Located owner nodes path entry slot) (placed : WellPlacedList above nodes) :
    (Settings.group (settingsOf value nodes)).at? path = some (.value (value entry)) := by
  induction located generalizing above with
  | @here owner nodes name field entry member =>
      have found : (settingsOf value nodes).lookup field = some (.value (value entry)) :=
        lookup_settingsOf placed member
      rw [Settings.at?, found, Option.bind_some, Settings.at?]
  | @inside owner nodes children name field typeName path entry slot member inner induction =>
      have found : (settingsOf value nodes).lookup field =
          some (.group (settingsOf value children)) := lookup_settingsOf placed member
      rw [Settings.at?, found, Option.bind_some]
      exact induction (placed.children member)

end Node

end Config

namespace Module

variable {module : Module} {environment : Environment}

section Assembling

variable {running : Running} {value : Leaf → Value}

mutual

/-- A node is assembled to its settings when the handles of its variables read their values. -/
theorem settings_assembly {node : Node}
    (reads : ∀ leaf ∈ node.leaves,
      Assembly.settings running (.read leaf.handle) = .ok (.value (value leaf))) :
    node.assembly.settings running = .ok (node.settings value) := by
  cases node with
  | leaf name field entry => exact reads entry (by simp [Node.leaves])
  | group name field typeName children =>
      have inner := fieldSettings_assembliesOf reads
      rw [Node.assembly, Assembly.settings, inner]
      rfl

theorem fieldSettings_assembliesOf {nodes : List Node}
    (reads : ∀ leaf ∈ leavesOf nodes,
      Assembly.settings running (.read leaf.handle) = .ok (.value (value leaf))) :
    Assembly.fieldSettings running (assembliesOf nodes) = .ok (Node.settingsOf value nodes) := by
  cases nodes with
  | nil => rfl
  | cons node rest =>
      have atNode : ∀ leaf ∈ node.leaves,
          Assembly.settings running (.read leaf.handle) = .ok (.value (value leaf)) :=
        fun leaf member => reads leaf (List.mem_append_left _ member)
      have inRest : ∀ leaf ∈ leavesOf rest,
          Assembly.settings running (.read leaf.handle) = .ok (.value (value leaf)) :=
        fun leaf member => reads leaf (List.mem_append_right _ member)
      rw [assembliesOf, Assembly.fieldSettings, settings_assembly atNode,
        fieldSettings_assembliesOf inRest]
      rfl

end

variable {resolved : List (Leaf × Value)}

/-- The handle of a variable reads its value. -/
theorem settings_read (holds : running.Holds resolved) {entry : Leaf × Value}
    (member : entry ∈ resolved) (handles : ((resolved.map Prod.fst).map Leaf.handle).Nodup)
    (kind : entry.2.kind = entry.1.default.kind) :
    Assembly.settings running (.read entry.1.handle) = .ok (.value entry.2) := by
  have bound : running.bindings.lookup entry.1.handle =
      some ⟨entry.1.envName, .exactly entry.1.default.kind⟩ := by
    apply lookup_eq_some_of_mem
    · rw [holds.bindings, List.map_reverse, List.nodup_reverse, List.map_map]
      exact handles
    · rw [holds.bindings, List.mem_reverse]
      exact List.mem_map_of_mem (List.mem_map_of_mem member)
  have isEntry : Leaf.overridden entry ∈ running.registry.entries :=
    holds.entries ▸ List.mem_map_of_mem member
  have found : running.registry.find? entry.1.envName = some (Leaf.overridden entry) :=
    find?_eq_some_of_mem running.registry.distinct isEntry
  have read : running.registry.get ⟨entry.1.envName, .exactly entry.1.default.kind⟩ =
      .ok entry.2 := by
    rw [Registry.get, found, ← kind]
    exact entry.2.convert_kind entry.1.envName
  rw [Assembly.settings, bound]
  dsimp only
  rw [read]

end Assembling

section Validating

variable {settings : Settings} {leaf : Leaf} {value : Value} {test : EmptyTest}

/-- A validation looks at the value of its variable and names the variable when it fails. -/
theorem validate_of_value? (atPath : settings.value? leaf.path = some value)
    (kind : value.kind = leaf.default.kind)
    (constant : module.constant? (.plain leaf.constName) = some leaf.envName)
    (tested : EmptyTest.ofKind? leaf.default.kind = some test) :
    module.validate settings ⟨leaf.accessPath, test, .plain leaf.constName⟩ =
      if value.isEmpty then .error (.failure (.error (.validation leaf.envName)))
      else .ok () := by
  have path : leaf.accessPath.map Identifier.text = leaf.path := by
    simp [Leaf.accessPath, Function.comp_def, Identifier.named_text]
  have holds : test.holds? value = some value.isEmpty := holds?_ofKind? (kind ▸ tested)
  simp only [validate, path, atPath, Option.bind_some, holds, constant]
  cases value.isEmpty <;> rfl

variable {resolved : List (Leaf × Value)}

/-- The validations fail for the first variable that has to be set and is not. -/
theorem forM_validate
    (atPaths : ∀ entry ∈ resolved, settings.value? entry.1.path = some entry.2)
    (kinds : ∀ entry ∈ resolved, entry.2.kind = entry.1.default.kind)
    (constants : ∀ entry ∈ resolved,
      module.constant? (.plain entry.1.constName) = some entry.1.envName) :
    ((resolved.map Prod.fst).filterMap Leaf.validation?).forM (module.validate settings) =
      match resolved.find? Leaf.isUnset with
      | some entry => .error (.failure (.error (.validation entry.1.envName)))
      | none => .ok () := by
  induction resolved with
  | nil => rfl
  | cons entry rest induction =>
      have others := induction
        (fun other member => atPaths other (List.mem_cons_of_mem _ member))
        (fun other member => kinds other (List.mem_cons_of_mem _ member))
        (fun other member => constants other (List.mem_cons_of_mem _ member))
      have atPath := atPaths entry List.mem_cons_self
      have kind := kinds entry List.mem_cons_self
      have constant := constants entry List.mem_cons_self
      rw [List.map_cons]
      cases tested : EmptyTest.ofKind? entry.1.default.kind with
      | none =>
          have exempt : Leaf.isUnset entry = false := by
            simp [Leaf.isUnset, Leaf.hasToBeSet_eq_isSome, tested]
          rw [List.filterMap_cons_none (by simp [Leaf.validation?, tested]),
            List.find?_cons_of_neg (by simp [exempt])]
          exact others
      | some test =>
          have obliged : entry.1.hasToBeSet = true := by
            simp [Leaf.hasToBeSet_eq_isSome, tested]
          have first := validate_of_value? atPath kind constant tested
          rw [List.filterMap_cons_some (b := ⟨entry.1.accessPath, test, .plain entry.1.constName⟩)
            (by simp [Leaf.validation?, tested]), List.forM, first]
          cases empty : entry.2.isEmpty with
          | true =>
              rw [List.find?_cons_of_pos (by simp [Leaf.isUnset, obliged, empty])]
              rfl
          | false =>
              rw [List.find?_cons_of_neg (by simp [Leaf.isUnset, empty])]
              exact others

end Validating

section Running

variable {forest : Forest} {resolved : List (Leaf × Value)}

namespace Prepared

/-- The path of a variable leads to its value in the settings of the whole forest. -/
theorem value?_settings (prepared : module.Prepared forest) {value : Leaf → Value} {leaf : Leaf}
    (member : leaf ∈ forest.leaves) :
    (Settings.group (Node.settingsOf value forest.roots)).value? leaf.path =
      some (value leaf) := by
  have owner : Identifier := .plain ""
  rw [Forest.leaves, ← Node.map_fst_slotsOf owner] at member
  obtain ⟨⟨entry, slot⟩, atSlot, rfl⟩ := List.mem_map.mp member
  obtain ⟨path, same, located⟩ := Node.located_of_mem_slotsOf prepared.wellPlaced atSlot
  have samePath : entry.path = path := same
  rw [Settings.value?, samePath, located.at?_settings prepared.wellPlaced]

/-- After the overrides the assembly has the value of every variable at its path. -/
theorem settings_of_holds (prepared : module.Prepared forest) {running : Running}
    (success : Leaf.resolveAll Leaf.writtenDefault environment forest.leaves = .ok resolved)
    (holds : running.Holds resolved) :
    module.assembly.settings running =
      .ok (.group (Node.settingsOf (Leaf.valueIn environment) forest.roots)) := by
  obtain ⟨sameLeaves, resolves⟩ := Leaf.resolveAll_eq_ok_iff.mp success
  have handles := prepared.handles_nodup
  rw [← sameLeaves] at handles
  have reads : ∀ leaf ∈ leavesOf forest.roots,
      Assembly.settings running (.read leaf.handle) =
        .ok (.value (leaf.valueIn environment)) := by
    intro leaf member
    have inForest : leaf ∈ resolved.map Prod.fst := sameLeaves ▸ member
    obtain ⟨entry, inResolved, rfl⟩ := List.mem_map.mp inForest
    have resolvesEntry := resolves entry inResolved
    rw [Leaf.valueIn_of_ok resolvesEntry]
    exact settings_read holds inResolved handles (Leaf.kind_of_resolve resolvesEntry)
  obtain ⟨root, assembly⟩ := prepared.assembly
  rw [assembly, Assembly.settings, fieldSettings_assembliesOf reads]
  rfl

/-- An execution ends at the first override that does not convert. -/
theorem run_of_error (prepared : module.Prepared forest) {failure : Failure EnvError}
    (failed : Leaf.resolveAll Leaf.writtenDefault environment forest.leaves =
      .error failure) :
    module.run .empty environment = .error (.failure failure) := by
  rw [run, prepared.resolve_of_error failed]
  rfl

/-- When all overrides convert, an execution returns the settings unless a variable is unset. -/
theorem run_of_ok (prepared : module.Prepared forest)
    (success : Leaf.resolveAll Leaf.writtenDefault environment forest.leaves = .ok resolved) :
    ∃ settings : Settings,
      (∀ entry ∈ resolved, settings.value? entry.1.path = some entry.2) ∧
        module.run .empty environment =
          match resolved.find? Leaf.isUnset with
          | some entry => .error (.failure (.error (.validation entry.1.envName)))
          | none => .ok settings := by
  obtain ⟨sameLeaves, resolves⟩ := Leaf.resolveAll_eq_ok_iff.mp success
  have inForest : ∀ entry ∈ resolved, entry.1 ∈ forest.leaves :=
    fun entry member => sameLeaves ▸ List.mem_map_of_mem member
  have atPaths : ∀ entry ∈ resolved,
      (Settings.group (Node.settingsOf (Leaf.valueIn environment) forest.roots)).value?
        entry.1.path = some entry.2 := by
    intro entry member
    rw [prepared.value?_settings (inForest entry member),
      Leaf.valueIn_of_ok (resolves entry member)]
  have validated := forM_validate atPaths
    (fun entry member => Leaf.kind_of_resolve (resolves entry member))
    (fun entry member => prepared.constants entry.1 (inForest entry member))
  refine ⟨_, atPaths, ?_⟩
  rw [sameLeaves] at validated
  obtain ⟨running, resolvesAll, holds⟩ := prepared.resolve_of_ok success
  rw [run, resolvesAll]
  simp only [bind, Except.bind, prepared.settings_of_holds success holds, prepared.validations,
    validated]
  cases resolved.find? Leaf.isUnset <;> rfl

end Prepared

end Running

end Module

end TypedEnv
