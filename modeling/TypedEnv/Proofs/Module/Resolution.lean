import TypedEnv.Proofs.Declaration.File
import TypedEnv.Proofs.Module.Correspondence
import TypedEnv.Proofs.Module.Defaults
import TypedEnv.Proofs.Registry.Overlay
import TypedEnv.Proofs.Registry.Variables

/-!
# Variables of a running module

`Leaf.resolve` says which value a variable has in an environment.  A module
that registers its variables and applies the overrides ends with a registry
that holds exactly these values, and it ends at the first override that does
not convert.
-/

namespace TypedEnv

open Config TypedEnv.Module
open Source (Identifier)

namespace Config

/-- The value of a variable in an environment.  An override is read by the rule of the kind of
the variable; without one the variable falls back on a default. -/
def Leaf.resolve (fallback : Leaf → Value) (environment : Environment) (leaf : Leaf) :
    Outcome EnvError Value :=
  match environment leaf.envName with
  | none => .ok (fallback leaf)
  | some text => (parseAs leaf.default.kind text).mapCause (.conversion leaf.envName)

/-- Variables with their values in an environment, or the first failure. -/
def Leaf.resolveAll (fallback : Leaf → Value) (environment : Environment) (leaves : List Leaf) :
    Outcome EnvError (List (Leaf × Value)) :=
  leaves.mapM fun leaf => (leaf.resolve fallback environment).map fun value => (leaf, value)

theorem Leaf.resolveAll_cons (fallback : Leaf → Value) (environment : Environment) (leaf : Leaf)
    (rest : List Leaf) :
    Leaf.resolveAll fallback environment (leaf :: rest) = do
      let value ← leaf.resolve fallback environment
      let others ← Leaf.resolveAll fallback environment rest
      return (leaf, value) :: others := by
  rw [resolveAll, List.mapM_cons]
  cases leaf.resolve fallback environment <;> rfl

/-- Variables fail with the first one that fails. -/
theorem Leaf.resolveAll_cons_eq_error_iff {fallback : Leaf → Value} {environment : Environment}
    {leaf : Leaf} {rest : List Leaf} {failure : Failure EnvError} :
    Leaf.resolveAll fallback environment (leaf :: rest) = .error failure ↔
      leaf.resolve fallback environment = .error failure ∨
        ∃ value, leaf.resolve fallback environment = .ok value ∧
          Leaf.resolveAll fallback environment rest = .error failure := by
  rw [resolveAll_cons, bind_eq_error_iff]
  simp only [bind_pure_eq_error_iff]

/-- Variables are resolved when each of them is. -/
theorem Leaf.resolveAll_eq_ok_iff {fallback : Leaf → Value} {environment : Environment}
    {leaves : List Leaf} {resolved : List (Leaf × Value)} :
    Leaf.resolveAll fallback environment leaves = .ok resolved ↔
      resolved.map Prod.fst = leaves ∧
        ∀ entry ∈ resolved, entry.1.resolve fallback environment = .ok entry.2 := by
  induction leaves generalizing resolved with
  | nil =>
      constructor
      · intro success
        cases success
        simp
      · rintro ⟨none, -⟩
        rw [List.map_eq_nil_iff.mp none]
        rfl
  | cons leaf rest induction =>
      rw [resolveAll_cons]
      constructor
      · intro success
        obtain ⟨value, first, success⟩ := bind_eq_ok_iff.mp success
        obtain ⟨others, behind, success⟩ := bind_eq_ok_iff.mp success
        obtain rfl := pure_eq_ok_iff.mp success
        obtain ⟨same, resolves⟩ := induction.mp behind
        refine ⟨by rw [List.map_cons, same], ?_⟩
        intro entry member
        rcases List.mem_cons.mp member with rfl | inRest
        · exact first
        · exact resolves entry inRest
      · rintro ⟨same, resolves⟩
        obtain ⟨⟨first, value⟩, others, rfl, rfl, behind⟩ := List.map_eq_cons_iff.mp same
        have success := induction.mpr
          ⟨behind, fun entry member => resolves entry (List.mem_cons_of_mem _ member)⟩
        rw [resolves (first, value) List.mem_cons_self, success]
        rfl

theorem Leaf.exists_resolveAll {fallback : Leaf → Value} {environment : Environment}
    {leaves : List Leaf}
    (resolvable : ∀ leaf ∈ leaves, ∃ value, leaf.resolve fallback environment = .ok value) :
    ∃ resolved, Leaf.resolveAll fallback environment leaves = .ok resolved := by
  induction leaves with
  | nil => exact ⟨[], rfl⟩
  | cons leaf rest induction =>
      obtain ⟨value, first⟩ := resolvable leaf List.mem_cons_self
      obtain ⟨others, behind⟩ :=
        induction fun other member => resolvable other (List.mem_cons_of_mem _ member)
      exact ⟨(leaf, value) :: others, by rw [resolveAll_cons, first, behind]; rfl⟩

namespace Leaf

/-- The default of a variable as a module works with it. -/
def writtenDefault (leaf : Leaf) : Value :=
  leaf.default.reread

/-- A variable keeps its kind in every environment. -/
theorem kind_of_resolve {leaf : Leaf} {environment : Environment} {value : Value}
    (success : leaf.resolve writtenDefault environment = .ok value) :
    value.kind = leaf.default.kind := by
  rw [resolve] at success
  split at success
  · cases success
    exact leaf.default.kind_reread
  · exact kind_of_parseAs (Outcome.mapCause_eq_ok_iff.mp success)

/-- The name of a variable with the default that a module registers for it. -/
def written (leaf : Leaf) : String × Value :=
  (leaf.envName, leaf.writtenDefault)

def declared (leaf : Leaf) : Variable :=
  .ofDefault leaf.envName leaf.writtenDefault

def binding (leaf : Leaf) : Identifier × Handle :=
  (leaf.handle, ⟨leaf.envName, .exactly leaf.default.kind⟩)

/-- A declared variable after the overrides. -/
def overridden (entry : Leaf × Value) : Variable :=
  { entry.1.declared with value := entry.2 }

/-- Variables with different names are all declared in a new registry. -/
theorem entries_extend_written {leaves : List Leaf} (distinct : (leaves.map envName).Nodup) :
    (Registry.empty.extend (leaves.map written)).entries = leaves.map declared := by
  rw [Registry.entries_extend_empty (by rwa [List.map_map]), List.map_map]
  rfl

end Leaf

end Config

namespace Module

/-- What an execution relies on: a module and its configuration list the same variables with
different names, none of which is a list. -/
structure Prepared (module : Module) (forest : Forest) : Prop where
  constants : ∀ leaf ∈ forest.leaves,
    module.constant? (.plain leaf.constName) = some leaf.envName
  registrations : module.registrations = forest.leaves.map Leaf.registration
  assembly : ∃ root, module.assembly = .record root (Node.assembliesOf forest.roots)
  validations : module.validations = forest.leaves.filterMap Leaf.validation?
  wellPlaced : Node.WellPlacedList [] forest.roots
  envNames_nodup : (forest.leaves.map Leaf.envName).Nodup
  handles_nodup : (forest.leaves.map Leaf.handle).Nodup
  scalar : ∀ leaf ∈ forest.leaves, leaf.default.kind ≠ .stringList

variable {module : Module} {environment : Environment}

section Preparing

variable {text : String} {declarations : List Declaration} {front : Option String}
  {forest : Forest} {options : Options}

/-- A constant holds the name of the variable that it was made for. -/
theorem constant?_of_mem (constants : module.constants = forest.leaves.map Leaf.constant)
    (distinct : (forest.leaves.map Leaf.constName).Nodup) {leaf : Leaf}
    (member : leaf ∈ forest.leaves) :
    module.constant? (.plain leaf.constName) = some leaf.envName := by
  have names : (module.constants.map ConstantDecl.name).Nodup := by
    have plainNames := distinct.map Identifier.plain_injective
    rw [constants, List.map_map]
    rwa [List.map_map] at plainNames
  have declared : leaf.constant ∈ module.constants := by
    rw [constants]
    exact List.mem_map_of_mem member
  rw [constant?]
  exact congrArg (Option.map ConstantDecl.value) (find?_eq_some_of_mem names declared)

/-- The variables of a configuration that was read from a file have different names. -/
theorem envNames_nodup_of_readTyped (read : Declaration.readTyped text = .ok declarations)
    (built : Forest.build declarations front = .ok forest) :
    (forest.leaves.map Leaf.envName).Nodup := by
  have sameParts := (Forest.declared_perm_of_build built).map Prod.fst
  have names := Declaration.names_nodup_of_readTyped read
  rw [List.map_map, List.map_map] at sameParts
  exact sameParts.nodup_iff.mpr names

/-- No variable of a configuration that was read from a file is a list. -/
theorem scalar_of_readTyped (read : Declaration.readTyped text = .ok declarations)
    (built : Forest.build declarations front = .ok forest) :
    ∀ leaf ∈ forest.leaves, leaf.default.kind ≠ .stringList := by
  intro leaf member
  have declared := (Forest.declared_perm_of_build built).mem_iff.mp (List.mem_map_of_mem member)
  obtain ⟨declaration, inFile, same⟩ := List.mem_map.mp declared
  obtain ⟨-, sameValue, -⟩ : declaration.name = leaf.envName ∧
      declaration.value = leaf.default ∧ declaration.line = leaf.line := by simpa using same
  rw [← sameValue]
  exact kind_of_infer (Declaration.inferred_of_readTyped read declaration inFile)

/-- Every module that is made for the declarations of a file is prepared. -/
theorem prepared_of_synthesize (read : Declaration.readTyped text = .ok declarations)
    (built : Forest.build declarations front = .ok forest)
    (made : synthesize forest options = .ok module) : module.Prepared forest := by
  obtain ⟨runtime, root, -, rfl⟩ := eq_describing_of_synthesize made
  have constNames := Forest.constNames_nodup_of_build built
  exact {
    constants := fun leaf member => constant?_of_mem rfl constNames member
    registrations := rfl
    assembly := ⟨root, rfl⟩
    validations := rfl
    wellPlaced := Forest.wellPlaced_of_build built
    envNames_nodup := envNames_nodup_of_readTyped read built
    handles_nodup := handles_nodup_of_build built
    scalar := scalar_of_readTyped read built }

end Preparing

section Registering

variable {running : Running}

/-- A variable with a new name is registered behind those before it. -/
theorem registerNext_registration {leaf : Leaf}
    (constant : module.constant? (.plain leaf.constName) = some leaf.envName)
    (fresh : leaf.envName ∉ running.registry.names) :
    module.registerNext running leaf.registration =
      .ok ⟨running.registry.extend [leaf.written], leaf.binding :: running.bindings⟩ := by
  have default : (DefaultExpr.ofValue leaf.default).value? leaf.default.kind =
      some leaf.writtenDefault := value?_ofValue leaf.default
  have added : running.registry.declare leaf.envName leaf.writtenDefault =
      .ok (running.registry.extend [leaf.written]) := by
    rw [Registry.declare_eq, if_neg fresh]
    rfl
  simp only [registerNext, Leaf.registration, constant, default, added]
  rfl

/-- Variables with new names are registered in order. -/
theorem foldlM_registerNext {leaves : List Leaf}
    (constants : ∀ leaf ∈ leaves, module.constant? (.plain leaf.constName) = some leaf.envName)
    (distinct : (running.registry.names ++ leaves.map Leaf.envName).Nodup) :
    (leaves.map Leaf.registration).foldlM module.registerNext running =
      .ok ⟨running.registry.extend (leaves.map Leaf.written),
        (leaves.map Leaf.binding).reverse ++ running.bindings⟩ := by
  induction leaves generalizing running with
  | nil => simp [Pure.pure, Except.pure]
  | cons leaf rest induction =>
      have fresh : leaf.written.1 ∉ running.registry.names := by
        intro member
        exact (List.nodup_append.mp distinct).2.2 _ member _ List.mem_cons_self rfl
      let next : Running :=
        ⟨running.registry.extend [leaf.written], leaf.binding :: running.bindings⟩
      have first : module.registerNext running leaf.registration = .ok next :=
        registerNext_registration (constants leaf List.mem_cons_self) fresh
      have restDistinct : (next.registry.names ++ rest.map Leaf.envName).Nodup := by
        rw [Registry.names_extend_singleton fresh, List.append_assoc]
        exact distinct
      have others := induction
        (fun other member => constants other (List.mem_cons_of_mem _ member)) restDistinct
      have extended := Registry.extend_cons (rest.map Leaf.written) fresh
      rw [List.map_cons, List.foldlM_cons, first, List.map_cons, extended, List.map_cons,
        List.reverse_cons, List.append_assoc]
      exact others

end Registering

section Overriding

/-- An override sets a variable that is no list to what it reads as. -/
theorem set_declared {leaf : Leaf} (scalar : leaf.default.kind ≠ .stringList) (text : String) :
    leaf.declared.set text =
      ((parseAs leaf.default.kind text).mapCause (.conversion leaf.envName)).map fun value =>
        Leaf.overridden (leaf, value) := by
  have kind : leaf.declared.value.kind = leaf.default.kind := leaf.default.kind_reread
  have notList : ¬(leaf.declared.value.kind = .stringList ∧ text.isEmpty = true) := by
    rw [kind]
    exact fun both => scalar both.1
  rw [Variable.set, if_neg notList, kind]
  rfl

theorem override_declared {leaf : Leaf} (scalar : leaf.default.kind ≠ .stringList) :
    leaf.declared.override environment =
      (leaf.resolve Leaf.writtenDefault environment).map fun value =>
        Leaf.overridden (leaf, value) := by
  have name : leaf.declared.name = leaf.envName := rfl
  rw [Variable.override, name, Leaf.resolve]
  cases environment leaf.envName with
  | none => rfl
  | some text => exact set_declared scalar text

/-- The overrides change every variable to its value in the environment. -/
theorem overlayVariables_of_ok {leaves : List Leaf} {resolved : List (Leaf × Value)}
    (scalar : ∀ leaf ∈ leaves, leaf.default.kind ≠ .stringList)
    (success : Leaf.resolveAll Leaf.writtenDefault environment leaves = .ok resolved) :
    overlayVariables environment (leaves.map Leaf.declared) =
      (resolved.map Leaf.overridden, none) := by
  induction leaves generalizing resolved with
  | nil =>
      cases success
      rfl
  | cons leaf rest induction =>
      have restScalar : ∀ leaf ∈ rest, leaf.default.kind ≠ .stringList :=
        fun other member => scalar other (List.mem_cons_of_mem _ member)
      rw [Leaf.resolveAll_cons] at success
      obtain ⟨value, first, success⟩ := bind_eq_ok_iff.mp success
      obtain ⟨others, behind, success⟩ := bind_eq_ok_iff.mp success
      obtain rfl := pure_eq_ok_iff.mp success
      rw [List.map_cons, overlayVariables_cons, override_declared (scalar leaf List.mem_cons_self),
        first, induction restScalar behind, List.map_cons]
      rfl

/-- The first override that does not convert ends the overrides. -/
theorem overlayVariables_of_error {leaves : List Leaf} {failure : Failure EnvError}
    (scalar : ∀ leaf ∈ leaves, leaf.default.kind ≠ .stringList)
    (failed : Leaf.resolveAll Leaf.writtenDefault environment leaves = .error failure) :
    (overlayVariables environment (leaves.map Leaf.declared)).2 = some failure := by
  induction leaves with
  | nil => cases failed
  | cons leaf rest induction =>
      have restScalar : ∀ leaf ∈ rest, leaf.default.kind ≠ .stringList :=
        fun other member => scalar other (List.mem_cons_of_mem _ member)
      rw [List.map_cons, overlayVariables_cons, override_declared (scalar leaf List.mem_cons_self)]
      rcases Leaf.resolveAll_cons_eq_error_iff.mp failed with first | ⟨value, first, behind⟩
      · rw [first]
        rfl
      · rw [first]
        exact induction restScalar behind

end Overriding

section Resolving

variable {forest : Forest}

/-- A registry and bindings in which variables have their values after the overrides. -/
structure Running.Holds (running : Running) (resolved : List (Leaf × Value)) : Prop where
  entries : running.registry.entries = resolved.map Leaf.overridden
  bindings : running.bindings = ((resolved.map Prod.fst).map Leaf.binding).reverse

namespace Prepared

theorem register (prepared : module.Prepared forest) :
    module.registrations.foldlM module.registerNext ⟨.empty, []⟩ =
      .ok ⟨Registry.empty.extend (forest.leaves.map Leaf.written),
        (forest.leaves.map Leaf.binding).reverse⟩ := by
  let start : Running := ⟨.empty, []⟩
  have distinct : (start.registry.names ++ forest.leaves.map Leaf.envName).Nodup :=
    prepared.envNames_nodup
  rw [prepared.registrations, foldlM_registerNext prepared.constants distinct, List.append_nil]

/-- When every override converts, the variables have their values in the environment. -/
theorem resolve_of_ok (prepared : module.Prepared forest) {resolved : List (Leaf × Value)}
    (success : Leaf.resolveAll Leaf.writtenDefault environment forest.leaves = .ok resolved) :
    ∃ running, module.resolve .empty environment = .ok running ∧ running.Holds resolved := by
  have sameLeaves := (Leaf.resolveAll_eq_ok_iff.mp success).1
  have overlaid := overlayVariables_of_ok prepared.scalar success
  rw [← Leaf.entries_extend_written prepared.envNames_nodup] at overlaid
  obtain ⟨distinct, applied⟩ := Registry.overlay_eq overlaid
  refine ⟨⟨⟨_, true, false, distinct⟩, (forest.leaves.map Leaf.binding).reverse⟩, ?_, rfl,
    by rw [sameLeaves]⟩
  rw [Module.resolve, prepared.register]
  simp only [bind, Except.bind, applied]
  rfl

/-- The first override that does not convert ends the execution. -/
theorem resolve_of_error (prepared : module.Prepared forest) {failure : Failure EnvError}
    (failed : Leaf.resolveAll Leaf.writtenDefault environment forest.leaves =
      .error failure) :
    module.resolve .empty environment = .error (.failure failure) := by
  have ended := overlayVariables_of_error prepared.scalar failed
  rw [← Leaf.entries_extend_written prepared.envNames_nodup] at ended
  rw [Module.resolve, prepared.register]
  simp only [bind, Except.bind]
  cases applied : Registry.overlay _ environment with
  | mk changed failure? =>
      have stops : failure? = some failure := (congrArg Prod.snd applied).symm.trans ended
      rw [stops]
      rfl

end Prepared

end Resolving

end Module

end TypedEnv
