import TypedEnv.Proofs.Module.Promises
import TypedEnv.Proofs.Registry.Variables

/-!
# A module and its file in a registry

The variables of a file can be registered by a module that was made for them
or directly from the file.  The module goes through them group by group and
the file line by line, so the two orders differ where groups are interleaved.
If all overrides convert, the order does not matter.  If not, each way reports
the first override in its own order that does not convert.
-/

namespace TypedEnv

open Config TypedEnv.Module

/-- What is wrong with the override of a variable, given by its name and its default, if there
is one and it does not convert. -/
def conversionError? (environment : Environment) (entry : String × Value) : Option EnvError :=
  match environment entry.1 with
  | none => none
  | some text =>
      match parseAs entry.2.kind text with
      | .error (.error cause) => some (.conversion entry.1 cause)
      | _ => none

theorem exists_of_conversionError? {environment : Environment} {entry : String × Value}
    {cause : EnvError} (found : conversionError? environment entry = some cause) :
    ∃ reason, cause = .conversion entry.1 reason := by
  unfold conversionError? at found
  split at found
  · cases found
  · split at found
    · next reason failed =>
        cases found
        exact ⟨reason, rfl⟩
    · cases found

/-- The value of the variable with a name. -/
def Registry.value? (registry : Registry) (name : String) : Option Value :=
  (registry.find? name).map Variable.value

namespace Config.Leaf

/-- The name of a variable with its default. -/
def entry (leaf : Leaf) : String × Value :=
  (leaf.envName, leaf.default)

variable {fallback : Leaf → Value} {environment : Environment} {leaf : Leaf}
  {leaves first second : List Leaf}

theorem conversionError?_of_resolve {value : Value}
    (success : leaf.resolve fallback environment = .ok value) :
    conversionError? environment leaf.entry = none := by
  rw [resolve] at success
  rw [conversionError?, entry]
  cases found : environment leaf.envName with
  | none => rfl
  | some text =>
      rw [found] at success
      have parsed := Outcome.mapCause_eq_ok_iff.mp success
      simp only [parsed]

theorem conversionError?_of_resolve_error {cause : EnvError}
    (failed : leaf.resolve fallback environment = .error (.error cause)) :
    conversionError? environment leaf.entry = some cause := by
  rw [resolve] at failed
  rw [conversionError?, entry]
  cases found : environment leaf.envName with
  | none =>
      rw [found] at failed
      cases failed
  | some text =>
      rw [found] at failed
      dsimp only at failed ⊢
      cases parsed : parseAs leaf.default.kind text with
      | ok value =>
          rw [parsed] at failed
          cases failed
      | error failure =>
          rw [parsed] at failed
          cases failure with
          | error reason =>
              cases failed
              rfl
          | abort reason => cases failed

/-- The failure of many variables is that of the first one that does not convert. -/
theorem findSome?_of_resolveAll_error {cause : EnvError}
    (failed : Leaf.resolveAll fallback environment leaves = .error (.error cause)) :
    (leaves.map entry).findSome? (conversionError? environment) = some cause := by
  induction leaves with
  | nil => cases failed
  | cons leaf rest induction =>
      rw [List.map_cons, List.findSome?_cons]
      rcases resolveAll_cons_eq_error_iff.mp failed with first | ⟨value, first, behind⟩
      · rw [conversionError?_of_resolve_error first]
      · rw [conversionError?_of_resolve first]
        exact induction behind

/-- Without an override that stops the program, only a conversion can fail. -/
theorem exists_conversion_of_resolveAll (harmless : environment.Harmless)
    {failure : Failure EnvError}
    (failed : Leaf.resolveAll fallback environment leaves = .error failure) :
    ∃ name cause, failure = .error (.conversion name cause) ∧
      (leaves.map entry).findSome? (conversionError? environment) =
        some (.conversion name cause) := by
  have reported := isReported_of_resolveAll harmless failed
  cases reported with
  | conversion name cause => exact ⟨name, cause, rfl, findSome?_of_resolveAll_error failed⟩
  | validation name =>
      have found := findSome?_of_resolveAll_error failed
      obtain ⟨entry, -, isError⟩ := List.exists_of_findSome?_eq_some found
      obtain ⟨reason, isConversion⟩ := exists_of_conversionError? isError
      cases isConversion

theorem eq_map_of_resolveAll {resolved : List (Leaf × Value)}
    (success : Leaf.resolveAll writtenDefault environment leaves = .ok resolved) :
    resolved = leaves.map fun leaf => (leaf, leaf.valueIn environment) := by
  obtain ⟨rfl, resolves⟩ := resolveAll_eq_ok_iff.mp success
  rw [List.map_map]
  refine (List.map_id' resolved).symm.trans (List.map_congr_left fun entry member => ?_)
  rw [Function.comp_apply, valueIn_of_ok (resolves entry member)]

/-- Variables are resolved in one order when they are in another. -/
theorem resolveAll_of_perm (permutation : first.Perm second) {resolved : List (Leaf × Value)}
    (success : Leaf.resolveAll fallback environment first = .ok resolved) :
    ∃ others, Leaf.resolveAll fallback environment second = .ok others := by
  obtain ⟨same, resolves⟩ := resolveAll_eq_ok_iff.mp success
  refine exists_resolveAll fun leaf member => ?_
  have inFirst := permutation.mem_iff.mpr member
  rw [← same] at inFirst
  obtain ⟨entry, isEntry, rfl⟩ := List.mem_map.mp inFirst
  exact ⟨entry.2, resolves entry isEntry⟩

end Config.Leaf

namespace Module

variable {text : String} {declarations : List Declaration} {front : Option String}
  {forest : Forest} {options : Options} {module : Module} {environment : Environment}

/-- The variables of a configuration in the order of the declarations. -/
theorem exists_leaves_of_build (built : Forest.build declarations front = .ok forest) :
    ∃ leaves, forest.leaves.Perm leaves ∧
      leaves.map Leaf.entry = declarations.map Declaration.entry := by
  obtain ⟨claims, related, permutation⟩ := Forest.leaves_of_build built
  refine ⟨claims.map Claim.leaf, permutation, ?_⟩
  have sameParts := congrArg (List.map fun parts : String × Value × Nat => (parts.1, parts.2.1))
    (Claim.declared_leaves related)
  simp only [List.map_map] at sameParts ⊢
  exact sameParts

/-- Declarations whose addresses are read back are registered as a module registers them. -/
theorem map_written_eq {leaves : List Leaf}
    (sameEntries : leaves.map Leaf.entry = declarations.map Declaration.entry)
    (stable : ∀ declaration ∈ declarations, declaration.value.reread = declaration.value) :
    leaves.map Leaf.written = declarations.map Declaration.entry := by
  rw [← sameEntries]
  refine List.map_congr_left fun leaf member => ?_
  have inFile : leaf.entry ∈ declarations.map Declaration.entry :=
    sameEntries ▸ List.mem_map_of_mem member
  obtain ⟨declaration, isDeclaration, same⟩ := List.mem_map.mp inFile
  have sameValue : declaration.value = leaf.default := congrArg Prod.snd same
  have survives := stable declaration isDeclaration
  rw [sameValue] at survives
  rw [Leaf.written, Leaf.writtenDefault, survives, Leaf.entry]

/-- What a module and the registry of its file make of an environment. -/
inductive Agreement (module : Module) (forest : Forest) (declarations : List Declaration)
    (registry : Registry) (environment : Environment) : Prop where
  /-- All overrides convert, and the variables have the same values. -/
  | values {running : Running} {overlaid : Registry}
      (resolves : module.resolve .empty environment = .ok running)
      (applies : registry.overlay environment = (overlaid, none))
      (same_values : ∀ name, running.registry.value? name = overlaid.value? name)
      (no_conversion : ∀ name cause, module.run .empty environment ≠
        .error (.failure (.error (.conversion name cause))))
  /-- Both report a conversion error, each for the first variable in its own order. -/
  | errors {name otherName : String} {cause otherCause : InferError}
      (stops : module.run .empty environment =
        .error (.failure (.error (.conversion name cause))))
      (fails : (registry.overlay environment).2 =
        some (.error (.conversion otherName otherCause)))
      (first_of_forest : (forest.leaves.map Leaf.entry).findSome?
        (conversionError? environment) = some (.conversion name cause))
      (first_of_file : (declarations.map Declaration.entry).findSome?
        (conversionError? environment) = some (.conversion otherName otherCause))
      (same_error : name = otherName ∨
        forest.leaves.map Leaf.envName = declarations.map Declaration.name →
          name = otherName ∧ cause = otherCause)

namespace Prepared

variable {leaves : List Leaf} {resolved : List (Leaf × Value)}

theorem agreement_of_ok (prepared : module.Prepared forest)
    (permutation : forest.leaves.Perm leaves)
    (success : Leaf.resolveAll Leaf.writtenDefault environment forest.leaves = .ok resolved) :
    Agreement module forest declarations (Registry.empty.extend (leaves.map Leaf.written))
      environment := by
  obtain ⟨others, otherSuccess⟩ := Leaf.resolveAll_of_perm permutation success
  have scalar : ∀ leaf ∈ leaves, leaf.default.kind ≠ .stringList := fun leaf member =>
    prepared.scalar leaf (permutation.mem_iff.mpr member)
  have overlaid := overlayVariables_of_ok scalar otherSuccess
  have names : (leaves.map Leaf.envName).Nodup :=
    (permutation.map Leaf.envName).nodup_iff.mp prepared.envNames_nodup
  rw [← Leaf.entries_extend_written names] at overlaid
  have resolvedPerm : resolved.Perm others := by
    rw [Leaf.eq_map_of_resolveAll success, Leaf.eq_map_of_resolveAll otherSuccess]
    exact permutation.map _
  obtain ⟨running, resolves, holds⟩ := prepared.resolve_of_ok success
  obtain ⟨_, applies⟩ := Registry.overlay_eq overlaid
  refine .values resolves applies ?_ ?_
  · intro name
    have entries : running.registry.entries.Perm (others.map Leaf.overridden) :=
      holds.entries ▸ resolvedPerm.map Leaf.overridden
    exact congrArg (Option.map Variable.value)
      (find?_eq_of_perm entries running.registry.distinct name)
  · intro name cause ended
    obtain ⟨settings, -, returned⟩ := prepared.run_of_ok success
    rw [returned] at ended
    split at ended
    · cases ended
    · cases ended

/-- The first errors are the same when they are about the same variable, and when the variables
come in the same order. -/
theorem same_conversion (distinct : (forest.leaves.map Leaf.envName).Nodup)
    (permutation : (forest.leaves.map Leaf.entry).Perm (declarations.map Declaration.entry))
    {name otherName : String} {cause otherCause : InferError}
    (first : (forest.leaves.map Leaf.entry).findSome? (conversionError? environment) =
      some (.conversion name cause))
    (other : (declarations.map Declaration.entry).findSome? (conversionError? environment) =
      some (.conversion otherName otherCause))
    (same : name = otherName ∨
      forest.leaves.map Leaf.envName = declarations.map Declaration.name) :
    name = otherName ∧ cause = otherCause := by
  have distinctEntries : ((forest.leaves.map Leaf.entry).map Prod.fst).Nodup := by
    rw [List.map_map]
    exact distinct
  have told : ∀ entry ∈ forest.leaves.map Leaf.entry,
      ∀ second ∈ declarations.map Declaration.entry, entry.1 = second.1 → entry = second := by
    intro entry member second isSecond sameName
    exact List.inj_on_of_nodup_map distinctEntries member (permutation.mem_iff.mpr isSecond)
      sameName
  rcases same with rfl | sameOrder
  · obtain ⟨entry, isEntry, entryError⟩ := List.exists_of_findSome?_eq_some first
    obtain ⟨second, isSecond, secondError⟩ := List.exists_of_findSome?_eq_some other
    obtain ⟨_, isConversion⟩ := exists_of_conversionError? entryError
    obtain ⟨_, isSecondConversion⟩ := exists_of_conversionError? secondError
    have entryName : name = entry.1 := (EnvError.conversion.inj isConversion).1
    have secondName : name = second.1 := (EnvError.conversion.inj isSecondConversion).1
    have sameName := entryName.symm.trans secondName
    rw [told entry isEntry second isSecond sameName, secondError] at entryError
    cases entryError
    exact ⟨rfl, rfl⟩
  · have sameKeys : (forest.leaves.map Leaf.entry).map Prod.fst =
        (declarations.map Declaration.entry).map Prod.fst := by
      rw [List.map_map, List.map_map]
      exact sameOrder
    rw [eq_of_map_key_eq sameKeys told, other] at first
    cases first
    exact ⟨rfl, rfl⟩

theorem agreement_of_error (prepared : module.Prepared forest) (harmless : environment.Harmless)
    (permutation : forest.leaves.Perm leaves)
    (sameEntries : leaves.map Leaf.entry = declarations.map Declaration.entry)
    {failure : Failure EnvError}
    (failed : Leaf.resolveAll Leaf.writtenDefault environment forest.leaves = .error failure) :
    Agreement module forest declarations (Registry.empty.extend (leaves.map Leaf.written))
      environment := by
  have scalar : ∀ leaf ∈ leaves, leaf.default.kind ≠ .stringList := fun leaf member =>
    prepared.scalar leaf (permutation.mem_iff.mpr member)
  have entries : (forest.leaves.map Leaf.entry).Perm (declarations.map Declaration.entry) :=
    sameEntries ▸ permutation.map Leaf.entry
  cases others : Leaf.resolveAll Leaf.writtenDefault environment leaves with
  | ok resolved =>
      obtain ⟨_, success⟩ := Leaf.resolveAll_of_perm permutation.symm others
      rw [success] at failed
      cases failed
  | error otherFailure =>
      obtain ⟨name, cause, rfl, first⟩ := Leaf.exists_conversion_of_resolveAll harmless failed
      obtain ⟨otherName, otherCause, rfl, other⟩ :=
        Leaf.exists_conversion_of_resolveAll harmless others
      rw [sameEntries] at other
      refine .errors (prepared.run_of_error failed) ?_ first other
        (same_conversion prepared.envNames_nodup entries first other)
      have names : (leaves.map Leaf.envName).Nodup :=
        (permutation.map Leaf.envName).nodup_iff.mp prepared.envNames_nodup
      have stopped := overlayVariables_of_error scalar others
      rwa [← Leaf.entries_extend_written names] at stopped

end Prepared

/-- A module that was made for the declarations of a file and the file itself agree in every
environment, provided that the addresses among the defaults are read back and that no override
stops the program: they give every variable the same value, or both report a conversion error. -/
theorem agreement_of_synthesize (read : Declaration.readTyped text = .ok declarations)
    (built : Forest.build declarations front = .ok forest)
    (made : synthesize forest options = .ok module)
    (stable : ∀ declaration ∈ declarations, declaration.value.reread = declaration.value)
    (harmless : environment.Harmless) :
    ∃ registry handles, Registry.empty.registerAll declarations = (registry, .ok handles) ∧
      Agreement module forest declarations registry environment := by
  have prepared := prepared_of_synthesize read built made
  obtain ⟨leaves, permutation, sameEntries⟩ := exists_leaves_of_build built
  refine ⟨_, _, Registry.registerAll_empty (Declaration.names_nodup_of_readTyped read), ?_⟩
  rw [← map_written_eq sameEntries stable]
  cases resolves : Leaf.resolveAll Leaf.writtenDefault environment forest.leaves with
  | ok resolved => exact prepared.agreement_of_ok permutation resolves
  | error failure => exact prepared.agreement_of_error harmless permutation sameEntries resolves

/-- A group with a variable outside between its own. -/
def splitGroup : List Declaration :=
  [⟨"A__X", "1", .int 1, 1⟩, ⟨"B", "2", .int 2, 2⟩, ⟨"A__Y", "3", .int 3, 3⟩]

/-- The configuration of `splitGroup`. -/
def splitGroupForest : Forest :=
  ⟨[.group "A" "a" "A"
      [.leaf "X" "x" ⟨"A__X", "A_X_ENV_NAME", ["a", "x"], .int 1, 1⟩,
       .leaf "Y" "y" ⟨"A__Y", "A_Y_ENV_NAME", ["a", "y"], .int 3, 3⟩],
    .leaf "B" "b" ⟨"B", "B_ENV_NAME", ["b"], .int 2, 2⟩]⟩

/-- Overrides for the last two declarations of `splitGroup` that do not convert. -/
def twoWrongOverrides : Environment := fun name =>
  if name = "B" then some "b" else if name = "A__Y" then some "y" else none

theorem twoWrongOverrides_harmless : twoWrongOverrides.Harmless := by
  intro name text found
  unfold twoWrongOverrides at found
  split at found
  · cases found
    have reads : Duration.read? "b".toList = .ok none := by decide +kernel
    exact ⟨none, reads⟩
  · split at found
    · cases found
      have reads : Duration.read? "y".toList = .ok none := by decide +kernel
      exact ⟨none, reads⟩
    · cases found

theorem agreement_of_synthesize_splitGroup :
    ∃ module registry handles,
      synthesize splitGroupForest .standard = .ok module ∧
      Registry.empty.registerAll splitGroup = (registry, .ok handles) ∧
      twoWrongOverrides.Harmless ∧
      Agreement module splitGroupForest splitGroup registry twoWrongOverrides := by
  have read : Declaration.readTyped "A__X=1\nB=2\nA__Y=3" = .ok splitGroup := by decide +kernel
  have built : Forest.build splitGroup none = .ok splitGroupForest := rfl
  have stable : ∀ declaration ∈ splitGroup, declaration.value.reread = declaration.value := by
    decide
  have succeeds : (synthesize splitGroupForest .standard).toOption.isSome := by decide +kernel
  cases made : synthesize splitGroupForest .standard with
  | error failure => rw [made] at succeeds; cases succeeds
  | ok module =>
      obtain ⟨registry, handles, registered, agreement⟩ :=
        agreement_of_synthesize read built made stable twoWrongOverrides_harmless
      exact ⟨module, registry, handles, rfl, registered, twoWrongOverrides_harmless, agreement⟩

/-- The module of `splitGroup` reports an error for its last variable, and the registry of the
file for the one before: the module is through with the group before it comes to `B`. -/
theorem first_errors_differ :
    ∃ module registry handles,
      Declaration.readTyped "A__X=1\nB=2\nA__Y=3" = .ok splitGroup ∧
      Forest.build splitGroup none = .ok splitGroupForest ∧
      synthesize splitGroupForest .standard = .ok module ∧
      Registry.empty.registerAll splitGroup = (registry, .ok handles) ∧
      (∀ declaration ∈ splitGroup, declaration.value.reread = declaration.value) ∧
      twoWrongOverrides.Harmless ∧
      module.run .empty twoWrongOverrides =
        .error (.failure (.error (.conversion "A__Y" ⟨"y", .notInt⟩))) ∧
      (registry.overlay twoWrongOverrides).2 =
        some (.error (.conversion "B" ⟨"b", .notInt⟩)) := by
  have read : Declaration.readTyped "A__X=1\nB=2\nA__Y=3" = .ok splitGroup := by decide +kernel
  have built : Forest.build splitGroup none = .ok splitGroupForest := rfl
  have stable : ∀ declaration ∈ splitGroup, declaration.value.reread = declaration.value := by
    decide
  have registered := Registry.registerAll_empty (Declaration.names_nodup_of_readTyped read)
  have inModule : Leaf.resolveAll Leaf.writtenDefault twoWrongOverrides splitGroupForest.leaves =
      .error (.error (.conversion "A__Y" ⟨"y", .notInt⟩)) := by decide +kernel
  have inFile : ((Registry.empty.extend (splitGroup.map Declaration.entry)).overlay
      twoWrongOverrides).2 = some (.error (.conversion "B" ⟨"b", .notInt⟩)) := by
    decide +kernel
  have succeeds : (synthesize splitGroupForest .standard).toOption.isSome := by decide +kernel
  cases made : synthesize splitGroupForest .standard with
  | error failure => rw [made] at succeeds; cases succeeds
  | ok module =>
      have prepared := prepared_of_synthesize read built made
      exact ⟨module, _, _, read, built, rfl, registered, stable, twoWrongOverrides_harmless,
        prepared.run_of_error inModule, inFile⟩

end Module

end TypedEnv
