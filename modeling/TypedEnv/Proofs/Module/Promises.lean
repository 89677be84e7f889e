import TypedEnv.Proofs.Module.Execution
import TypedEnv.Proofs.Value.Inference

/-!
# What a configuration module promises

`Forest.Promises` says what a module should return: the first override that
does not convert, or else the first variable that was left empty, or else
settings with the value of every variable at its path.  Every module keeps
these promises for the defaults as it writes them down.  It keeps them for the
declared defaults, too, exactly when no address among them changes when its
text is read again.
-/

namespace TypedEnv

open Config TypedEnv.Module
open Source (Identifier)

/-- What a configuration promises about the result of its module, for some defaults and an
environment. -/
def Config.Forest.Promises (forest : Forest) (fallback : Leaf → Value)
    (environment : Environment) (result : Except Stop Settings) : Prop :=
  match Leaf.resolveAll fallback environment forest.leaves with
  | .error failure => result = .error (.failure failure)
  | .ok resolved =>
      match resolved.find? Leaf.isUnset with
      | some entry => result = .error (.failure (.error (.validation entry.1.envName)))
      | none => ∃ settings, result = .ok settings ∧
          ∀ entry ∈ resolved, settings.value? entry.1.path = some entry.2

/-- No override stops the program when it is read as a duration. -/
def Environment.Harmless (environment : Environment) : Prop :=
  ∀ name text, environment name = some text →
    ∃ span?, Duration.read? text.toList = .ok span?

/-- The errors that a module reports: an override does not convert, or a variable is unset. -/
inductive Module.Stop.IsReported : Stop → Prop where
  | conversion (name : String) (cause : InferError) :
      IsReported (.failure (.error (.conversion name cause)))
  | validation (name : String) : IsReported (.failure (.error (.validation name)))

/-- A text of a kind that neither fails to convert nor counts as not set. -/
def Kind.sample : Kind → String
  | .int | .uint | .float => "1"
  | .bool => "true"
  | .duration => "1s"
  | .url => "a://b"
  | .string | .stringList => "x"

theorem Kind.parseAs_sample (kind : Kind) :
    ∃ value, parseAs kind kind.sample = .ok value ∧ value.isEmpty = false := by
  have sound : (parseAs kind kind.sample).toOption.any (!·.isEmpty) = true := by
    cases kind <;> decide +kernel
  cases success : parseAs kind kind.sample with
  | error failure =>
      rw [success] at sound
      cases sound
  | ok value =>
      rw [success] at sound
      exact ⟨value, rfl, by simpa [Except.toOption] using sound⟩

section Reporting

variable {environment : Environment} {fallback : Leaf → Value} {failure : Failure EnvError}

/-- Only the reader of durations stops the program. -/
theorem exists_cause_of_parseAs {kind : Kind} {text : String} {failure : Failure InferError}
    (harmless : ∃ span?, Duration.read? text.toList = .ok span?)
    (failed : parseAs kind text = .error failure) : ∃ cause, failure = .error cause := by
  cases failure with
  | error cause => exact ⟨cause, rfl⟩
  | abort reason =>
      obtain ⟨span?, reads⟩ := harmless
      have stops := (parseAs_eq_abort_iff.mp failed).2
      rw [reads] at stops
      cases stops

theorem isReported_of_resolve {leaf : Leaf} (harmless : environment.Harmless)
    (failed : leaf.resolve fallback environment = .error failure) :
    Stop.IsReported (.failure failure) := by
  rw [Leaf.resolve] at failed
  cases found : environment leaf.envName with
  | none =>
      rw [found] at failed
      cases failed
  | some text =>
      rw [found] at failed
      cases parsed : parseAs leaf.default.kind text with
      | ok value =>
          simp only [parsed] at failed
          cases failed
      | error reason =>
          obtain ⟨cause, rfl⟩ := exists_cause_of_parseAs (harmless _ _ found) parsed
          simp only [parsed] at failed
          cases failed
          exact .conversion leaf.envName cause

theorem isReported_of_resolveAll {leaves : List Leaf} (harmless : environment.Harmless)
    (failed : Leaf.resolveAll fallback environment leaves = .error failure) :
    Stop.IsReported (.failure failure) := by
  induction leaves with
  | nil => cases failed
  | cons leaf rest induction =>
      rcases Leaf.resolveAll_cons_eq_error_iff.mp failed with first | ⟨value, -, behind⟩
      · exact isReported_of_resolve harmless first
      · exact induction behind

end Reporting

namespace Config.Forest

variable {forest : Forest} {environment : Environment} {fallback : Leaf → Value}
  {result : Except Stop Settings}

/-- A promised result is settings or one of the reported errors. -/
theorem Promises.isReported (promises : forest.Promises fallback environment result)
    (harmless : environment.Harmless) {stop : Stop} (ended : result = .error stop) :
    stop.IsReported := by
  rw [Promises] at promises
  split at promises
  · next failure failed =>
      rw [promises] at ended
      cases ended
      exact isReported_of_resolveAll harmless failed
  · split at promises
    · next entry unset =>
        rw [promises] at ended
        cases ended
        exact .validation entry.1.envName
    · obtain ⟨settings, success, -⟩ := promises
      rw [success] at ended
      cases ended

/-- Promised settings have the default of a variable that is not overridden. -/
theorem Promises.value?_default {settings : Settings} {leaf : Leaf}
    (promises : forest.Promises fallback environment (.ok settings))
    (member : leaf ∈ forest.leaves) (absent : environment leaf.envName = none) :
    settings.value? leaf.path = some (fallback leaf) := by
  rw [Promises] at promises
  split at promises
  · cases promises
  · next resolved success =>
      split at promises
      · cases promises
      · obtain ⟨known, same, atPaths⟩ := promises
        cases same
        obtain ⟨sameLeaves, resolves⟩ := Leaf.resolveAll_eq_ok_iff.mp success
        obtain ⟨entry, inResolved, rfl⟩ := List.mem_map.mp (sameLeaves ▸ member)
        have resolvesEntry := resolves entry inResolved
        rw [Leaf.resolve, absent] at resolvesEntry
        rw [atPaths entry inResolved, ← Except.ok.inj resolvesEntry]

/-- What is promised depends on the defaults of the variables only. -/
theorem promises_congr {other : Leaf → Value}
    (same : ∀ leaf ∈ forest.leaves, fallback leaf = other leaf) :
    forest.Promises fallback environment result ↔ forest.Promises other environment result := by
  have sameResolve : ∀ leaves : List Leaf, (∀ leaf ∈ leaves, fallback leaf = other leaf) →
      Leaf.resolveAll fallback environment leaves =
        Leaf.resolveAll other environment leaves := by
    intro leaves agree
    induction leaves with
    | nil => rfl
    | cons leaf rest induction =>
        have here := agree leaf List.mem_cons_self
        have behind := induction fun entry member => agree entry (List.mem_cons_of_mem _ member)
        rw [Leaf.resolveAll_cons, Leaf.resolveAll_cons, behind, Leaf.resolve, Leaf.resolve, here]
  rw [Promises, Promises, sameResolve forest.leaves same]

/-- An environment that sets every variable except one. -/
def without (forest : Forest) (leaf : Leaf) : Environment := fun name =>
  if name = leaf.envName then none
  else (forest.leaves.find? (·.envName == name)).map (·.default.kind.sample)

theorem without_self (leaf : Leaf) : forest.without leaf leaf.envName = none := if_pos rfl

theorem harmless_without (leaf : Leaf) : (forest.without leaf).Harmless := by
  have samples : ∀ kind : Kind, ∃ span?, Duration.read? kind.sample.toList = .ok span? := by
    intro kind
    have sound : (Duration.read? kind.sample.toList).toOption.isSome = true := by
      cases kind <;> decide +kernel
    cases reads : Duration.read? kind.sample.toList with
    | error reason =>
        rw [reads] at sound
        cases sound
    | ok span? => exact ⟨span?, rfl⟩
  intro name text found
  rw [without] at found
  split at found
  · cases found
  · obtain ⟨other, -, rfl⟩ := Option.map_eq_some_iff.mp found
    exact samples other.default.kind

theorem without_of_ne {leaf other : Leaf} (distinct : (forest.leaves.map Leaf.envName).Nodup)
    (member : leaf ∈ forest.leaves) (otherMember : other ∈ forest.leaves)
    (different : other ≠ leaf) :
    forest.without leaf other.envName = some other.default.kind.sample := by
  have differentName : other.envName ≠ leaf.envName := by
    intro same
    exact different (List.inj_on_of_nodup_map distinct otherMember member same)
  rw [without, if_neg differentName, find?_eq_some_of_mem distinct otherMember]
  rfl

/-- When only one variable keeps its default, and that default is not empty, settings are
promised. -/
theorem Promises.exists_settings {leaf : Leaf}
    (distinct : (forest.leaves.map Leaf.envName).Nodup) (member : leaf ∈ forest.leaves)
    (nonempty : (fallback leaf).isEmpty = false)
    (promises : forest.Promises fallback (forest.without leaf) result) :
    ∃ settings, result = .ok settings := by
  have resolvable : ∀ other ∈ forest.leaves, ∃ value,
      other.resolve fallback (forest.without leaf) = .ok value ∧ value.isEmpty = false := by
    intro other otherMember
    by_cases same : other = leaf
    · subst same
      exact ⟨_, by rw [Leaf.resolve, without_self], nonempty⟩
    · obtain ⟨value, parsed, isSet⟩ := Kind.parseAs_sample other.default.kind
      refine ⟨value, ?_, isSet⟩
      rw [Leaf.resolve, without_of_ne distinct member otherMember same]
      exact Outcome.mapCause_eq_ok_iff.mpr parsed
  obtain ⟨resolved, success⟩ := Leaf.exists_resolveAll fun other otherMember =>
    (resolvable other otherMember).imp fun _ both => both.1
  obtain ⟨sameLeaves, resolves⟩ := Leaf.resolveAll_eq_ok_iff.mp success
  have noneUnset : resolved.find? Leaf.isUnset = none := by
    refine List.find?_eq_none.mpr ?_
    intro entry inResolved
    have inForest : entry.1 ∈ forest.leaves := sameLeaves ▸ List.mem_map_of_mem inResolved
    obtain ⟨value, resolvesTo, isSet⟩ := resolvable entry.1 inForest
    rw [resolves entry inResolved] at resolvesTo
    obtain rfl := Except.ok.inj resolvesTo
    simp [Leaf.isUnset, isSet]
  simp only [Promises, success, noneUnset] at promises
  obtain ⟨settings, returned, -⟩ := promises
  exact ⟨settings, returned⟩

end Config.Forest

namespace Module

variable {module : Module} {forest : Forest} {environment : Environment}

namespace Prepared

/-- A module keeps the promises of its configuration for the defaults as it writes them down. -/
theorem promises (prepared : module.Prepared forest) (environment : Environment) :
    forest.Promises Leaf.writtenDefault environment (module.run .empty environment) := by
  rw [Forest.Promises]
  cases outcome : Leaf.resolveAll Leaf.writtenDefault environment forest.leaves with
  | error failure => exact prepared.run_of_error outcome
  | ok resolved =>
      obtain ⟨settings, atPaths, returned⟩ := prepared.run_of_ok outcome
      cases unset : resolved.find? Leaf.isUnset with
      | some entry =>
          rw [unset] at returned
          simpa only [unset] using returned
      | none =>
          rw [unset] at returned
          simpa only [unset] using ⟨settings, returned, atPaths⟩

/-- A variable whose declared default is promised in settings keeps it when it is read again. -/
theorem reread_of_promises (prepared : module.Prepared forest) {settings : Settings}
    {leaf : Leaf} (member : leaf ∈ forest.leaves) (absent : environment leaf.envName = none)
    (returned : module.run .empty environment = .ok settings)
    (declared : forest.Promises Leaf.default environment (module.run .empty environment)) :
    leaf.default.reread = leaf.default := by
  have written := prepared.promises environment
  rw [returned] at declared written
  have fromDeclared := declared.value?_default member absent
  have fromWritten := written.value?_default member absent
  rw [fromDeclared] at fromWritten
  exact (Option.some.inj fromWritten).symm

/-- The promises for the declared defaults are kept exactly when every default survives being
read again. -/
theorem promises_default_iff (prepared : module.Prepared forest) :
    (∀ environment, environment.Harmless →
        forest.Promises Leaf.default environment (module.run .empty environment)) ↔
      ∀ leaf ∈ forest.leaves, leaf.default.reread = leaf.default := by
  constructor
  · intro declared leaf member
    cases isEmpty : leaf.default.isEmpty with
    | true => exact Value.reread_of_isEmpty isEmpty
    | false =>
        have promised := declared (forest.without leaf) (Forest.harmless_without leaf)
        obtain ⟨settings, returned⟩ :=
          promised.exists_settings prepared.envNames_nodup member isEmpty
        exact prepared.reread_of_promises member (Forest.without_self leaf) returned promised
  · intro survive environment harmless
    exact (Forest.promises_congr survive).mp (prepared.promises environment)

end Prepared

variable {text : String} {declarations : List Declaration} {front : Option String}
  {options : Options}

/-- Every module for the declarations of a file keeps the promises of its configuration for the
defaults as it writes them down, and reports nothing but overrides that do not convert and
variables that are unset.  It keeps the promises for the declared defaults exactly when each of
them is still the same after its address, if it has one, was read again. -/
theorem run_promises (read : Declaration.readTyped text = .ok declarations)
    (built : Forest.build declarations front = .ok forest)
    (made : synthesize forest options = .ok module) :
    (∀ environment,
        forest.Promises Leaf.writtenDefault environment (module.run .empty environment)) ∧
      (∀ environment stop, environment.Harmless →
        module.run .empty environment = .error stop → stop.IsReported) ∧
      ((∀ environment, environment.Harmless →
          forest.Promises Leaf.default environment (module.run .empty environment)) ↔
        ∀ leaf ∈ forest.leaves, leaf.default.reread = leaf.default) := by
  have prepared := prepared_of_synthesize read built made
  refine ⟨prepared.promises, ?_, prepared.promises_default_iff⟩
  intro environment stop harmless ended
  exact (prepared.promises environment).isReported harmless ended

open Forest in
theorem run_promises_interleaved :
    ∃ module, synthesize interleavedForest .standard = .ok module ∧
      (∀ environment, interleavedForest.Promises Leaf.writtenDefault environment
        (module.run .empty environment)) ∧
      (∀ environment stop, environment.Harmless →
        module.run .empty environment = .error stop → stop.IsReported) ∧
      ((∀ environment, environment.Harmless →
          interleavedForest.Promises Leaf.default environment (module.run .empty environment)) ↔
        ∀ leaf ∈ interleavedForest.leaves, leaf.default.reread = leaf.default) := by
  have read : Declaration.readTyped "P_A__B=x\nP_C=3\n\nP_A__D__E=t\n" = .ok interleaved := by
    decide +kernel
  have built : build interleaved (some "P") = .ok interleavedForest := rfl
  obtain ⟨module, made⟩ := exists_module_interleaved
  exact ⟨module, made, run_promises read built made⟩

/-- The address of `file://[::1]//C:/x`.  It is written with one slash before the drive, and what
is written is read as an address without a host. -/
def remoteDrive : Url :=
  ⟨"file".toList, some ⟨[], [], .ipv6 [0, 0, 0, 0, 0, 0, 0, 1], none⟩,
    .rooted ["C:".toList, "x".toList], none, none⟩

/-- The configuration of `A=file://[::1]//C:/x`. -/
def remoteForest : Forest :=
  ⟨[.leaf "A" "a" ⟨"A", "A_ENV_NAME", ["a"], .url (some remoteDrive), 1⟩]⟩

theorem not_promises_remoteForest :
    ∃ declarations module,
      Declaration.readTyped "A=file://[::1]//C:/x" = .ok declarations ∧
      Forest.build declarations none = .ok remoteForest ∧
      synthesize remoteForest .standard = .ok module ∧
      Environment.Harmless (fun _ => none) ∧
      ¬remoteForest.Promises Leaf.default (fun _ => none)
        (module.run .empty fun _ => none) := by
  have read : Declaration.readTyped "A=file://[::1]//C:/x" =
      .ok [⟨"A", "file://[::1]//C:/x", .url (some remoteDrive), 1⟩] := by decide +kernel
  have built : Forest.build [⟨"A", "file://[::1]//C:/x", .url (some remoteDrive), 1⟩] none =
      .ok remoteForest := rfl
  have returns : (synthesize remoteForest .standard).toOption.any (fun module =>
      (module.run .empty fun _ => none).toOption.isSome) = true := by decide +kernel
  cases made : synthesize remoteForest .standard with
  | error failure => rw [made] at returns; cases returns
  | ok module =>
      have prepared := prepared_of_synthesize read built made
      have harmless : Environment.Harmless fun _ => none := by
        intro name text found
        cases found
      have member : (⟨"A", "A_ENV_NAME", ["a"], .url (some remoteDrive), 1⟩ : Leaf) ∈
          remoteForest.leaves := List.mem_singleton_self _
      refine ⟨_, module, read, built, rfl, harmless, ?_⟩
      intro declared
      cases returned : module.run .empty fun _ => none with
      | error stop =>
          rw [made] at returns
          simp [Except.toOption, returned] at returns
      | ok settings =>
          have survives := prepared.reread_of_promises member rfl returned declared
          have changes : (Value.url (some remoteDrive)).reread ≠ .url (some remoteDrive) := by
            decide +kernel
          exact changes survives

end Module

end TypedEnv
