import TypedEnv.Proofs.Registry.Overrun
import TypedEnv.Proofs.Registry.Variables

/-!
# The effect of an environment

An environment is applied to the variables in order.  When all overrides
convert, the registry counts as parsed; otherwise it keeps the values that were
set before the first override that does not, and nothing else about it
changes.  Only the names that are registered are looked up.
-/

namespace TypedEnv

/-- What an environment makes of a variable whose override converts or is missing.  An empty text
is no override of a list. -/
inductive Variable.Overlaid (environment : Environment) (entry : Variable) : Variable → Prop
  | absent (missing : environment entry.name = none) : Overlaid environment entry entry
  | kept (isList : entry.value.kind = .stringList) (isEmpty : environment entry.name = some "") :
      Overlaid environment entry entry
  | converted {text : String} {value : Value} (found : environment entry.name = some text)
      (counts : ¬ (entry.value.kind = .stringList ∧ text = ""))
      (reads : parseAs entry.value.kind text = .ok value) :
      Overlaid environment entry { entry with value }

/-- What an environment makes of a registry, and the error that is returned. -/
inductive Registry.Effect (environment : Environment) (registry : Registry) :
    Registry → Option EnvError → Prop
  | applied {entries : List Variable} {distinct : (entries.map Variable.name).Nodup}
      (overlaid : List.Forall₂ (Variable.Overlaid environment) registry.entries entries) :
      Effect environment registry { registry with entries, distinct, parsed := true } none
  | refused {before after changed : List Variable} {entry : Variable} {cause : InferError}
      {distinct : ((changed ++ entry :: after).map Variable.name).Nodup}
      (isSplit : registry.entries = before ++ entry :: after)
      (overlaid : List.Forall₂ (Variable.Overlaid environment) before changed)
      (found : environment entry.name = some cause.text)
      (refuses : parseAs entry.value.kind cause.text = .error (.error cause)) :
      Effect environment registry { registry with entries := changed ++ entry :: after, distinct }
        (some (.conversion entry.name cause))

namespace Variable

variable {environment : Environment} {entry changed : Variable}

theorem override_eq_ok_iff :
    entry.override environment = .ok changed ↔ entry.Overlaid environment changed := by
  constructor
  · intro success
    rw [override] at success
    split at success
    · next missing =>
        cases success
        exact .absent missing
    · next text found =>
        rw [set] at success
        split at success
        · next kept =>
            cases success
            exact .kept kept.1 (String.isEmpty_iff.mp kept.2 ▸ found)
        · next counts =>
            obtain ⟨value, converted, rfl⟩ := map_eq_ok_iff.mp success
            rw [String.isEmpty_iff] at counts
            exact .converted found counts (Outcome.mapCause_eq_ok_iff.mp converted)
  · intro overlaid
    cases overlaid with
    | absent missing => rw [override, missing]
    | kept isList isEmpty => rw [override_of_some isEmpty, set, if_pos ⟨isList, rfl⟩]
    | converted found counts reads =>
        rw [← String.isEmpty_iff] at counts
        rw [override_of_some found, set, if_neg counts, reads]
        rfl

end Variable

/-- An environment applies without a failure exactly when it overlays every variable. -/
theorem overlayVariables_eq_none_iff_overlaid {environment : Environment}
    {entries results : List Variable} :
    overlayVariables environment entries = (results, none) ↔
      List.Forall₂ (Variable.Overlaid environment) entries results := by
  simp only [overlayVariables_eq_none_iff, Variable.override_eq_ok_iff]

theorem exists_overlaid_of_mem {environment : Environment} {entries results : List Variable}
    (overlaid : List.Forall₂ (Variable.Overlaid environment) entries results) :
    ∀ entry ∈ entries, ∃ result, entry.Overlaid environment result := by
  induction overlaid with
  | nil => simp
  | @cons first result rest results step overlaid induction =>
      rw [List.forall_mem_cons]
      exact ⟨⟨result, step⟩, induction⟩

/-- Only the names of the variables are looked up. -/
theorem overlayVariables_congr {environment other : Environment} {entries : List Variable}
    (agrees : ∀ entry ∈ entries, other entry.name = environment entry.name) :
    overlayVariables other entries = overlayVariables environment entries := by
  induction entries with
  | nil => rfl
  | cons entry rest induction =>
      have same : entry.override other = entry.override environment := by
        rw [Variable.override, agrees entry List.mem_cons_self, Variable.override]
      rw [overlayVariables_cons, overlayVariables_cons, same,
        induction fun later member => agrees later (List.mem_cons_of_mem _ member)]

namespace Registry

variable {registry changed : Registry} {environment : Environment} {error? : Option EnvError}

/-- The overlay has an effect, unless it meets a text that stops the program. -/
theorem exists_effect (noOverrun : ¬ registry.MeetsOverrun environment) :
    ∃ changed error?, registry.overlay environment = (changed, error?.map .error) ∧
      registry.Effect environment changed error? := by
  cases step : overlayVariables environment registry.entries with
  | mk entries failure? =>
      obtain ⟨distinct, applied⟩ := overlay_eq step
      cases failure? with
      | none =>
          have overlaid := overlayVariables_eq_none_iff_overlaid.mp step
          rw [Option.isNone_none, Bool.or_true] at applied
          exact ⟨_, none, applied, .applied overlaid⟩
      | some failure =>
          cases failure with
          | error error =>
              obtain ⟨before, entry, after, changed, isSplit, overlaid, failed, rfl⟩ :=
                overlayVariables_eq_some_iff.mp step
              simp only [Variable.override_eq_ok_iff] at overlaid
              obtain ⟨cause, found, refuses, rfl⟩ := Variable.override_eq_error_iff.mp failed
              rw [Option.isNone_some, Bool.or_false] at applied
              exact ⟨_, some (.conversion entry.name cause), applied,
                .refused isSplit overlaid found refuses⟩
          | abort reason =>
              have stops : (overlayVariables environment registry.entries).2 =
                  some (.abort reason) := by
                rw [step]
              exact absurd (overlayVariables_stops_iff.mp stops).2 noOverrun

/-- No error is returned exactly when every override converts. -/
theorem Effect.error?_eq_none_iff (effect : registry.Effect environment changed error?) :
    error? = none ↔
      ∀ entry ∈ registry.entries, ∃ overlaid, entry.Overlaid environment overlaid := by
  cases effect with
  | applied overlaid => exact iff_of_true rfl (exists_overlaid_of_mem overlaid)
  | @refused before after results entry cause distinct isSplit overlaid found refuses =>
      refine iff_of_false (Option.some_ne_none _) fun all => ?_
      have member : entry ∈ registry.entries := by simp [isSplit]
      obtain ⟨result, converts⟩ := all entry member
      have failed : entry.override environment = .error (.error (.conversion entry.name cause)) :=
        Variable.override_eq_error_iff.mpr ⟨cause, found, refuses, rfl⟩
      rw [Variable.override_eq_ok_iff.mpr converts] at failed
      cases failed

/-- Starting applies the overrides in order up to the first that does not convert, whose variable
and text it reports; it keeps what identifies the variables, and looks up only their names. -/
theorem start_has_effect (quiet : registry.dumps = false)
    (noOverrun : ¬ registry.MeetsOverrun environment) :
    (∃ changed error?, registry.start environment = .continues changed (error?.map .error) ∧
      registry.Effect environment changed error? ∧
      (error? = none ↔
        ∀ entry ∈ registry.entries, ∃ overlaid, entry.Overlaid environment overlaid) ∧
      changed.profiles = registry.profiles) ∧
    ∀ other : Environment, (∀ name ∈ registry.names, other name = environment name) →
      registry.start other = registry.start environment := by
  constructor
  · obtain ⟨changed, error?, applied, effect⟩ := exists_effect noOverrun
    refine ⟨changed, error?, ?_, effect, effect.error?_eq_none_iff, ?_⟩
    · rw [start_of_quiet quiet, applied]
    · rw [← profiles_of_overlay registry environment, applied]
  · intro other agrees
    have sameVariables : overlayVariables other registry.entries =
        overlayVariables environment registry.entries := by
      refine overlayVariables_congr fun entry member => ?_
      exact agrees entry.name (List.mem_map_of_mem member)
    have same : registry.overlay other = registry.overlay environment := by
      simp only [overlay, sameVariables]
    rw [start, same, start]

/-- Four variables, of which `overrides` sets the first and leaves the second alone. -/
def serverRegistry : Registry :=
  ⟨[.ofDefault "WAIT" (.duration .zero), .ofDefault "HOSTS" (.stringList ["a", "b"]),
    .ofDefault "PORT" (.uint 80), .ofDefault "DEBUG" (.bool false)], false, false, by decide⟩

/-- The text for `PORT` has a letter in place of a zero. -/
def overrides (name : String) : Option String :=
  [("WAIT", "1.5s"), ("HOSTS", ""), ("PORT", "8o80"), ("DEBUG", "t")].lookup name

/-- The variable behind the failing one keeps its value, although its override converts. -/
theorem start_has_effect_serverRegistry :
    serverRegistry.dumps = false ∧ ¬ serverRegistry.MeetsOverrun overrides ∧
    (∃ changed error?, serverRegistry.start overrides = .continues changed (error?.map .error) ∧
      serverRegistry.Effect overrides changed error? ∧
      (error? = none ↔
        ∀ entry ∈ serverRegistry.entries, ∃ overlaid, entry.Overlaid overrides overlaid) ∧
      changed.profiles = serverRegistry.profiles) ∧
    serverRegistry.start (fun name => if name = "HOME" then some "/" else overrides name) =
      serverRegistry.start overrides ∧
    serverRegistry.overlay overrides =
      ({ serverRegistry with
          entries :=
            ⟨"WAIT", .duration ⟨1, 500000000, by decide, by decide⟩, "0s"⟩ ::
              serverRegistry.entries.tail
          distinct := by decide },
        some (.error (.conversion "PORT" ⟨"8o80", .notUint⟩))) := by
  have quiet : serverRegistry.dumps = false := rfl
  have noOverrun : ¬ serverRegistry.MeetsOverrun overrides := by
    intro meets
    have stops := overlayVariables_stops_iff.mpr ⟨rfl, meets⟩
    exact absurd stops (by decide +kernel)
  have effect := start_has_effect quiet noOverrun
  refine ⟨quiet, noOverrun, effect.1, effect.2 _ ?_, ?_⟩
  · decide
  · decide +kernel

end Registry

end TypedEnv
