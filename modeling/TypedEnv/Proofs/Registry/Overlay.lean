import TypedEnv.Proofs.Value.Kind
import TypedEnv.Registry.Startup

/-!
# Overrides one by one

An environment is applied to the variables in order.  When every override
converts, each variable is changed by its own; otherwise the variables before
the first override that fails are changed and all others stay as they are.
-/

namespace TypedEnv

/-- What an environment makes of a variable. -/
def Variable.override (environment : Environment) (entry : Variable) :
    Outcome EnvError Variable :=
  match environment entry.name with
  | none => .ok entry
  | some text => entry.set text

variable {environment : Environment} {entry changed : Variable} {entries results : List Variable}
  {failure : Failure EnvError} {failure? : Option (Failure EnvError)}

theorem overlayVariables_cons (entry : Variable) (rest : List Variable) :
    overlayVariables environment (entry :: rest) =
      match entry.override environment with
      | .error failure => (entry :: rest, some failure)
      | .ok changed =>
          (changed :: (overlayVariables environment rest).1,
            (overlayVariables environment rest).2) :=
  rfl

/-- An override sets its variable. -/
theorem Variable.override_of_some {text : String} (found : environment entry.name = some text) :
    entry.override environment = entry.set text := by
  rw [override, found]

/-- An override fails with an error exactly when its text does not convert; the error names the
variable and the text. -/
theorem Variable.override_eq_error_iff {error : EnvError} :
    entry.override environment = .error (.error error) ↔
      ∃ cause, environment entry.name = some cause.text ∧
        parseAs entry.value.kind cause.text = .error (.error cause) ∧
        error = .conversion entry.name cause := by
  constructor
  · intro failed
    rw [override] at failed
    split at failed
    · cases failed
    · next text found =>
        rw [set] at failed
        split at failed
        · cases failed
        · obtain ⟨cause, refused, rfl⟩ :=
            Outcome.mapCause_eq_error_iff.mp (map_eq_error_iff.mp failed)
          obtain ⟨rfl, -⟩ := of_parseAs_eq_error refused
          exact ⟨cause, found, refused, rfl⟩
  · rintro ⟨cause, found, refused, rfl⟩
    have counts : ¬ (entry.value.kind = .stringList ∧ cause.text.isEmpty = true) := by
      rintro ⟨isList, -⟩
      rw [isList] at refused
      cases refused
    rw [override_of_some found, set, if_neg counts, refused]
    rfl

/-- An environment applies without a failure exactly when every override converts. -/
theorem overlayVariables_eq_none_iff :
    overlayVariables environment entries = (results, none) ↔
      List.Forall₂ (fun entry changed => entry.override environment = .ok changed) entries
        results := by
  induction entries generalizing results with
  | nil => simp [overlayVariables, List.forall₂_nil_left_iff, eq_comm]
  | cons entry rest induction =>
      cases step : entry.override environment with
      | error failure =>
          rw [overlayVariables_cons, step]
          dsimp only
          constructor
          · intro impossible
            cases impossible
          · intro related
            cases related with
            | cons first others =>
                rw [step] at first
                cases first
      | ok changed =>
          rw [overlayVariables_cons, step]
          dsimp only
          constructor
          · intro applied
            obtain ⟨rfl, noFailure⟩ := Prod.mk.inj applied
            exact .cons step (induction.mp (Prod.ext rfl noFailure))
          · intro related
            cases related with
            | cons first others =>
                rw [step] at first
                cases first
                rw [induction.mpr others]

/-- An environment fails exactly with the first override that does; the variables before it are
changed and those from it on are not. -/
theorem overlayVariables_eq_some_iff :
    overlayVariables environment entries = (results, some failure) ↔
      ∃ before entry after changed, entries = before ++ entry :: after ∧
        List.Forall₂ (fun entry changed => entry.override environment = .ok changed) before
          changed ∧
        entry.override environment = .error failure ∧ results = changed ++ entry :: after := by
  induction entries generalizing results with
  | nil => simp [overlayVariables]
  | cons first rest induction =>
      cases step : first.override environment with
      | error cause =>
          rw [overlayVariables_cons, step]
          dsimp only
          constructor
          · intro applied
            cases applied
            exact ⟨[], first, rest, [], rfl, .nil, step, rfl⟩
          · rintro ⟨before, entry, after, changed, split, related, failed, rfl⟩
            cases related with
            | nil =>
                cases split
                rw [step] at failed
                cases failed
                rfl
            | cons head others =>
                cases split
                rw [step] at head
                cases head
      | ok result =>
          rw [overlayVariables_cons, step]
          dsimp only
          constructor
          · intro applied
            obtain ⟨rfl, failed⟩ := Prod.mk.inj applied
            obtain ⟨before, entry, after, changed, rfl, related, fails, same⟩ :=
              induction.mp (Prod.ext rfl failed)
            exact ⟨first :: before, entry, after, result :: changed, rfl, .cons step related, fails,
              congrArg (result :: ·) same⟩
          · rintro ⟨before, entry, after, changed, split, related, failed, rfl⟩
            cases related with
            | nil =>
                cases split
                rw [step] at failed
                cases failed
            | cons head others =>
                cases split
                rw [step] at head
                cases head
                rw [induction.mpr ⟨_, entry, after, _, rfl, others, failed, rfl⟩]
                rfl

namespace Registry

variable {registry : Registry}

/-- The overlay of a registry changes its variables as the environment says, and tells whether
all overrides converted. -/
theorem overlay_eq (applied : overlayVariables environment registry.entries = (results, failure?)) :
    ∃ distinct, registry.overlay environment =
      (⟨results, registry.parsed || failure?.isNone, registry.dumps, distinct⟩, failure?) := by
  obtain ⟨rfl, rfl⟩ := Prod.mk.inj applied
  exact ⟨_, rfl⟩

theorem parsed_overlay (registry : Registry) (environment : Environment) :
    (registry.overlay environment).1.parsed =
      (registry.parsed || (registry.overlay environment).2.isNone) :=
  rfl

/-- A program ends when all overrides converted and a listing was asked for, and goes on
otherwise. -/
theorem start_eq (registry : Registry) (environment : Environment) :
    registry.start environment =
      if registry.dumps = true ∧ (registry.overlay environment).2 = none then
        .ends (.success (registry.overlay environment).1.dump)
      else .continues (registry.overlay environment).1 (registry.overlay environment).2 := by
  have sameDumps : (registry.overlay environment).1.dumps = registry.dumps := rfl
  rw [start, ← sameDumps]
  cases registry.overlay environment with
  | mk changed failure? => cases failure? <;> simp

theorem start_of_quiet (quiet : registry.dumps = false) : registry.start environment =
    .continues (registry.overlay environment).1 (registry.overlay environment).2 := by
  rw [start_eq, if_neg (by simp [quiet])]

end Registry

end TypedEnv
