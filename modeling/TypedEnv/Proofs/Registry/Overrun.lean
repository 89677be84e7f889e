import TypedEnv.Proofs.Duration.Overrun
import TypedEnv.Proofs.Duration.Spans
import TypedEnv.Proofs.Registry.Overlay
import TypedEnv.Proofs.Value.Inference

/-!
# Texts that stop the program

Whatever a text is, reading it returns a value or an error, with one exception.
A text of spans whose amounts fill up the last second of the durations stops
the program, wherever it is read: in inference, as a duration, and as the
override of a variable that holds one.
-/

namespace TypedEnv

variable {text : String} {reason : Abort}

theorem parseAs_stops_iff {kind : Kind} : parseAs kind text = .error (.abort reason) ↔
    kind = .duration ∧ reason = .secondsOverflow ∧ Duration.Overruns text.toList := by
  rw [parseAs_eq_abort_iff, Duration.read?_eq_error_iff]

/-- A text that overruns is no number, so inference reads it as a duration. -/
theorem infer_stops_iff : infer text = .error (.abort reason) ↔
    reason = .secondsOverflow ∧ Duration.Overruns text.toList := by
  rw [infer_eq_abort_iff, Duration.read?_eq_error_iff]
  constructor
  · rintro ⟨-, -, stops⟩
    exact stops
  · rintro ⟨rfl, overruns⟩
    obtain ⟨spans, amounts, reads, -⟩ := id overruns
    have isSpanText := Span.isSpanText_of_readAll? reads
    have filled : text ≠ "" := by
      rintro rfl
      obtain ⟨c, member, -⟩ := isSpanText.digit
      simp at member
    exact ⟨filled, inferNumber?_of_isSpanText isSpanText, rfl, overruns⟩

namespace Variable

variable {entry : Variable} {environment : Environment}

theorem set_stops_iff : entry.set text = .error (.abort reason) ↔
    entry.value.kind = .duration ∧ reason = .secondsOverflow ∧
      Duration.Overruns text.toList := by
  rw [set]
  split
  · next kept =>
      have noDuration : entry.value.kind ≠ .duration := by
        rw [kept.1]
        decide
      simp [noDuration]
  · rw [map_eq_error_iff, Outcome.mapCause_eq_abort_iff, parseAs_stops_iff]

theorem override_stops_iff : entry.override environment = .error (.abort reason) ↔
    ∃ text, environment entry.name = some text ∧ entry.value.kind = .duration ∧
      reason = .secondsOverflow ∧ Duration.Overruns text.toList := by
  rw [override]
  cases environment entry.name with
  | none => simp
  | some text => simp [set_stops_iff]

end Variable

namespace Registry

variable {registry : Registry} {environment : Environment}

theorem set_stops_iff {name : String} : registry.set name text = .error (.abort reason) ↔
    (∃ entry, registry.find? name = some entry ∧ entry.value.kind = .duration) ∧
      reason = .secondsOverflow ∧ Duration.Overruns text.toList := by
  rw [set]
  cases registry.find? name with
  | none => simp
  | some entry =>
      dsimp only
      rw [map_eq_error_iff, Variable.set_stops_iff]
      simp

/-- The first override that does not convert is a text that overruns, given to a duration. -/
def MeetsOverrun (registry : Registry) (environment : Environment) : Prop :=
  ∃ before entry after changed text, registry.entries = before ++ entry :: after ∧
    List.Forall₂ (fun entry changed => entry.override environment = .ok changed) before changed ∧
    environment entry.name = some text ∧ entry.value.kind = .duration ∧
    Duration.Overruns text.toList

theorem overlayVariables_stops_iff :
    (overlayVariables environment registry.entries).2 = some (.abort reason) ↔
      reason = .secondsOverflow ∧ registry.MeetsOverrun environment := by
  constructor
  · intro stopped
    obtain ⟨before, entry, after, changed, split, related, fails, -⟩ :=
      overlayVariables_eq_some_iff.mp (Prod.ext rfl stopped)
    obtain ⟨text, found, isDuration, rfl, overruns⟩ := Variable.override_stops_iff.mp fails
    exact ⟨rfl, before, entry, after, changed, text, split, related, found, isDuration, overruns⟩
  · rintro ⟨rfl, before, entry, after, changed, text, split, related, found, isDuration, overruns⟩
    have fails := Variable.override_stops_iff.mpr ⟨text, found, isDuration, rfl, overruns⟩
    rw [overlayVariables_eq_some_iff.mpr
      ⟨before, entry, after, changed, split, related, fails, rfl⟩]

theorem cause_of_overlayVariables {error : EnvError}
    (failed : (overlayVariables environment registry.entries).2 = some (.error error)) :
    ∃ name cause, error = .conversion name cause := by
  obtain ⟨-, entry, -, -, -, -, fails, -⟩ := overlayVariables_eq_some_iff.mp (Prod.ext rfl failed)
  obtain ⟨cause, -, -, rfl⟩ := Variable.override_eq_error_iff.mp fails
  exact ⟨entry.name, cause, rfl⟩

/-- Reading a text, setting a variable and applying an environment return a result or an error,
unless they meet a text of spans that overruns; that stops the program, and nothing else does. -/
theorem stops_iff_overruns (registry : Registry) (environment : Environment) (kind : Kind)
    (name text : String) (reason : Abort) :
    (infer text = .error (.abort reason) ↔
      reason = .secondsOverflow ∧ Duration.Overruns text.toList) ∧
    (parseAs kind text = .error (.abort reason) ↔
      kind = .duration ∧ reason = .secondsOverflow ∧ Duration.Overruns text.toList) ∧
    (registry.set name text = .error (.abort reason) ↔
      (∃ entry, registry.find? name = some entry ∧ entry.value.kind = .duration) ∧
        reason = .secondsOverflow ∧ Duration.Overruns text.toList) ∧
    (registry.dumps = false →
      ∃ changed failure?, registry.start environment = .continues changed failure? ∧
        (∀ error, failure? = some (.error error) → ∃ name cause, error = .conversion name cause) ∧
        (failure? = some (.abort reason) ↔
          reason = .secondsOverflow ∧ registry.MeetsOverrun environment)) := by
  refine ⟨infer_stops_iff, parseAs_stops_iff, set_stops_iff, fun quiet => ?_⟩
  exact ⟨_, _, start_of_quiet quiet, fun error failed => cause_of_overlayVariables failed,
    overlayVariables_stops_iff⟩

end Registry

/-- The longest duration in whole seconds and one second more, in milliseconds. -/
def lastSecond : String :=
  "18446744073709551615s1000ms"

/-- A registry that declares a duration and asks for no listing. -/
def waitingRegistry : Registry :=
  ⟨[.ofDefault "WAIT" (.duration .zero)], false, false, by decide⟩

theorem read?_lastSecond : Duration.read? lastSecond.toList = .error .secondsOverflow := by
  decide +kernel

theorem Registry.start_lastSecond : waitingRegistry.dumps = false ∧
    ∃ changed, waitingRegistry.start (fun _ => some lastSecond) =
      .continues changed (some (.abort .secondsOverflow)) := by
  have quiet : waitingRegistry.dumps = false := rfl
  have overruns := (Duration.read?_eq_error_iff.mp read?_lastSecond).2
  have meets : waitingRegistry.MeetsOverrun fun _ => some lastSecond :=
    ⟨[], _, [], [], lastSecond, rfl, .nil, rfl, rfl, overruns⟩
  obtain ⟨-, -, -, starts⟩ := stops_iff_overruns waitingRegistry (fun _ => some lastSecond)
    .duration "WAIT" lastSecond .secondsOverflow
  obtain ⟨changed, failure?, started, -, stops⟩ := starts quiet
  rw [stops.mpr ⟨rfl, meets⟩] at started
  exact ⟨quiet, changed, started⟩

/-- The program stops at the text, although the same sum in whole seconds is only refused. -/
theorem Registry.stops_at_lastSecond :
    infer lastSecond = .error (.abort .secondsOverflow) ∧
    parseAs .duration lastSecond = .error (.abort .secondsOverflow) ∧
    waitingRegistry.set "WAIT" lastSecond = .error (.abort .secondsOverflow) ∧
    infer "18446744073709551615s1s" = .ok (.string "18446744073709551615s1s") := by
  decide +kernel

end TypedEnv
