import Mathlib.Data.List.Forall2
import TypedEnv.Outcome

/-!
# Successful steps

A computation returns a result exactly when each of its steps returns one.
The lemmas below take such a computation apart, step by step; for a list of
steps they relate the elements to the results one by one.
-/

namespace TypedEnv

variable {ε δ α β : Type}

theorem bind_eq_ok_iff {step : Except ε α} {next : α → Except ε β} {result : β} :
    step >>= next = .ok result ↔ ∃ value, step = .ok value ∧ next value = .ok result := by
  cases step with
  | error cause => simp [bind, Except.bind]
  | ok value => simp [bind, Except.bind]

theorem bind_eq_error_iff {step : Except ε α} {next : α → Except ε β} {cause : ε} :
    step >>= next = .error cause ↔
      step = .error cause ∨ ∃ value, step = .ok value ∧ next value = .error cause := by
  cases step with
  | error other => simp [bind, Except.bind]
  | ok value => simp [bind, Except.bind]

theorem pure_eq_ok_iff {value result : α} :
    (pure value : Except ε α) = .ok result ↔ value = result := by
  simp [pure, Except.pure]

/-- Nothing fails in making a value of a result. -/
theorem exists_bind_pure_eq_ok_iff {step : Except ε α} {make : α → β} :
    (∃ result, (step >>= fun value => pure (make value)) = .ok result) ↔
      ∃ value, step = .ok value := by
  cases step with
  | error cause => simp [bind, Except.bind]
  | ok value => simp [bind, Except.bind, pure, Except.pure]

theorem bind_pure_eq_error_iff {step : Except ε α} {make : α → β} {cause : ε} :
    (step >>= fun value => pure (make value)) = .error cause ↔ step = .error cause := by
  cases step <;> simp [bind, Except.bind, pure, Except.pure]

theorem mapError_eq_ok_iff {change : ε → δ} {step : Except ε α} {result : α} :
    step.mapError change = .ok result ↔ step = .ok result := by
  cases step <;> simp [Except.mapError]

theorem map_eq_ok_iff {change : α → β} {step : Except ε α} {result : β} :
    step.map change = .ok result ↔ ∃ value, step = .ok value ∧ change value = result := by
  cases step <;> simp [Except.map]

theorem map_eq_error_iff {change : α → β} {step : Except ε α} {cause : ε} :
    step.map change = .error cause ↔ step = .error cause := by
  cases step <;> simp [Except.map]

/-- What holds at the start and stays with each step of a run holds at its end.  A step may know
where in the list it is. -/
theorem foldlM_induction {step : β → α → Except ε β} {motive : List α → β → Prop} {items : List α}
    {start result : β} (run : items.foldlM step start = .ok result) (holds : motive [] start)
    (stays : ∀ before item after state next, items = before ++ item :: after →
      motive before state → step state item = .ok next → motive (before ++ [item]) next) :
    motive items result := by
  have goesOn : ∀ before rest state, items = before ++ rest → motive before state →
      rest.foldlM step state = .ok result → motive items result := by
    intro before rest
    induction rest generalizing before with
    | nil =>
        intro state parts holds ended
        obtain rfl := pure_eq_ok_iff.mp ended
        rwa [parts, List.append_nil]
    | cons item after induction =>
        intro state parts holds run
        rw [List.foldlM_cons] at run
        obtain ⟨next, taken, others⟩ := bind_eq_ok_iff.mp run
        have nextHolds := stays before item after state next parts holds taken
        rw [List.append_cons] at parts
        exact induction (before ++ [item]) next parts nextHolds others
  exact goesOn [] items start rfl holds run

/-- A list of steps succeeds when each of them does. -/
theorem mapM_eq_ok_iff {step : α → Except ε β} {items : List α} {results : List β} :
    items.mapM step = .ok results ↔
      List.Forall₂ (fun item result => step item = .ok result) items results := by
  induction items generalizing results with
  | nil => rw [List.mapM_nil, pure_eq_ok_iff, List.forall₂_nil_left_iff, eq_comm]
  | cons item items induction =>
      rw [List.mapM_cons, bind_eq_ok_iff]
      constructor
      · rintro ⟨result, first, rest⟩
        obtain ⟨others, more, equality⟩ := bind_eq_ok_iff.mp rest
        obtain rfl := pure_eq_ok_iff.mp equality
        exact .cons first (induction.mp more)
      · intro related
        cases related with
        | cons first rest =>
            refine ⟨_, first, bind_eq_ok_iff.mpr ⟨_, induction.mpr rest, rfl⟩⟩

theorem mapM_eq_some_iff {step : α → Option β} {items : List α} {results : List β} :
    items.mapM step = some results ↔
      List.Forall₂ (fun item result => step item = some result) items results := by
  induction items generalizing results with
  | nil => rw [List.mapM_nil, List.forall₂_nil_left_iff, Option.pure_def, Option.some_inj, eq_comm]
  | cons item items induction =>
      rw [List.mapM_cons, Option.bind_eq_bind, Option.bind_eq_some_iff]
      constructor
      · rintro ⟨result, first, rest⟩
        obtain ⟨others, more, equality⟩ := Option.bind_eq_some_iff.mp rest
        obtain rfl := Option.some_inj.mp equality
        exact .cons first (induction.mp more)
      · intro related
        cases related with
        | cons first rest =>
            refine ⟨_, first, Option.bind_eq_some_iff.mpr ⟨_, induction.mpr rest, rfl⟩⟩

theorem mapM_eq_some_map {step : α → Option β} (image : α → β) {items : List α}
    (each : ∀ item ∈ items, step item = some (image item)) :
    items.mapM step = some (items.map image) := by
  induction items with
  | nil => rfl
  | cons item rest induction =>
      rw [List.mapM_cons, each item List.mem_cons_self,
        induction fun other member => each other (List.mem_cons_of_mem _ member)]
      rfl

/-- Every result of a list of steps comes from one of them. -/
theorem exists_of_mem_mapM {step : α → Option β} {items : List α} {results : List β}
    (found : items.mapM step = some results) :
    ∀ result ∈ results, ∃ item ∈ items, step item = some result := by
  have related := mapM_eq_some_iff.mp found
  clear found
  induction related with
  | nil => simp
  | @cons item result items results first _ induction =>
      intro other member
      rcases List.mem_cons.mp member with rfl | later
      · exact ⟨item, List.mem_cons_self, first⟩
      · obtain ⟨source, inItems, step⟩ := induction other later
        exact ⟨source, List.mem_cons_of_mem _ inItems, step⟩

namespace Outcome

theorem ofError_eq_ok_iff {step : Except ε α} {result : α} :
    ofError step = .ok result ↔ step = .ok result := by
  cases step <;> simp [ofError]

theorem ofError_ne_abort {step : Except ε α} {reason : Abort} :
    ofError step ≠ .error (.abort reason) := by
  cases step <;> simp [ofError]

theorem ofAbort_eq_ok_iff {step : Except Abort α} {result : α} :
    (ofAbort step : Outcome ε α) = .ok result ↔ step = .ok result := by
  cases step <;> simp [ofAbort]

theorem mapCause_eq_ok_iff {change : ε → δ} {step : Outcome ε α} {result : α} :
    step.mapCause change = .ok result ↔ step = .ok result := by
  match step with
  | .ok value => simp [mapCause]
  | .error (.error cause) => simp [mapCause]
  | .error (.abort reason) => simp [mapCause]

theorem mapCause_eq_error_iff {change : ε → δ} {step : Outcome ε α} {cause : δ} :
    step.mapCause change = .error (.error cause) ↔
      ∃ original, step = .error (.error original) ∧ change original = cause := by
  match step with
  | .ok value => simp [mapCause]
  | .error (.error original) => simp [mapCause]
  | .error (.abort reason) => simp [mapCause]

theorem mapCause_eq_abort_iff {change : ε → δ} {step : Outcome ε α} {reason : Abort} :
    step.mapCause change = .error (.abort reason) ↔ step = .error (.abort reason) := by
  match step with
  | .ok value => simp [mapCause]
  | .error (.error cause) => simp [mapCause]
  | .error (.abort other) => simp [mapCause]

end Outcome

end TypedEnv
