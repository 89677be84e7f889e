import TypedEnv.Proofs.Registry.Effect

/-!
# Environments one after the other

An override is read by the kind of its variable, and overrides keep kinds, so
the first of two environments never changes how the second one is read.  Two
environments therefore have the effect of one: the second wins wherever it has
a text that counts, which an empty text for a list does not.
-/

namespace TypedEnv

section Lists

variable {α : Type} {first second both : α → α → Prop} {items middle last : List α}

/-- Two steps that make one step item by item do so along a list. -/
theorem forall₂_of_steps (one : List.Forall₂ first items middle)
    (two : List.Forall₂ second middle last)
    (joins : ∀ item ∈ items, ∀ between result, first item between → second between result →
      both item result) : List.Forall₂ both items last := by
  induction one generalizing last with
  | nil =>
      cases two
      exact .nil
  | @cons item between items middle step others induction =>
      cases two with
      | cons nextStep nextOthers =>
          rw [List.forall_mem_cons] at joins
          exact .cons (joins.1 _ _ step nextStep) (induction nextOthers joins.2)

/-- What two steps make of each item is made along a list. -/
theorem exists_forall₂_steps
    (steps : List.Forall₂ (fun item result => ∃ between, first item between ∧ second between result)
      items last) :
    ∃ middle, List.Forall₂ first items middle ∧ List.Forall₂ second middle last := by
  induction steps with
  | nil => exact ⟨[], .nil, .nil⟩
  | cons step others induction =>
      obtain ⟨between, one, two⟩ := step
      obtain ⟨middle, firstOthers, secondOthers⟩ := induction
      exact ⟨between :: middle, .cons one firstOthers, .cons two secondOthers⟩

end Lists

namespace Variable.Overlaid

variable {environment other first second : Environment} {entry middle changed : Variable}

/-- An overlay looks at one name only. -/
theorem congr (overlaid : entry.Overlaid environment changed)
    (agrees : other entry.name = environment entry.name) : entry.Overlaid other changed := by
  rw [← override_eq_ok_iff, override] at overlaid ⊢
  rwa [agrees]

theorem profile_eq (overlaid : entry.Overlaid environment changed) :
    changed.profile = entry.profile := by
  cases overlaid with
  | absent missing => rfl
  | kept isList isEmpty => rfl
  | converted found counts reads => rw [profile, kind_of_parseAs reads, profile]

theorem name_eq (overlaid : entry.Overlaid environment changed) : changed.name = entry.name :=
  congrArg Prod.fst overlaid.profile_eq

theorem kind_eq (overlaid : entry.Overlaid environment changed) :
    changed.value.kind = entry.value.kind :=
  congrArg (·.2.1) overlaid.profile_eq

theorem eq_of_absent (overlaid : entry.Overlaid environment changed)
    (missing : environment entry.name = none) : changed = entry := by
  cases overlaid with
  | absent => rfl
  | kept => rfl
  | converted found =>
      rw [missing] at found
      cases found

/-- A second overlay by the same environment finds its work done. -/
theorem again (overlaid : entry.Overlaid environment changed) :
    changed.Overlaid environment changed := by
  cases overlaid with
  | absent missing => exact .absent missing
  | kept isList isEmpty => exact .kept isList isEmpty
  | @converted text value found counts reads =>
      have sameKind := kind_of_parseAs reads
      rw [← sameKind] at counts reads
      exact .converted found counts reads

/-- Environments of which at most one has a text for the variable change places. -/
theorem swap (one : entry.Overlaid first middle) (two : middle.Overlaid second changed)
    (disjoint : first entry.name = none ∨ second entry.name = none) :
    ∃ between, entry.Overlaid second between ∧ between.Overlaid first changed := by
  rcases disjoint with notFirst | notSecond
  · obtain rfl := one.eq_of_absent notFirst
    exact ⟨changed, two, .absent (two.name_eq ▸ notFirst)⟩
  · obtain rfl := two.eq_of_absent (one.name_eq ▸ notSecond)
    exact ⟨entry, .absent notSecond, one⟩

end Variable.Overlaid

namespace Registry

variable {registry middle last changed : Registry} {environment first second : Environment}
  {entry between result : Variable}

/-- Whether the variable of a name is a list. -/
def hasList (registry : Registry) (name : String) : Bool :=
  (registry.find? name).any (·.value.kind = .stringList)

/-- Two environments as one: the text of the second for a name if it has one, and else that of
the first.  An empty text of the second for a list counts as none. -/
def merged (registry : Registry) (first second : Environment) : Environment := fun name =>
  match second name with
  | none => first name
  | some text => if text = "" ∧ registry.hasList name then first name else some text

theorem hasList_iff (member : entry ∈ registry.entries) :
    registry.hasList entry.name = true ↔ entry.value.kind = .stringList := by
  have found : registry.find? entry.name = some entry :=
    find?_eq_some_of_mem registry.distinct member
  simp [hasList, found]

/-- The merged environment does to a variable what the two do one after the other. -/
theorem overlaid_merged (member : entry ∈ registry.entries)
    (one : entry.Overlaid first between) (two : between.Overlaid second result) :
    entry.Overlaid (registry.merged first second) result := by
  have sameName := one.name_eq
  have isList := hasList_iff member
  rw [← one.kind_eq] at isList
  cases two with
  | absent missing =>
      rw [sameName] at missing
      exact one.congr (by rw [merged, missing])
  | kept keepsList isEmpty =>
      rw [sameName] at isEmpty
      refine one.congr ?_
      rw [merged, isEmpty]
      exact if_pos ⟨rfl, isList.mpr keepsList⟩
  | @converted text value found counts reads =>
      rw [sameName] at found
      have merges : registry.merged first second entry.name = some text := by
        rw [merged, found]
        exact if_neg fun skipped => counts ⟨isList.mp skipped.2, skipped.1⟩
      rw [one.kind_eq] at counts reads
      have sameDefault : between.default = entry.default := congrArg (·.2.2) one.profile_eq
      have overlaid := Variable.Overlaid.converted merges counts reads
      rwa [← sameName, ← sameDefault] at overlaid

theorem overlaid_again {entries results : List Variable}
    (overlaid : List.Forall₂ (Variable.Overlaid environment) entries results) :
    List.Forall₂ (Variable.Overlaid environment) results results := by
  induction overlaid with
  | nil => exact .nil
  | cons step others induction => exact .cons step.again induction

theorem map_name_of_overlaid {entries results : List Variable}
    (overlaid : List.Forall₂ (Variable.Overlaid environment) entries results) :
    entries.map Variable.name = results.map Variable.name := by
  induction overlaid with
  | nil => rfl
  | cons step others induction => rw [List.map_cons, List.map_cons, step.name_eq, induction]

/-- A program goes on without a failure exactly when every override converts. -/
theorem start_eq_continues_iff (quiet : registry.dumps = false) :
    registry.start environment = .continues changed none ↔
      List.Forall₂ (Variable.Overlaid environment) registry.entries changed.entries ∧
        changed.parsed = true ∧ changed.dumps = false := by
  rw [start_of_quiet quiet]
  cases step : overlayVariables environment registry.entries with
  | mk entries failure? =>
      obtain ⟨distinct, applied⟩ := overlay_eq step
      simp only [applied, Startup.continues.injEq]
      constructor
      · rintro ⟨rfl, rfl⟩
        have overlaid := overlayVariables_eq_none_iff_overlaid.mp step
        exact ⟨overlaid, by simp, quiet⟩
      · rintro ⟨overlaid, parsed, dumps⟩
        rw [overlayVariables_eq_none_iff_overlaid.mpr overlaid] at step
        cases step
        exact ⟨Registry.ext rfl (by simp [parsed]) (by rw [quiet, dumps]), rfl⟩

/-- How the effects of environments that apply without a failure go together. -/
structure ComposesOverlays (registry : Registry) : Prop where
  merges : ∀ first second middle last, registry.start first = .continues middle none →
    middle.start second = .continues last none →
      registry.start (registry.merged first second) = .continues last none
  repeats : ∀ environment changed, registry.start environment = .continues changed none →
    changed.start environment = .continues changed none
  commutes : ∀ first second middle last, registry.start first = .continues middle none →
    middle.start second = .continues last none →
      (∀ name ∈ registry.names, first name = none ∨ second name = none) →
        ∃ between, registry.start second = .continues between none ∧
          between.start first = .continues last none

/-- Two environments have the effect of the merged one, the same one twice that of once, and
environments for different variables can change places. -/
theorem start_composes (quiet : registry.dumps = false) : registry.ComposesOverlays := by
  refine ⟨?_, ?_, ?_⟩
  · intro first second middle last one two
    obtain ⟨firstOverlaid, -, stillQuiet⟩ := (start_eq_continues_iff quiet).mp one
    obtain ⟨secondOverlaid, state⟩ := (start_eq_continues_iff stillQuiet).mp two
    refine (start_eq_continues_iff quiet).mpr ⟨?_, state⟩
    exact forall₂_of_steps firstOverlaid secondOverlaid fun entry member between result =>
      overlaid_merged member
  · intro environment changed one
    obtain ⟨overlaid, parsed, stillQuiet⟩ := (start_eq_continues_iff quiet).mp one
    exact (start_eq_continues_iff stillQuiet).mpr ⟨overlaid_again overlaid, parsed, stillQuiet⟩
  · intro first second middle last one two disjoint
    obtain ⟨firstOverlaid, -, stillQuiet⟩ := (start_eq_continues_iff quiet).mp one
    obtain ⟨secondOverlaid, state⟩ := (start_eq_continues_iff stillQuiet).mp two
    have swapped := forall₂_of_steps firstOverlaid secondOverlaid
      fun entry member between result step nextStep =>
        step.swap nextStep (disjoint entry.name (List.mem_map_of_mem member))
    obtain ⟨entries, secondFirst, firstSecond⟩ := exists_forall₂_steps swapped
    have distinct : (entries.map Variable.name).Nodup :=
      map_name_of_overlaid secondFirst ▸ registry.distinct
    let between : Registry := ⟨entries, true, false, distinct⟩
    refine ⟨between, ?_, ?_⟩
    · exact (start_eq_continues_iff quiet).mpr ⟨secondFirst, rfl, rfl⟩
    · have betweenQuiet : between.dumps = false := rfl
      exact (start_eq_continues_iff betweenQuiet).mpr ⟨firstSecond, state⟩

/-- Overrides for three variables of `serverRegistry`, one of them a list. -/
def earlierOverrides (name : String) : Option String :=
  [("WAIT", "3.25s"), ("HOSTS", "x,y"), ("PORT", "81")].lookup name

/-- The empty text for the list does not undo the one in `earlierOverrides`. -/
def laterOverrides (name : String) : Option String :=
  [("PORT", "8080"), ("HOSTS", "")].lookup name

/-- What `earlierOverrides` makes of `serverRegistry`. -/
def earlierServer : Registry :=
  ⟨[⟨"WAIT", .duration ⟨3, 250000000, by decide, by decide⟩, "0s"⟩,
    ⟨"HOSTS", .stringList ["x", "y"], "a,b"⟩, ⟨"PORT", .uint 81, "80"⟩,
    ⟨"DEBUG", .bool false, "false"⟩], true, false, by decide⟩

/-- What `laterOverrides` makes of `earlierServer`. -/
def laterServer : Registry :=
  ⟨[⟨"WAIT", .duration ⟨3, 250000000, by decide, by decide⟩, "0s"⟩,
    ⟨"HOSTS", .stringList ["x", "y"], "a,b"⟩, ⟨"PORT", .uint 8080, "80"⟩,
    ⟨"DEBUG", .bool false, "false"⟩], true, false, by decide⟩

theorem start_composes_serverRegistry :
    serverRegistry.dumps = false ∧ serverRegistry.ComposesOverlays ∧
      serverRegistry.start earlierOverrides = .continues earlierServer none ∧
      earlierServer.start laterOverrides = .continues laterServer none ∧
      serverRegistry.start (serverRegistry.merged earlierOverrides laterOverrides) =
        .continues laterServer none := by
  have quiet : serverRegistry.dumps = false := rfl
  have composes := start_composes quiet
  have firstApplies : serverRegistry.overlay earlierOverrides = (earlierServer, none) := by
    decide +kernel
  have secondApplies : earlierServer.overlay laterOverrides = (laterServer, none) := by
    decide +kernel
  have first : serverRegistry.start earlierOverrides = .continues earlierServer none := by
    rw [start, firstApplies]
    rfl
  have second : earlierServer.start laterOverrides = .continues laterServer none := by
    rw [start, secondApplies]
    rfl
  exact ⟨quiet, composes, first, second, composes.merges _ _ _ _ first second⟩

end Registry

end TypedEnv
