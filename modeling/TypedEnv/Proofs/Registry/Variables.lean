import TypedEnv.Declaration.File
import TypedEnv.Proofs.Lookup
import TypedEnv.Proofs.Value.Kind

/-!
# What stays of a variable

The name of a variable, its kind and the text of its default are fixed when it
is registered.  No new value and no override changes them, and further
variables come behind those that are there.  A list of declarations is
registered up to the first one whose name is taken, and no further.
-/

namespace TypedEnv

/-- What never changes about a variable: its name, its kind and the text of its default. -/
def Variable.profile (entry : Variable) : String × Kind × String :=
  (entry.name, entry.value.kind, entry.default)

/-- The profile of a variable that is registered with a default. -/
def Value.profile (name : String) (default : Value) : String × Kind × String :=
  (name, default.kind, default.render)

theorem Variable.profile_of_set {entry changed : Variable} {text : String}
    (success : entry.set text = .ok changed) : changed.profile = entry.profile := by
  rw [set] at success
  split at success
  · cases success
    rfl
  · obtain ⟨value, converted, rfl⟩ := map_eq_ok_iff.mp success
    have kind := kind_of_parseAs (Outcome.mapCause_eq_ok_iff.mp converted)
    simp [profile, kind]

/-- The name of a declaration with its default. -/
def Declaration.entry (declaration : Declaration) : String × Value :=
  (declaration.name, declaration.value)

@[simp] theorem Declaration.entry_fst (declaration : Declaration) :
    declaration.entry.1 = declaration.name :=
  rfl

/-- The leading declarations up to the first whose name is taken, by the given names or by a
declaration before it. -/
def untaken (taken : List String) : List (String × Value) → List (String × Value)
  | [] => []
  | (name, default) :: rest =>
      if name ∈ taken then [] else (name, default) :: untaken (taken ++ [name]) rest

theorem untaken_cons {taken : List String} {declaration : Declaration}
    {rest : List (String × Value)} (fresh : declaration.name ∉ taken) :
    untaken taken (declaration.entry :: rest) =
      declaration.entry :: untaken (taken ++ [declaration.name]) rest := by
  rw [Declaration.entry, untaken, if_neg fresh]

/-- The names of the untaken declarations differ from each other and from the given ones. -/
theorem nodup_append_untaken {taken : List String} (declared : List (String × Value))
    (distinct : taken.Nodup) : (taken ++ (untaken taken declared).map Prod.fst).Nodup := by
  induction declared generalizing taken with
  | nil => simpa [untaken] using distinct
  | cons entry rest induction =>
      obtain ⟨name, default⟩ := entry
      rw [untaken]
      split
      · simpa using distinct
      · next fresh =>
          have longer : (taken ++ [name]).Nodup :=
            List.Nodup.append distinct (List.nodup_singleton name) (by simpa using fresh)
          simpa using induction longer

/-- Declarations with different names, none of them taken, are all untaken. -/
theorem untaken_eq_self {taken : List String} {declared : List (String × Value)}
    (distinct : (taken ++ declared.map Prod.fst).Nodup) : untaken taken declared = declared := by
  induction declared generalizing taken with
  | nil => rfl
  | cons entry rest induction =>
      obtain ⟨name, default⟩ := entry
      have fresh : name ∉ taken := by
        intro isTaken
        exact (List.nodup_append.mp distinct).2.2 name isTaken name (by simp) rfl
      rw [untaken, if_neg fresh, induction (by simpa using distinct)]

/-- Declarations split behind the untaken ones: the name of the next one is taken by then. -/
theorem exists_untaken (taken : List String) (declarations : List Declaration) :
    ∃ before after, declarations = before ++ after ∧
      untaken taken (before.map Declaration.entry) = before.map Declaration.entry ∧
      untaken taken (declarations.map Declaration.entry) = before.map Declaration.entry ∧
      ∀ repeated ∈ after.head?, repeated.name ∈ taken ++ before.map Declaration.name := by
  induction declarations generalizing taken with
  | nil => exact ⟨[], [], rfl, rfl, rfl, by simp⟩
  | cons declaration rest induction =>
      by_cases repeated : declaration.name ∈ taken
      · refine ⟨[], declaration :: rest, rfl, rfl, ?_, ?_⟩
        · simp [untaken, Declaration.entry, repeated]
        · simpa using repeated
      · obtain ⟨before, after, rfl, fresh, untakenAll, next⟩ :=
          induction (taken ++ [declaration.name])
        refine ⟨declaration :: before, after, rfl, ?_, ?_, ?_⟩
        · rw [List.map_cons, untaken_cons repeated, fresh]
        · rw [List.map_cons, untaken_cons repeated, untakenAll, List.map_cons]
        · simpa using next

namespace Registry

variable {registry changed : Registry}

def names (registry : Registry) : List String :=
  registry.entries.map Variable.name

def profiles (registry : Registry) : List (String × Kind × String) :=
  registry.entries.map Variable.profile

theorem names_nodup (registry : Registry) : registry.names.Nodup :=
  registry.distinct

/-- A registry with further variables, each with its default, up to the first whose name is
taken. -/
def extend (registry : Registry) (declared : List (String × Value)) : Registry :=
  { registry with
    entries := registry.entries ++
      (untaken registry.names declared).map fun entry => .ofDefault entry.1 entry.2
    distinct := by
      have names := nodup_append_untaken declared registry.names_nodup
      rw [List.map_append, List.map_map]
      exact names }

theorem entries_extend (registry : Registry) (declared : List (String × Value)) :
    (registry.extend declared).entries = registry.entries ++
      (untaken registry.names declared).map fun entry => .ofDefault entry.1 entry.2 :=
  rfl

@[simp] theorem extend_nil (registry : Registry) : registry.extend [] = registry := by
  simp [extend, untaken]

@[simp] theorem profiles_extend (registry : Registry) (declared : List (String × Value)) :
    (registry.extend declared).profiles = registry.profiles ++
      (untaken registry.names declared).map fun entry => entry.2.profile entry.1 := by
  simp [extend, profiles, Variable.profile, Value.profile, Variable.ofDefault, Function.comp_def]

theorem map_fst_profiles (registry : Registry) :
    registry.profiles.map Prod.fst = registry.names := by
  simp [profiles, names, Variable.profile, Function.comp_def]

@[simp] theorem names_extend (registry : Registry) (declared : List (String × Value)) :
    (registry.extend declared).names =
      registry.names ++ (untaken registry.names declared).map Prod.fst := by
  rw [← map_fst_profiles, profiles_extend, List.map_append, map_fst_profiles, List.map_map]
  rfl

theorem names_extend_singleton {entry : String × Value} (fresh : entry.1 ∉ registry.names) :
    (registry.extend [entry]).names = registry.names ++ [entry.1] := by
  simp [untaken, fresh]

/-- Variables with new names can be added one by one. -/
theorem extend_cons {entry : String × Value} (rest : List (String × Value))
    (fresh : entry.1 ∉ registry.names) :
    registry.extend (entry :: rest) = (registry.extend [entry]).extend rest := by
  have names := names_extend_singleton fresh
  have entries : (registry.extend (entry :: rest)).entries =
      ((registry.extend [entry]).extend rest).entries := by
    rw [entries_extend, entries_extend, names, entries_extend]
    simp [untaken, fresh]
  exact Registry.ext entries rfl rfl

theorem contains_iff {name : String} : registry.contains name = true ↔ name ∈ registry.names := by
  simp [contains, names]

theorem declare_eq (registry : Registry) (name : String) (default : Value) :
    registry.declare name default =
      if name ∈ registry.names then .error (.redefined name)
      else .ok (registry.extend [(name, default)]) := by
  rw [declare]
  by_cases taken : name ∈ registry.names
  · rw [dif_pos (contains_iff.mpr taken), if_pos taken]
  · rw [dif_neg (fun isTaken => taken (contains_iff.mp isTaken)), if_neg taken]
    have entries : registry.entries ++ [Variable.ofDefault name default] =
        (registry.extend [(name, default)]).entries := by
      simp [entries_extend, untaken, taken]
    exact congrArg Except.ok (Registry.ext entries rfl rfl)

theorem registerAll_cons {declaration : Declaration} (rest : List Declaration)
    (fresh : declaration.name ∉ registry.names) :
    registry.registerAll (declaration :: rest) =
      (((registry.extend [declaration.entry]).registerAll rest).1,
        ((registry.extend [declaration.entry]).registerAll rest).2.map
          (⟨declaration.name, .any⟩ :: ·)) := by
  rw [registerAll, declare_eq, if_neg fresh]
  rfl

/-- Of untaken declarations the first is registered, and the others stay untaken. -/
theorem of_untaken_cons {declaration : Declaration} {rest : List Declaration}
    (fresh : untaken registry.names ((declaration :: rest).map Declaration.entry) =
      (declaration :: rest).map Declaration.entry) :
    declaration.name ∉ registry.names ∧
      untaken (registry.extend [declaration.entry]).names (rest.map Declaration.entry) =
        rest.map Declaration.entry := by
  by_cases taken : declaration.name ∈ registry.names
  · simp [untaken, Declaration.entry, taken] at fresh
  · rw [List.map_cons, untaken_cons taken, List.cons.injEq, ← declaration.entry_fst,
      ← names_extend_singleton taken] at fresh
    exact ⟨taken, fresh.2⟩

/-- Untaken declarations are all registered. -/
theorem registerAll_of_untaken {declarations : List Declaration}
    (fresh : untaken registry.names (declarations.map Declaration.entry) =
      declarations.map Declaration.entry) :
    registry.registerAll declarations =
      (registry.extend (declarations.map Declaration.entry),
        .ok (declarations.map fun declaration => ⟨declaration.name, .any⟩)) := by
  induction declarations generalizing registry with
  | nil => rw [registerAll, List.map_nil, extend_nil, List.map_nil]
  | cons declaration rest induction =>
      obtain ⟨notTaken, restFresh⟩ := of_untaken_cons fresh
      have isNew : declaration.entry.1 ∉ registry.names := notTaken
      rw [registerAll_cons rest notTaken, induction restFresh, List.map_cons,
        extend_cons (rest.map Declaration.entry) isNew]
      rfl

/-- Variables with different names are all added to a new registry. -/
theorem entries_extend_empty {declared : List (String × Value)}
    (distinct : (declared.map Prod.fst).Nodup) :
    (empty.extend declared).entries = declared.map fun entry => .ofDefault entry.1 entry.2 := by
  have fresh : untaken empty.names declared = declared := untaken_eq_self distinct
  rw [entries_extend, fresh]
  rfl

/-- The declarations of a list with different names are all registered. -/
theorem registerAll_empty {declarations : List Declaration}
    (distinct : (declarations.map Declaration.name).Nodup) :
    empty.registerAll declarations =
      (empty.extend (declarations.map Declaration.entry),
        .ok (declarations.map fun declaration => ⟨declaration.name, .any⟩)) := by
  apply registerAll_of_untaken
  apply untaken_eq_self
  simpa [names, empty, Function.comp_def] using distinct

/-- The first declaration whose name is taken stops the program; those before it stay. -/
theorem registerAll_of_repeated {before : List Declaration} {repeated : Declaration}
    (after : List Declaration)
    (fresh : untaken registry.names (before.map Declaration.entry) =
      before.map Declaration.entry)
    (taken : repeated.name ∈ registry.names ++ before.map Declaration.name) :
    registry.registerAll (before ++ repeated :: after) =
      (registry.extend (before.map Declaration.entry), .error (.redefined repeated.name)) := by
  induction before generalizing registry with
  | nil =>
      have isTaken : repeated.name ∈ registry.names := by simpa using taken
      rw [List.nil_append, registerAll, declare_eq, if_pos isTaken, List.map_nil, extend_nil]
  | cons declaration rest induction =>
      obtain ⟨notTaken, restFresh⟩ := of_untaken_cons fresh
      have takenThen : repeated.name ∈
          (registry.extend [declaration.entry]).names ++ rest.map Declaration.name := by
        rw [names_extend_singleton notTaken]
        simpa using taken
      have isNew : declaration.entry.1 ∉ registry.names := notTaken
      rw [List.cons_append, registerAll_cons _ notTaken, induction restFresh takenThen,
        List.map_cons, extend_cons (rest.map Declaration.entry) isNew]
      rfl

/-- Overrides leave the profiles alone. -/
theorem profiles_of_overlay (registry : Registry) (environment : Environment) :
    (registry.overlay environment).1.profiles = registry.profiles :=
  map_overlayVariables Variable.profile_of_set environment registry.entries

/-- A new value leaves the profiles alone. -/
theorem profiles_of_set {name text : String} (success : registry.set name text = .ok changed) :
    changed.profiles = registry.profiles := by
  rw [set] at success
  split at success
  · cases success
  · next entry found =>
      obtain ⟨replacement, setEntry, rfl⟩ := map_eq_ok_iff.mp success
      have sameProfile := Variable.profile_of_set setEntry
      have sameKind : replacement.value.kind = entry.value.kind := congrArg (·.2.1) sameProfile
      change (assign registry.entries name replacement.value).map Variable.profile =
        registry.entries.map Variable.profile
      rw [assign, List.map_map]
      refine List.map_congr_left fun other member => ?_
      by_cases sameName : other.name = name
      · have foundOther : registry.find? name = some other :=
          sameName ▸ find?_eq_some_of_mem registry.distinct member
        rw [found] at foundOther
        cases foundOther
        simp [sameName, Variable.profile, sameKind]
      · simp [sameName]

theorem parsed_of_set {name text : String} (success : registry.set name text = .ok changed) :
    changed.parsed = registry.parsed ∧ changed.dumps = registry.dumps := by
  rw [set] at success
  split at success
  · cases success
  · obtain ⟨replacement, -, rfl⟩ := map_eq_ok_iff.mp success
    exact ⟨rfl, rfl⟩

/-- A variable is found by its name and read in the type of its kind or as any value. -/
theorem get_of_mem_profiles {handle : Handle} {kind : Kind} {text : String}
    (member : (handle.name, kind, text) ∈ registry.profiles)
    (readable : handle.type = .any ∨ handle.type = .exactly kind) :
    ∃ entry ∈ registry.entries, entry.name = handle.name ∧
      registry.get handle = .ok entry.value := by
  obtain ⟨entry, isEntry, profile⟩ := List.mem_map.mp member
  obtain ⟨name, rest⟩ := Prod.mk.inj profile
  obtain ⟨rfl, -⟩ := Prod.mk.inj rest
  have found : registry.find? handle.name = some entry :=
    name ▸ find?_eq_some_of_mem registry.distinct isEntry
  refine ⟨entry, isEntry, name, ?_⟩
  rw [get, found]
  dsimp only
  rcases readable with any | exactly
  · rw [any]
    rfl
  · rw [exactly]
    exact entry.value.convert_kind handle.name

end Registry

end TypedEnv
