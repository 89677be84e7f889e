import TypedEnv.Registry.Error

/-!
# Registries

A registry holds variables in the order of their declaration.  Each has a
name, a value, and the text of the default with which it was declared.  No two
variables share a name.  A variable keeps its kind for ever: a new text is read
by the rule of that kind.  Reading goes through handles, which know the type in
which they read.
-/

namespace TypedEnv

structure Variable where
  name : String
  value : Value
  default : String
  deriving DecidableEq

/-- Permission to read a variable in a type. -/
structure Handle where
  name : String
  type : ReadType
  deriving DecidableEq

def Handle.describe (handle : Handle) : String :=
  s!"Var({Text.quoted handle.name})"

/-- Variables with different names in the order of their declaration, whether overrides were
applied to them, and whether the next application of overrides ends with a listing. -/
@[ext]
structure Registry where
  entries : List Variable
  parsed : Bool
  dumps : Bool
  distinct : (entries.map Variable.name).Nodup
  deriving DecidableEq

/-- Finds overrides by the name of the variable. -/
abbrev Environment := String → Option String

namespace Variable

def ofDefault (name : String) (value : Value) : Variable :=
  ⟨name, value, value.render⟩

/-- Gives a variable the value of a text; an empty text leaves a list alone. -/
def set (entry : Variable) (text : String) : Outcome EnvError Variable :=
  if entry.value.kind = .stringList ∧ text.isEmpty then .ok entry
  else
    ((parseAs entry.value.kind text).mapCause (.conversion entry.name)).map fun value =>
      { entry with value }

theorem name_of_set {entry changed : Variable} {text : String}
    (success : entry.set text = .ok changed) : changed.name = entry.name := by
  rw [set] at success
  split at success
  · cases success
    rfl
  · cases reads : parseAs entry.value.kind text with
    | ok value =>
        rw [reads] at success
        cases success
        rfl
    | error failure =>
        rw [reads] at success
        cases failure <;> cases success

/-- A variable as a line of a listing, which shows the default when the value has no text. -/
def dumpLine (entry : Variable) : String :=
  let rendered := entry.value.render
  let shown := if rendered.isEmpty then entry.default else rendered
  s!"{entry.name}=\x22{shown}\x22\n"

end Variable

/-- Applies overrides in order, up to the first one that does not convert. -/
def overlayVariables (environment : Environment) :
    List Variable → List Variable × Option (Failure EnvError)
  | [] => ([], none)
  | entry :: rest =>
      let changed : Outcome EnvError Variable :=
        match environment entry.name with
        | none => .ok entry
        | some text => entry.set text
      match changed with
      | .error failure => (entry :: rest, some failure)
      | .ok entry =>
          let (rest, failure?) := overlayVariables environment rest
          (entry :: rest, failure?)

/-- Overrides keep whatever a new text never changes about a variable. -/
theorem map_overlayVariables {α : Type} {feature : Variable → α}
    (keeps : ∀ {entry changed : Variable} {text : String},
      entry.set text = .ok changed → feature changed = feature entry)
    (environment : Environment) (entries : List Variable) :
    (overlayVariables environment entries).1.map feature = entries.map feature := by
  induction entries with
  | nil => rfl
  | cons entry rest induction =>
      rw [overlayVariables]
      cases environment entry.name with
      | none => simp [induction]
      | some text =>
          dsimp only
          cases success : entry.set text with
          | error failure => rfl
          | ok changed => simp [keeps success, induction]

namespace Registry

def empty : Registry := ⟨[], false, false, .nil⟩

instance : Inhabited Registry := ⟨empty⟩

def find? (registry : Registry) (name : String) : Option Variable :=
  registry.entries.find? (·.name == name)

def contains (registry : Registry) (name : String) : Bool :=
  registry.entries.any (·.name == name)

theorem distinct_append (registry : Registry) {name : String} (value : Value)
    (fresh : ¬ registry.contains name = true) :
    ((registry.entries ++ [Variable.ofDefault name value]).map Variable.name).Nodup := by
  rw [List.map_append, List.nodup_append]
  refine ⟨registry.distinct, by simp, ?_⟩
  intro taken member other isName same
  obtain ⟨entry, isEntry, rfl⟩ := List.mem_map.mp member
  obtain rfl : other = name := by simpa [Variable.ofDefault] using isName
  exact fresh (List.any_eq_true.mpr ⟨entry, isEntry, by simpa using same⟩)

/-- Declares a variable with its default.  The program stops when the name is taken. -/
def declare (registry : Registry) (name : String) (value : Value) : Except Abort Registry :=
  if taken : registry.contains name then .error (.redefined name)
  else .ok { registry with
    entries := registry.entries ++ [.ofDefault name value]
    distinct := registry.distinct_append value taken }

/-- Variables of which the one with a name has a new value. -/
def assign (entries : List Variable) (name : String) (value : Value) : List Variable :=
  entries.map fun entry => if entry.name == name then { entry with value } else entry

theorem map_name_assign (entries : List Variable) (name : String) (value : Value) :
    (assign entries name value).map Variable.name = entries.map Variable.name := by
  rw [assign, List.map_map]
  refine List.map_congr_left fun entry _ => ?_
  rw [Function.comp_apply]
  split <;> rfl

/-- Sets the variable of a name to what a text means for it. -/
def set (registry : Registry) (name text : String) : Outcome EnvError Registry :=
  match registry.find? name with
  | none => .error (.error (.unknown name))
  | some entry => (entry.set text).map fun changed =>
      { registry with
        entries := assign registry.entries name changed.value
        distinct := by
          rw [map_name_assign]
          exact registry.distinct }

/-- Applies overrides.  When one does not convert, those before it stay applied. -/
def overlay (registry : Registry) (environment : Environment) :
    Registry × Option (Failure EnvError) :=
  let overlaid := overlayVariables environment registry.entries
  ({ registry with
      entries := overlaid.1
      parsed := registry.parsed || overlaid.2.isNone
      distinct := by
        rw [map_overlayVariables Variable.name_of_set]
        exact registry.distinct },
    overlaid.2)

def get (registry : Registry) (handle : Handle) : Except EnvError Value :=
  match registry.find? handle.name with
  | none => .error (.unknown handle.name)
  | some entry => entry.value.convert handle.type handle.name

def dump (registry : Registry) : String :=
  String.join (registry.entries.map Variable.dumpLine)

end Registry

end TypedEnv
