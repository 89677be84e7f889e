import TypedEnv.Name.Segment
import TypedEnv.Proofs.Name.Case

/-!
# Names of fields, types and constants

The field name of a segment is its spelling in lower case.  The type of a
section and the constant of a variable are made from field names alone, and
both tell their paths apart as far as they can: a longer path has a longer
type name, and constants differ wherever the joined fields do.
-/

namespace TypedEnv.Name

/-- The name of the field for a segment, whether or not it can be one. -/
def field (segment : String) : String :=
  String.ofList (snake segment.toList)

variable {segment name : String} {segments first second : List String}

theorem fieldName_eq_ok_iff :
    fieldName segment = .ok name ↔
      problem? (snake segment.toList) = none ∧ field segment = name := by
  rw [fieldName]
  split
  · next problem isProblem => simp [isProblem]
  · next noProblem => simp [noProblem, field]

/-- Accepted segments have their field names, one by one. -/
theorem forall₂_fieldName_iff {names : List String} :
    List.Forall₂ (fun segment name => fieldName segment = .ok name) segments names ↔
      names = segments.map field ∧ ∀ segment ∈ segments, ∃ name, fieldName segment = .ok name := by
  constructor
  · intro related
    induction related with
    | nil => simp
    | @cons segment name segments names accepted others induction =>
        obtain ⟨rfl, restAccepted⟩ := induction
        obtain ⟨-, rfl⟩ := fieldName_eq_ok_iff.mp accepted
        exact ⟨rfl, List.forall_mem_cons.mpr ⟨⟨_, accepted⟩, restAccepted⟩⟩
  · intro ⟨spelled, accepted⟩
    rw [spelled, List.forall₂_map_right_iff, List.forall₂_same]
    intro segment member
    obtain ⟨name, isOk⟩ := accepted segment member
    exact fieldName_eq_ok_iff.mpr ⟨(fieldName_eq_ok_iff.mp isOk).1, rfl⟩

/-- An accepted segment has a word. -/
theorem words_ne_nil_of_fieldName (accepted : fieldName segment = .ok name) :
    words segment.toList ≠ [] := by
  obtain ⟨noProblem, -⟩ := fieldName_eq_ok_iff.mp accepted
  refine words_ne_nil_of_snake fun isNil => ?_
  rw [isNil] at noProblem
  cases noProblem

/-- The type of a section depends on the fields above it only, however their segments are
spelled. -/
theorem typeName_map_field (ascii : ∀ segment ∈ segments, ∀ c ∈ segment.toList, c.toNat < 128) :
    typeName (segments.map field) = typeName segments := by
  rw [typeName, List.flatMap_map, typeName,
    List.flatMap_congr fun segment member => by
      rw [field, String.toList_ofList, camel_snake (ascii segment member)]]

/-- A name that is the field name of an accepted ASCII segment. -/
def IsField (name : String) : Prop :=
  ∃ segment, (∀ c ∈ segment.toList, c.toNat < 128) ∧ fieldName segment = .ok name

namespace IsField

theorem toList_eq (isField : IsField name) : ∃ segment : String,
    (∀ c ∈ segment.toList, c.toNat < 128) ∧ words segment.toList ≠ [] ∧
      name.toList = snake segment.toList := by
  obtain ⟨segment, ascii, accepted⟩ := isField
  obtain ⟨-, rfl⟩ := fieldName_eq_ok_iff.mp accepted
  exact ⟨segment, ascii, words_ne_nil_of_fieldName accepted, String.toList_ofList⟩

theorem ascii (isField : IsField name) : ∀ c ∈ name.toList, c.toNat < 128 := by
  obtain ⟨segment, ascii, -, spelled⟩ := isField.toList_eq
  rw [spelled]
  exact snake_ascii ascii

theorem snake_toList (isField : IsField name) : snake name.toList = name.toList := by
  obtain ⟨segment, ascii, -, spelled⟩ := isField.toList_eq
  rw [spelled]
  exact snake_snake ascii

theorem words_ne_nil (isField : IsField name) : words name.toList ≠ [] := by
  obtain ⟨segment, ascii, someWord, spelled⟩ := isField.toList_eq
  rw [spelled, words_snake ascii]
  simpa using someWord

theorem problem?_toList (isField : IsField name) : problem? name.toList = none := by
  obtain ⟨segment, -, accepted⟩ := isField
  obtain ⟨noProblem, rfl⟩ := fieldName_eq_ok_iff.mp accepted
  rwa [field, String.toList_ofList]

/-- A field name is its own field name: it passes the check once more and is spelled the same. -/
theorem fieldName_eq (isField : IsField name) : fieldName name = .ok name := by
  apply fieldName_eq_ok_iff.mpr
  constructor
  · rw [isField.snake_toList]
    exact isField.problem?_toList
  · rw [field, isField.snake_toList, String.ofList_toList]

end IsField

theorem isField_of_forall₂ {names : List String}
    (ascii : ∀ segment ∈ segments, ∀ c ∈ segment.toList, c.toNat < 128)
    (accepted : List.Forall₂ (fun segment name => fieldName segment = .ok name) segments names) :
    ∀ name ∈ names, IsField name := by
  intro name member
  obtain ⟨rfl, someField⟩ := forall₂_fieldName_iff.mp accepted
  obtain ⟨segment, isSegment, rfl⟩ := List.mem_map.mp member
  obtain ⟨other, isOk⟩ := someField segment isSegment
  have spelled := (fieldName_eq_ok_iff.mp isOk).2
  exact ⟨segment, ascii segment isSegment, spelled ▸ isOk⟩

theorem typeName_append (first second : List String) :
    typeName (first ++ second) = typeName first ++ typeName second := by
  simp only [typeName, List.flatMap_append, String.ofList_append]

/-- The type of a section begins with no lower case letter. -/
theorem exists_toList_typeName (nonempty : segments ≠ [])
    (fields : ∀ name ∈ segments, IsField name) :
    ∃ c rest, (typeName segments).toList = c :: rest ∧ c.isLower = false := by
  obtain ⟨name, others, rfl⟩ := List.exists_cons_of_ne_nil nonempty
  have isField := fields name (by simp)
  obtain ⟨c, rest, capital, notLower⟩ := camel_cons isField.ascii isField.words_ne_nil
  refine ⟨c, rest ++ others.flatMap fun segment => camel segment.toList, ?_, notLower⟩
  rw [typeName, String.toList_ofList, List.flatMap_cons, capital, List.cons_append]

/-- A section inside another has another type: its name is longer. -/
theorem typeName_ne_of_inside (fields : ∀ name ∈ second, IsField name)
    (inside : first <+: second) (different : first ≠ second) :
    typeName first ≠ typeName second := by
  obtain ⟨rest, rfl⟩ := inside
  have nonempty : rest ≠ [] := by
    intro isNil
    rw [isNil, List.append_nil] at different
    exact different rfl
  obtain ⟨c, others, isCons, -⟩ :=
    exists_toList_typeName nonempty fun name member => fields name (List.mem_append_right _ member)
  intro same
  have sameLength := congrArg String.length same
  rw [typeName_append, String.length_append, ← String.length_toList (s := typeName rest),
    isCons, List.length_cons] at sameLength
  omega

theorem toList_joined (path : List String) :
    (String.intercalate "_" path).toList = ['_'].intercalate (path.map String.toList) :=
  String.toList_intercalate

theorem snake_joined {path : List String} (fields : ∀ name ∈ path, IsField name) :
    snake (String.intercalate "_" path).toList = (String.intercalate "_" path).toList := by
  rw [toList_joined, snake_intercalate, List.map_map]
  · congr 1
    exact List.map_congr_left fun name member => (fields name member).snake_toList
  · intro part member
    obtain ⟨name, inPath, rfl⟩ := List.mem_map.mp member
    exact (fields name inPath).words_ne_nil

theorem joined_ascii {path : List String} (fields : ∀ name ∈ path, IsField name) :
    ∀ c ∈ (String.intercalate "_" path).toList, c.toNat < 128 := by
  intro c member
  rw [toList_joined] at member
  rcases Text.mem_intercalate member with rfl | ⟨part, isPart, inPart⟩
  · decide
  · obtain ⟨name, inPath, rfl⟩ := List.mem_map.mp isPart
    exact (fields name inPath).ascii c inPart

/-- Two variables share a constant exactly when their joined fields are the same. -/
theorem constName_eq_iff (firstFields : ∀ name ∈ first, IsField name)
    (secondFields : ∀ name ∈ second, IsField name) :
    constName first = constName second ↔
      String.intercalate "_" first = String.intercalate "_" second := by
  constructor
  · intro same
    have sameShouting := String.ofList_injective ((String.append_left_inj _).mp same)
    have sameSnake := congrArg (List.map Char.toLower) sameShouting
    rw [map_toLower_shouting (joined_ascii firstFields),
      map_toLower_shouting (joined_ascii secondFields), snake_joined firstFields,
      snake_joined secondFields] at sameSnake
    exact String.toList_inj.mp sameSnake
  · intro same
    rw [constName, constName, same]

end TypedEnv.Name
