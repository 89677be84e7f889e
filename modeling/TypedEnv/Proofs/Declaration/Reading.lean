import TypedEnv.Proofs.Declaration.File

/-!
# Reading line by line

What is read of a line depends on the lines before it only through the names
that they declare.  So lines can be read in two parts, and a failure is that of
the first line that is refused.  Reading declarations succeeds exactly when the
lines are read and each declaration is accepted, whatever is made of it.
-/

namespace TypedEnv.Declaration

/-- The name that a line declares, if it declares one. -/
def declaredName? (line : List Char) : Option String :=
  match LineContent.read line with
  | .declares name _ => some (String.ofList name)
  | _ => none

/-- The names that lines declare, also those that are declared more than once. -/
def declaredNames (lines : List (List Char)) : List String :=
  lines.filterMap declaredName?

theorem declaredNames_append (first second : List (List Char)) :
    declaredNames (first ++ second) = declaredNames first ++ declaredNames second :=
  List.filterMap_append

section Names

variable {line name value : List Char} {rest : List (List Char)}

theorem declaredNames_of_declares (read : LineContent.read line = .declares name value) :
    declaredNames (line :: rest) = String.ofList name :: declaredNames rest := by
  simp [declaredNames, declaredName?, read]

theorem declaredNames_of_nothing (read : LineContent.read line = .nothing) :
    declaredNames (line :: rest) = declaredNames rest := by
  simp [declaredNames, declaredName?, read]

theorem declaredName?_eq_some_iff {declared : String} :
    declaredName? line = some declared ↔
      ∃ name value, LineContent.read line = .declares name value ∧
        String.ofList name = declared := by
  unfold declaredName?
  split
  · next read => simp [read]
  · next other =>
      constructor
      · intro impossible
        cases impossible
      · rintro ⟨name, value, read, -⟩
        exact absurd read (other name value)

end Names

variable {α : Type} {accept : RawDeclaration → Outcome Diagnostic α} {seen : List String}
  {number : Nat} {lines : List (List Char)} {results : List α} {failure : Failure Diagnostic}

section OneLine

variable {line name value : List Char} (rest : List (List Char))

theorem readLines_of_nothing (read : LineContent.read line = .nothing) :
    readLines accept seen number (line :: rest) = readLines accept seen (number + 1) rest := by
  rw [readLines, read]

theorem readLines_of_malformed (read : LineContent.read line = .malformed) :
    readLines accept seen number (line :: rest) =
      .error (.error (.atLine number (.format (String.ofList line)))) := by
  rw [readLines, read]

theorem readLines_of_repeated (read : LineContent.read line = .declares name value)
    (taken : String.ofList name ∈ seen) :
    readLines accept seen number (line :: rest) =
      .error (.error (.atLine number (.duplicate (String.ofList name)))) := by
  rw [readLines, read]
  dsimp only
  rw [if_pos (List.contains_iff_mem.mpr taken)]

theorem readLines_of_fresh (read : LineContent.read line = .declares name value)
    (fresh : String.ofList name ∉ seen) :
    readLines accept seen number (line :: rest) = do
      let accepted ← accept ⟨String.ofList name, String.ofList value, number⟩
      let others ← readLines accept (String.ofList name :: seen) (number + 1) rest
      return accepted :: others := by
  rw [readLines, read]
  dsimp only
  rw [if_neg (mt List.contains_iff_mem.mp fresh)]

end OneLine

/-- Lines are read in two parts; the second part knows the names that the first declares. -/
theorem readLines_append (first second : List (List Char)) :
    readLines accept seen number (first ++ second) = do
      let results ← readLines accept seen number first
      let others ← readLines accept ((declaredNames first).reverse ++ seen)
        (number + first.length) second
      return results ++ others := by
  induction first generalizing seen number with
  | nil =>
      change readLines accept seen number second = do
        let others ← readLines accept seen number second
        pure ([] ++ others)
      simp
  | cons line rest induction =>
      have behind : number + (line :: rest).length = number + 1 + rest.length := by
        rw [List.length_cons]
        omega
      rw [List.cons_append, behind]
      cases read : LineContent.read line with
      | nothing =>
          rw [readLines_of_nothing _ read, readLines_of_nothing _ read,
            declaredNames_of_nothing read]
          exact induction
      | malformed =>
          rw [readLines_of_malformed _ read, readLines_of_malformed _ read]
          rfl
      | declares name value =>
          by_cases taken : String.ofList name ∈ seen
          · rw [readLines_of_repeated _ read taken, readLines_of_repeated _ read taken]
            rfl
          · rw [readLines_of_fresh _ read taken, readLines_of_fresh _ read taken,
              declaredNames_of_declares read, induction]
            simp

/-- The reasons for which a line is refused behind lines that declare the names in `seen`. -/
inductive Refuses (accept : RawDeclaration → Outcome Diagnostic α) (seen : List String)
    (number : Nat) (line : List Char) : Failure Diagnostic → Prop where
  | malformed (read : LineContent.read line = .malformed) :
      Refuses accept seen number line
        (.error (.atLine number (.format (String.ofList line))))
  | repeated {name value : List Char} (read : LineContent.read line = .declares name value)
      (taken : String.ofList name ∈ seen) :
      Refuses accept seen number line
        (.error (.atLine number (.duplicate (String.ofList name))))
  | unaccepted {name value : List Char} {failure : Failure Diagnostic}
      (read : LineContent.read line = .declares name value) (fresh : String.ofList name ∉ seen)
      (fails : accept ⟨String.ofList name, String.ofList value, number⟩ = .error failure) :
      Refuses accept seen number line failure

theorem Refuses.readLines {line : List Char} (refuses : Refuses accept seen number line failure)
    (rest : List (List Char)) : readLines accept seen number (line :: rest) = .error failure := by
  cases refuses with
  | malformed read => exact readLines_of_malformed rest read
  | repeated read taken => exact readLines_of_repeated rest read taken
  | unaccepted read fresh fails =>
      rw [readLines_of_fresh rest read fresh, fails]
      rfl

/-- A line that is not refused is read. -/
theorem refuses_or_reads (accept : RawDeclaration → Outcome Diagnostic α) (seen : List String)
    (number : Nat) (line : List Char) :
    (∃ failure, Refuses accept seen number line failure) ∨
      ∃ results, readLines accept seen number [line] = .ok results := by
  cases read : LineContent.read line with
  | nothing => exact .inr ⟨[], readLines_of_nothing [] read⟩
  | malformed => exact .inl ⟨_, .malformed read⟩
  | declares name value =>
      by_cases taken : String.ofList name ∈ seen
      · exact .inl ⟨_, .repeated read taken⟩
      · cases accepted : accept ⟨String.ofList name, String.ofList value, number⟩ with
        | error cause => exact .inl ⟨cause, .unaccepted read taken accepted⟩
        | ok result =>
            refine .inr ⟨[result], ?_⟩
            rw [readLines_of_fresh [] read taken, accepted]
            rfl

theorem readLines_cons_of_ok {line : List Char} {rest : List (List Char)}
    (reads : readLines accept seen number [line] = .ok results) :
    readLines accept seen number (line :: rest) = do
      let others ← readLines accept ((declaredNames [line]).reverse ++ seen) (number + 1) rest
      return results ++ others := by
  rw [← List.singleton_append, readLines_append, reads]
  rfl

/-- Lines fail exactly with the first of them that is refused. -/
theorem readLines_eq_error_iff : readLines accept seen number lines = .error failure ↔
    ∃ before line after results, lines = before ++ line :: after ∧
      readLines accept seen number before = .ok results ∧
      Refuses accept ((declaredNames before).reverse ++ seen) (number + before.length) line
        failure := by
  constructor
  · intro failed
    -- The names that are known and the number change from line to line.
    induction lines generalizing seen number with
    | nil => cases failed
    | cons line rest induction =>
        rcases refuses_or_reads accept seen number line with ⟨cause, refuses⟩ | ⟨results, reads⟩
        · rw [refuses.readLines rest] at failed
          cases failed
          exact ⟨[], line, rest, [], rfl, rfl, refuses⟩
        · rw [readLines_cons_of_ok reads] at failed
          have behind := bind_pure_eq_error_iff.mp failed
          obtain ⟨before, refused, after, others, rfl, succeeded, refuses⟩ := induction behind
          have names : (declaredNames (line :: before)).reverse ++ seen =
              (declaredNames before).reverse ++ ((declaredNames [line]).reverse ++ seen) := by
            rw [← List.singleton_append, declaredNames_append]
            simp
          have place : number + (line :: before).length = number + 1 + before.length := by
            rw [List.length_cons]
            omega
          refine ⟨line :: before, refused, after, results ++ others, rfl, ?_, ?_⟩
          · rw [readLines_cons_of_ok reads, succeeded]
            rfl
          · rw [names, place]
            exact refuses
  · rintro ⟨before, line, after, results, rfl, succeeded, refuses⟩
    rw [readLines_append, succeeded]
    exact congrArg (fun outcome => do
      let others ← outcome
      return results ++ others) (refuses.readLines after)

/-- Reading succeeds exactly when the lines are read and every declaration is accepted. -/
theorem readLines_eq_ok_iff : readLines accept seen number lines = .ok results ↔
    ∃ raws, readLines .ok seen number lines = .ok raws ∧
      List.Forall₂ (fun raw result => accept raw = .ok result) raws results := by
  induction lines generalizing seen number results with
  | nil =>
      constructor
      · intro read
        cases read
        exact ⟨[], rfl, .nil⟩
      · rintro ⟨raws, read, related⟩
        cases read
        cases related
        rfl
  | cons line rest induction =>
      cases read : LineContent.read line with
      | nothing =>
          rw [readLines_of_nothing _ read, readLines_of_nothing _ read]
          exact induction
      | malformed => simp [readLines_of_malformed _ read]
      | declares name value =>
          by_cases taken : String.ofList name ∈ seen
          · simp [readLines_of_repeated _ read taken]
          · rw [readLines_of_fresh _ read taken, readLines_of_fresh _ read taken]
            constructor
            · intro success
              obtain ⟨result, accepted, success⟩ := bind_eq_ok_iff.mp success
              obtain ⟨others, behind, success⟩ := bind_eq_ok_iff.mp success
              obtain rfl := pure_eq_ok_iff.mp success
              obtain ⟨raws, readRest, related⟩ := induction.mp behind
              refine ⟨⟨String.ofList name, String.ofList value, number⟩ :: raws, ?_,
                .cons accepted related⟩
              rw [readRest]
              rfl
            · rintro ⟨raws, success, related⟩
              obtain ⟨raw, same, success⟩ := bind_eq_ok_iff.mp success
              obtain ⟨others, behind, success⟩ := bind_eq_ok_iff.mp success
              obtain rfl := pure_eq_ok_iff.mp success
              cases same
              cases related with
              | cons accepted restRelated =>
                  have readRest := induction.mpr ⟨others, behind, restRelated⟩
                  rw [accepted, readRest]
                  rfl

end TypedEnv.Declaration
