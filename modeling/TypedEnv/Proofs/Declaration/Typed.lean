import TypedEnv.Proofs.Declaration.Reading

/-!
# Typed and raw declarations

A file can be read with the types of its values or without them.  Both ways
see the same declarations and refuse the same lines.  The typed way also stops
at a value that cannot be inferred, and whatever else is wrong with the file is
further down then.
-/

namespace TypedEnv.Declaration

/-- What is read from a text fails below a line. -/
def FailsBelow {α : Type} (line : Nat) (outcome : Outcome Diagnostic α) : Prop :=
  ∃ diagnostic later, outcome = .error (.error diagnostic) ∧ diagnostic.line = some later ∧
    line < later

/-- Inference fails with the error of the value or stops the program. -/
theorem cause_of_ofRaw {raw : RawDeclaration} {diagnostic : Diagnostic}
    (failed : ofRaw raw = .error (.error diagnostic)) :
    ∃ error, diagnostic = .atLine raw.line (.infer error) := by
  rw [ofRaw] at failed
  cases inferred : infer raw.raw with
  | ok value =>
      rw [inferred] at failed
      cases failed
  | error failure =>
      rw [inferred] at failed
      cases failure with
      | error error =>
          cases failed
          exact ⟨error, rfl⟩
      | abort reason => cases failed

variable {text : String} {seen : List String} {number : Nat} {lines : List (List Char)}

/-- Without types, only a line that is refused fails, and it is one of those that are read. -/
theorem line_of_readLines_raw {failure : Failure Diagnostic}
    (failed : readLines .ok seen number lines = .error failure) :
    ∃ diagnostic line, failure = .error diagnostic ∧ diagnostic.line = some line ∧
      number ≤ line := by
  obtain ⟨before, line, after, results, -, -, refuses⟩ := readLines_eq_error_iff.mp failed
  cases refuses with
  | malformed read => exact ⟨_, number + before.length, rfl, rfl, by omega⟩
  | repeated read taken => exact ⟨_, number + before.length, rfl, rfl, by omega⟩
  | unaccepted read fresh fails => cases fails

/-- The typed declarations of a file are its raw ones with the values inferred for them. -/
theorem readTyped_eq_ok_iff {declarations : List Declaration} :
    readTyped text = .ok declarations ↔ readRaw text = .ok (declarations.map untyped) ∧
      ∀ declaration ∈ declarations, infer declaration.raw = .ok declaration.value := by
  rw [readTyped, readLines_eq_ok_iff]
  constructor
  · rintro ⟨raws, read, related⟩
    obtain ⟨rfl, inferred⟩ := forall₂_ofRaw_iff.mp related
    exact ⟨read, inferred⟩
  · rintro ⟨read, inferred⟩
    exact ⟨_, read, forall₂_ofRaw_iff.mpr ⟨rfl, inferred⟩⟩

theorem exists_readTyped {raws : List RawDeclaration} (read : readRaw text = .ok raws)
    (inferable : ∀ raw ∈ raws, ∃ value, infer raw.raw = .ok value) :
    ∃ declarations, readTyped text = .ok declarations := by
  have typed : ∃ declarations : List Declaration, declarations.map untyped = raws ∧
      ∀ declaration ∈ declarations, infer declaration.raw = .ok declaration.value := by
    clear read
    induction raws with
    | nil => exact ⟨[], rfl, by simp⟩
    | cons raw rest induction =>
        obtain ⟨value, inferred⟩ := inferable raw List.mem_cons_self
        obtain ⟨others, rfl, allInferred⟩ :=
          induction fun other member => inferable other (List.mem_cons_of_mem _ member)
        refine ⟨⟨raw.name, raw.raw, value, raw.line⟩ :: others, rfl, ?_⟩
        exact List.forall_mem_cons.mpr ⟨inferred, allInferred⟩
  obtain ⟨declarations, rfl, inferred⟩ := typed
  exact ⟨declarations, readTyped_eq_ok_iff.mpr ⟨read, inferred⟩⟩

/-- Behind lines that are read and a fresh declaration, reading without types goes on. -/
theorem readRaw_or_failsBelow {before after : List (List Char)} {line name value : List Char}
    {raws : List RawDeclaration} (readBefore : readLines .ok seen number before = .ok raws)
    (read : LineContent.read line = .declares name value)
    (fresh : String.ofList name ∉ (declaredNames before).reverse ++ seen) :
    (∃ others, readLines .ok seen number (before ++ line :: after) = .ok others) ∨
      FailsBelow (number + before.length)
        (readLines .ok seen number (before ++ line :: after)) := by
  rw [readLines_append, readBefore]
  change (∃ others, (readLines .ok _ _ (line :: after) >>= fun rest => pure (raws ++ rest)) =
    .ok others) ∨ FailsBelow _ (readLines .ok _ _ (line :: after) >>= fun rest =>
      pure (raws ++ rest))
  rw [readLines_of_fresh _ read fresh]
  cases behind : readLines .ok (String.ofList name :: ((declaredNames before).reverse ++ seen))
      (number + before.length + 1) after with
  | ok others => exact .inl ⟨_, rfl⟩
  | error failure =>
      obtain ⟨diagnostic, later, rfl, isLine, below⟩ := line_of_readLines_raw behind
      exact .inr ⟨diagnostic, later, rfl, isLine, by omega⟩

/-- A file has the same declarations with and without types.  A line that is refused for what it
says is refused without types as well; at a value that cannot be inferred, reading goes on
without types. -/
theorem readTyped_agrees (text : String) :
    (∀ declarations, readTyped text = .ok declarations →
      readRaw text = .ok (declarations.map untyped) ∧
        ∀ declaration ∈ declarations, infer declaration.raw = .ok declaration.value) ∧
    (∀ raws, readRaw text = .ok raws →
      (∀ raw ∈ raws, ∃ value, infer raw.raw = .ok value) →
      ∃ declarations, readTyped text = .ok declarations) ∧
    ∀ diagnostic, readTyped text = .error (.error diagnostic) →
      ∃ line, diagnostic.line = some line ∧
        (((∃ rejected, diagnostic.cause = .format rejected) ∨
            ∃ name, diagnostic.cause = .duplicate name) ∧
          readRaw text = .error (.error diagnostic) ∨
        (∃ error, diagnostic.cause = .infer error) ∧
          ((∃ raws, readRaw text = .ok raws) ∨ FailsBelow line (readRaw text))) := by
  refine ⟨fun declarations read => readTyped_eq_ok_iff.mp read,
    fun raws read inferable => exists_readTyped read inferable, fun diagnostic failed => ?_⟩
  obtain ⟨before, line, after, results, split, readBefore, refuses⟩ :=
    readLines_eq_error_iff.mp failed
  obtain ⟨raws, rawBefore, -⟩ := readLines_eq_ok_iff.mp readBefore
  refine ⟨1 + before.length, ?_⟩
  cases refuses with
  | malformed read =>
      refine ⟨rfl, .inl ⟨.inl ⟨_, rfl⟩, ?_⟩⟩
      exact readLines_eq_error_iff.mpr
        ⟨before, line, after, raws, split, rawBefore, .malformed read⟩
  | repeated read taken =>
      refine ⟨rfl, .inl ⟨.inr ⟨_, rfl⟩, ?_⟩⟩
      exact readLines_eq_error_iff.mpr
        ⟨before, line, after, raws, split, rawBefore, .repeated read taken⟩
  | unaccepted read fresh fails =>
      obtain ⟨error, rfl⟩ := cause_of_ofRaw fails
      refine ⟨rfl, .inr ⟨⟨error, rfl⟩, ?_⟩⟩
      rw [readRaw, split]
      exact readRaw_or_failsBelow rawBefore read fresh

/-- A file that is read, whose first line ends with a carriage return. -/
def soundFile : String :=
  "A=1\r\n\nexport B: 'x' # y"

/-- The declarations of `soundFile`. -/
def soundDeclarations : List Declaration :=
  [⟨"A", "1", .int 1, 1⟩, ⟨"B", "x", .string "x", 3⟩]

/-- A file whose second value is no address and whose third line repeats a name. -/
def brokenFile : String :=
  "A=1\nB=http://[\nA=2"

/-- What is wrong with the second line of `brokenFile`. -/
def brokenAddress : Diagnostic :=
  .atLine 2 (.infer ⟨"http://[", .badUrl .badIpv6⟩)

theorem readTyped_agrees_brokenFile :
    (readTyped soundFile = .ok soundDeclarations ∧
      readRaw soundFile = .ok (soundDeclarations.map untyped) ∧
      ∀ declaration ∈ soundDeclarations, infer declaration.raw = .ok declaration.value) ∧
    (readRaw soundFile = .ok (soundDeclarations.map untyped) ∧
      (∀ raw ∈ soundDeclarations.map untyped, ∃ value, infer raw.raw = .ok value) ∧
      ∃ declarations, readTyped soundFile = .ok declarations) ∧
    readTyped brokenFile = .error (.error brokenAddress) ∧
      ((∃ raws, readRaw brokenFile = .ok raws) ∨ FailsBelow 2 (readRaw brokenFile)) := by
  have read : readTyped soundFile = .ok soundDeclarations := by decide +kernel
  obtain ⟨readWithout, inferred⟩ := (readTyped_agrees soundFile).1 _ read
  have inferable : ∀ raw ∈ soundDeclarations.map untyped, ∃ value, infer raw.raw = .ok value := by
    intro raw member
    obtain ⟨declaration, isDeclaration, rfl⟩ := List.mem_map.mp member
    exact ⟨declaration.value, inferred declaration isDeclaration⟩
  have failed : readTyped brokenFile = .error (.error brokenAddress) := by decide +kernel
  refine ⟨⟨read, readWithout, inferred⟩, ⟨readWithout, inferable,
    (readTyped_agrees soundFile).2.1 _ readWithout inferable⟩, failed, ?_⟩
  obtain ⟨line, isLine, (⟨⟨rejected, isFormat⟩ | ⟨name, isDuplicate⟩, -⟩ | ⟨-, below⟩)⟩ :=
    (readTyped_agrees brokenFile).2.2 _ failed
  · cases isFormat
  · cases isDuplicate
  · cases isLine
    exact below

end TypedEnv.Declaration
