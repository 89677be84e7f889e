import TypedEnv.Proofs.Declaration.Typed

/-!
# Files one below the other

A file whose last line is ended can stand above another one.  What is read of
the second file is then what is read of it alone, with the numbers of its lines
moved down, up to the first line that declares a name of the first file again.
-/

namespace TypedEnv

/-- A diagnostic about a text that stands below further lines. -/
def Diagnostic.below (count : Nat) (diagnostic : Diagnostic) : Diagnostic :=
  { diagnostic with line := diagnostic.line.map (count + ·) }

namespace Declaration

/-- A declaration of a text that stands below further lines. -/
def below (count : Nat) (declaration : Declaration) : Declaration :=
  { declaration with line := count + declaration.line }

/-- What is read of lines, as it is below further lines. -/
def readBelow (count : Nat) (outcome : Outcome Diagnostic (List Declaration)) :
    Outcome Diagnostic (List Declaration) :=
  (outcome.mapCause (Diagnostic.below count)).map fun declarations =>
    declarations.map (below count)

/-- A text that is empty or ends with a line break. -/
def IsClosed (text : String) : Prop :=
  text = "" ∨ ∃ front, text = front ++ "\n"

def lineCount (text : String) : Nat :=
  (lines text.toList).length

section Lines

theorem lines_append_break (front rest : List Char) :
    lines (front ++ '\n' :: rest) = (front.splitOn '\n').map closedLine ++ lines rest := by
  have parts : (front ++ '\n' :: rest).splitOn '\n' =
      front.splitOn '\n' ++ rest.splitOn '\n' := by
    simp only [List.splitOn_eq_splitOnP]
    exact List.splitOnP_append_cons front rest rfl
  have nonempty : rest.splitOn '\n' ≠ [] := by
    rw [List.splitOn_eq_splitOnP]
    exact List.splitOnP_ne_nil _ rest
  simp [lines, parts, List.dropLast_append_of_ne_nil nonempty,
    List.getLast?_append_of_ne_nil _ nonempty]

/-- A closed text has its own lines above those of another. -/
theorem lines_append {first : String} (closed : IsClosed first) (second : String) :
    lines (first ++ second).toList = lines first.toList ++ lines second.toList := by
  have nothing : lines [] = [] := rfl
  rcases closed with rfl | ⟨front, rfl⟩
  · simp [nothing]
  · have split : (front ++ "\n" ++ second).toList = front.toList ++ '\n' :: second.toList := by
      simp
    have alone : (front ++ "\n").toList = front.toList ++ '\n' :: [] := by simp
    rw [split, alone, lines_append_break, lines_append_break, nothing, List.append_nil]

end Lines

section Reading

variable {α : Type} {accept : RawDeclaration → Outcome Diagnostic α} {seen taken : List String}
  {number : Nat} {lines : List (List Char)}

/-- Names that no line declares do not matter. -/
theorem readLines_of_disjoint (disjoint : ∀ name ∈ declaredNames lines, name ∉ taken) :
    readLines accept (seen ++ taken) number lines = readLines accept seen number lines := by
  induction lines generalizing seen number with
  | nil => rfl
  | cons line rest induction =>
      cases read : LineContent.read line with
      | nothing =>
          rw [declaredNames_of_nothing read] at disjoint
          rw [readLines_of_nothing _ read, readLines_of_nothing _ read, induction disjoint]
      | malformed => rw [readLines_of_malformed _ read, readLines_of_malformed _ read]
      | declares name value =>
          rw [declaredNames_of_declares read, List.forall_mem_cons] at disjoint
          obtain ⟨notTaken, restDisjoint⟩ := disjoint
          have sameNames : String.ofList name ∈ seen ++ taken ↔ String.ofList name ∈ seen := by
            simp [notTaken]
          by_cases repeated : String.ofList name ∈ seen
          · rw [readLines_of_repeated _ read (sameNames.mpr repeated),
              readLines_of_repeated _ read repeated]
          · rw [readLines_of_fresh _ read (mt sameNames.mp repeated),
              readLines_of_fresh _ read repeated, ← List.cons_append, induction restDisjoint]

theorem ofRaw_below (count : Nat) (raw : RawDeclaration) :
    ofRaw { raw with line := count + raw.line } =
      ((ofRaw raw).mapCause (Diagnostic.below count)).map (below count) := by
  rw [ofRaw, ofRaw]
  cases infer raw.raw with
  | ok value => rfl
  | error failure => cases failure <;> rfl

/-- Lines that are read from a later number on move down with everything that is found. -/
theorem readLines_below (count : Nat) :
    readLines ofRaw seen (count + number) lines =
      readBelow count (readLines ofRaw seen number lines) := by
  induction lines generalizing seen number with
  | nil => rfl
  | cons line rest induction =>
      cases read : LineContent.read line with
      | nothing =>
          rw [readLines_of_nothing _ read, readLines_of_nothing _ read, Nat.add_assoc, induction]
      | malformed =>
          rw [readLines_of_malformed _ read, readLines_of_malformed _ read]
          rfl
      | declares name value =>
          by_cases repeated : String.ofList name ∈ seen
          · rw [readLines_of_repeated _ read repeated, readLines_of_repeated _ read repeated]
            rfl
          · have accepted := ofRaw_below count ⟨String.ofList name, String.ofList value, number⟩
            rw [readLines_of_fresh _ read repeated, readLines_of_fresh _ read repeated, accepted,
              Nat.add_assoc, induction]
            match ofRaw ⟨String.ofList name, String.ofList value, number⟩,
                readLines ofRaw (String.ofList name :: seen) (number + 1) rest with
            | .ok result, .ok others => rfl
            | .ok result, .error (.error cause) => rfl
            | .ok result, .error (.abort reason) => rfl
            | .error (.error cause), _ => rfl
            | .error (.abort reason), _ => rfl

/-- What is read from lines has their names in order, and the numbers of lines grow. -/
theorem names_of_readLines {raws : List RawDeclaration}
    (read : readLines .ok seen number lines = .ok raws) :
    raws.map RawDeclaration.name = declaredNames lines ∧
      (raws.map RawDeclaration.line).Pairwise (· < ·) ∧ ∀ raw ∈ raws, number ≤ raw.line := by
  induction lines generalizing seen number raws with
  | nil =>
      cases read
      simp [declaredNames]
  | cons line rest induction =>
      cases content : LineContent.read line with
      | nothing =>
          rw [readLines_of_nothing _ content] at read
          obtain ⟨names, increasing, bound⟩ := induction read
          rw [declaredNames_of_nothing content]
          exact ⟨names, increasing, fun raw member => by have := bound raw member; omega⟩
      | malformed =>
          rw [readLines_of_malformed _ content] at read
          cases read
      | declares name value =>
          by_cases repeated : String.ofList name ∈ seen
          · rw [readLines_of_repeated _ content repeated] at read
            cases read
          · rw [readLines_of_fresh _ content repeated] at read
            obtain ⟨raw, same, read⟩ := bind_eq_ok_iff.mp read
            obtain ⟨others, behind, read⟩ := bind_eq_ok_iff.mp read
            obtain rfl := pure_eq_ok_iff.mp read
            cases same
            obtain ⟨names, increasing, bound⟩ := induction behind
            rw [declaredNames_of_declares content, List.map_cons, names]
            refine ⟨rfl, List.pairwise_cons.mpr ⟨?_, increasing⟩, ?_⟩
            · intro later member
              obtain ⟨other, inOthers, rfl⟩ := List.mem_map.mp member
              exact bound other inOthers
            · intro other member
              rcases List.mem_cons.mp member with rfl | inOthers
              · exact Nat.le_refl _
              · exact Nat.le_of_succ_le (bound other inOthers)

end Reading

section Files

variable {first second : String} {declarations : List Declaration}

theorem names_of_readTyped (read : readTyped first = .ok declarations) :
    declarations.map Declaration.name = declaredNames (lines first.toList) := by
  obtain ⟨names, -, -⟩ := names_of_readLines (readTyped_eq_ok_iff.mp read).1
  rw [← names, List.map_map]
  rfl

/-- Behind a file that is read, the second one is read with the names of the first taken. -/
theorem readTyped_append_of_ok (closed : IsClosed first)
    (read : readTyped first = .ok declarations) :
    readTyped (first ++ second) =
      (readLines ofRaw (declarations.map Declaration.name).reverse (lineCount first + 1)
        (lines second.toList)).map (declarations ++ ·) := by
  have numbers : 1 + (lines first.toList).length = lineCount first + 1 := Nat.add_comm ..
  rw [readTyped, lines_append closed, readLines_append, names_of_readTyped read]
  rw [readTyped] at read
  rw [read, numbers, List.append_nil]
  rfl

/-- Lines without a taken name are read as they are alone. -/
theorem readLines_taken {taken : List String} {lines : List (List Char)} (count : Nat)
    (disjoint : ∀ name ∈ declaredNames lines, name ∉ taken) :
    readLines ofRaw taken.reverse (count + 1) lines =
      readBelow count (readLines ofRaw [] 1 lines) := by
  have apart : ∀ name ∈ declaredNames lines, name ∉ taken.reverse := by
    intro name member
    simpa using disjoint name member
  have alone : readLines ofRaw ([] ++ taken.reverse) (count + 1) lines =
      readLines ofRaw [] (count + 1) lines := readLines_of_disjoint apart
  rw [← readLines_below, ← alone, List.nil_append]

/-- The first line of the second file that declares a name of the first is refused. -/
theorem readTyped_append_of_repeated {index : Nat} {name : String} {earlier : List Declaration}
    (closed : IsClosed first) (read : readTyped first = .ok declarations)
    (readEarlier : readLines ofRaw [] 1 ((lines second.toList).take index) = .ok earlier)
    (disjoint : ∀ other ∈ declaredNames ((lines second.toList).take index),
      other ∉ declarations.map Declaration.name)
    (declares : (lines second.toList)[index]?.bind declaredName? = some name)
    (repeated : name ∈ declarations.map Declaration.name) :
    readTyped (first ++ second) =
      .error (.error (.atLine (lineCount first + (index + 1)) (.duplicate name))) := by
  obtain ⟨line, isLine, declaresName⟩ := Option.bind_eq_some_iff.mp declares
  obtain ⟨letters, value, content, rfl⟩ := declaredName?_eq_some_iff.mp declaresName
  obtain ⟨inside, sameLine⟩ := List.getElem?_eq_some_iff.mp isLine
  have split : lines second.toList =
      (lines second.toList).take index ++ line :: (lines second.toList).drop (index + 1) := by
    rw [← sameLine, List.getElem_cons_drop, List.take_append_drop]
  have number : lineCount first + (index + 1) =
      lineCount first + 1 + ((lines second.toList).take index).length := by
    rw [List.length_take]
    omega
  have taken : String.ofList letters ∈ (declaredNames ((lines second.toList).take index)).reverse ++
      (declarations.map Declaration.name).reverse := by
    rw [List.mem_append, List.mem_reverse, List.mem_reverse]
    exact .inr repeated
  have readBefore := readLines_taken (lineCount first) disjoint
  rw [readEarlier] at readBefore
  have failed := readLines_eq_error_iff.mpr
    ⟨_, line, _, _, split, readBefore, .repeated content taken⟩
  rw [readTyped_append_of_ok closed read, failed, number]
  rfl

/-- The second file's own error comes first when no line up to it declares a name of the first
file. -/
theorem readTyped_append_of_error {index : Nat} {diagnostic : Diagnostic}
    (closed : IsClosed first) (read : readTyped first = .ok declarations)
    (failed : readTyped second = .error (.error diagnostic))
    (isLine : diagnostic.line = some (index + 1))
    (disjoint : ∀ other ∈ declaredNames ((lines second.toList).take (index + 1)),
      other ∉ declarations.map Declaration.name) :
    readTyped (first ++ second) = .error (.error (diagnostic.below (lineCount first))) := by
  obtain ⟨before, line, after, results, split, readBefore, refuses⟩ :=
    readLines_eq_error_iff.mp failed
  have position : index = before.length := by
    have sameLine : diagnostic.line = some (1 + before.length) := by
      cases refuses with
      | malformed read => rfl
      | repeated read taken => rfl
      | unaccepted read fresh fails =>
          obtain ⟨error, rfl⟩ := cause_of_ofRaw fails
          rfl
    rw [isLine, Option.some.injEq] at sameLine
    omega
  subst position
  have regroup : before ++ line :: after = (before ++ [line]) ++ after := List.append_cons ..
  have upTo : (lines second.toList).take (before.length + 1) = before ++ [line] := by
    have length : before.length + 1 = (before ++ [line]).length := by simp
    rw [split, regroup, length, List.take_left']
    rfl
  rw [upTo] at disjoint
  have failedThere : readLines ofRaw [] 1 (before ++ [line]) = .error (.error diagnostic) :=
    readLines_eq_error_iff.mpr ⟨before, line, [], results, rfl, readBefore, refuses⟩
  have failedBelow := readLines_taken (lineCount first) disjoint
  rw [failedThere] at failedBelow
  rw [readTyped_append_of_ok closed read, split, regroup, readLines_append, failedBelow]
  rfl

/-- A closed file above another.  An error of the first file stays the error.  When both are read
and declare different names, all declarations are read.  Otherwise the first line of the second
file that declares a name of the first, or that is wrong by itself, is reported with the number
that it has below the first file.  In every file that is read, the names differ and the numbers of
the lines grow. -/
theorem readTyped_append (first second : String) (closed : IsClosed first) :
    (∀ failure, readTyped first = .error failure →
      readTyped (first ++ second) = .error failure) ∧
    (∀ declarations, readTyped first = .ok declarations →
      (∀ others, readTyped second = .ok others →
        (∀ declaration ∈ declarations, ∀ other ∈ others, declaration.name ≠ other.name) →
        readTyped (first ++ second) =
          .ok (declarations ++ others.map (below (lineCount first)))) ∧
      (∀ index name earlier,
        readLines ofRaw [] 1 ((lines second.toList).take index) = .ok earlier →
        (∀ other ∈ declaredNames ((lines second.toList).take index),
          other ∉ declarations.map Declaration.name) →
        (lines second.toList)[index]?.bind declaredName? = some name →
        name ∈ declarations.map Declaration.name →
        readTyped (first ++ second) =
          .error (.error (.atLine (lineCount first + (index + 1)) (.duplicate name)))) ∧
      (∀ index diagnostic, readTyped second = .error (.error diagnostic) →
        diagnostic.line = some (index + 1) →
        (∀ other ∈ declaredNames ((lines second.toList).take (index + 1)),
          other ∉ declarations.map Declaration.name) →
        readTyped (first ++ second) =
          .error (.error (diagnostic.below (lineCount first))))) ∧
    ∀ text declarations, readTyped text = .ok declarations →
      (declarations.map Declaration.name).Nodup ∧
        (declarations.map Declaration.line).Pairwise (· < ·) := by
  refine ⟨?_, ?_, ?_⟩
  · intro failure failed
    rw [readTyped] at failed
    rw [readTyped, lines_append closed, readLines_append, failed]
    rfl
  · intro declarations read
    refine ⟨?_, ?_, ?_⟩
    · intro others readOthers disjoint
      have apart : ∀ name ∈ declaredNames (lines second.toList),
          name ∉ declarations.map Declaration.name := by
        rw [← names_of_readTyped readOthers]
        intro name isOther isTaken
        obtain ⟨other, inOthers, rfl⟩ := List.mem_map.mp isOther
        obtain ⟨declaration, inFirst, same⟩ := List.mem_map.mp isTaken
        exact disjoint declaration inFirst other inOthers same
      rw [readTyped] at readOthers
      rw [readTyped_append_of_ok closed read, readLines_taken _ apart, readOthers]
      rfl
    · intro index name earlier readEarlier disjoint declares repeated
      exact readTyped_append_of_repeated closed read readEarlier disjoint declares repeated
    · intro index diagnostic failed isLine disjoint
      exact readTyped_append_of_error closed read failed isLine disjoint
  · intro text declarations read
    obtain ⟨-, increasing, -⟩ := names_of_readLines (readTyped_eq_ok_iff.mp read).1
    rw [List.map_map] at increasing
    exact ⟨names_nodup_of_readTyped read, increasing⟩

/-- A closed file of two lines. -/
def upperFile : String :=
  "A=1\r\n# c\n"

/-- The declarations of `upperFile`. -/
def upperDeclarations : List Declaration :=
  [⟨"A", "1", .int 1, 1⟩]

theorem isClosed_upperFile : IsClosed upperFile :=
  .inr ⟨"A=1\r\n# c", rfl⟩

/-- Files below `upperFile`: one with another name, one that declares its name again before a line
that is no declaration, and one with a value that is no address. -/
theorem readTyped_append_upperFile :
    IsClosed upperFile ∧ readTyped upperFile = .ok upperDeclarations ∧
    (readTyped "B=2\nC: 3" = .ok [⟨"B", "2", .int 2, 1⟩, ⟨"C", "3", .int 3, 2⟩] ∧
      readTyped (upperFile ++ "B=2\nC: 3") =
        .ok (upperDeclarations ++ [⟨"B", "2", .int 2, 3⟩, ⟨"C", "3", .int 3, 4⟩])) ∧
    (readLines ofRaw [] 1 ((lines "B=2\nA=x\nbad".toList).take 1) = .ok [⟨"B", "2", .int 2, 1⟩] ∧
      (lines "B=2\nA=x\nbad".toList)[1]?.bind declaredName? = some "A" ∧
      readTyped (upperFile ++ "B=2\nA=x\nbad") =
        .error (.error (.atLine 4 (.duplicate "A")))) ∧
    (readTyped "\nB=http://[\nA=2" = .error (.error brokenAddress) ∧
      readTyped (upperFile ++ "\nB=http://[\nA=2") =
        .error (.error (brokenAddress.below 2))) ∧
    (readTyped brokenFile = .error (.error brokenAddress) ∧ IsClosed (brokenFile ++ "\n") ∧
      readTyped (brokenFile ++ "\n" ++ upperFile) = .error (.error brokenAddress)) ∧
    (upperDeclarations.map Declaration.name).Nodup := by
  have read : readTyped upperFile = .ok upperDeclarations := by decide +kernel
  have readOthers : readTyped "B=2\nC: 3" =
      .ok [⟨"B", "2", .int 2, 1⟩, ⟨"C", "3", .int 3, 2⟩] := by decide +kernel
  have readEarlier : readLines ofRaw [] 1 ((lines "B=2\nA=x\nbad".toList).take 1) =
      .ok [⟨"B", "2", .int 2, 1⟩] := by decide +kernel
  have declares : (lines "B=2\nA=x\nbad".toList)[1]?.bind declaredName? = some "A" := by
    decide +kernel
  have failed : readTyped "\nB=http://[\nA=2" = .error (.error brokenAddress) := by decide +kernel
  have failedAbove : readTyped (brokenFile ++ "\n") = .error (.error brokenAddress) := by
    decide +kernel
  have closedAbove : IsClosed (brokenFile ++ "\n") := .inr ⟨brokenFile, rfl⟩
  have below := fun second => (readTyped_append upperFile second isClosed_upperFile).2.1 _ read
  refine ⟨isClosed_upperFile, read, ⟨readOthers, ?_⟩, ⟨readEarlier, declares, ?_⟩, ⟨failed, ?_⟩,
    ⟨by decide +kernel, closedAbove, ?_⟩, ?_⟩
  · exact (below _).1 _ readOthers (by decide)
  · exact (below _).2.1 1 "A" _ readEarlier (by decide +kernel) declares (by decide)
  · exact (below _).2.2 1 _ failed rfl (by decide +kernel)
  · exact (readTyped_append _ upperFile closedAbove).1 _ failedAbove
  · exact ((readTyped_append upperFile "" isClosed_upperFile).2.2 _ _ read).1

end Files

end Declaration

end TypedEnv
