import Mathlib.Data.List.TakeWhile
import TypedEnv.Proofs.Declaration.Line

/-!
# The grammar of a line

`DeclarationLine` lists the parts of a line that declares a variable: a name,
a mark behind it, and any text after the mark.  A line is read as a
declaration exactly when it has such parts, and it has them in one way only,
although the word `export` may itself be a name.  The other lines are passed
over when they are blank or comments, and reported as they stand when not.
-/

namespace TypedEnv.Declaration

open Text (isBlank trimStart trimStart_append_of_blank trimStart_cons_of_not_blank
  takeWhile_append_trimStart)

/-- What stands right behind a name: an equals sign, perhaps with blanks before it, or a
colon. -/
inductive Mark where
  | equals (before : Blanks)
  | colon

namespace Mark

def sign : Mark → Char
  | .equals _ => '='
  | .colon => ':'

def text : Mark → List Char
  | .equals before => before.text ++ ['=']
  | .colon => [':']

end Mark

/-- The parts of a line that declares a variable.  Blanks after the mark count to the rest of
the line, which is any text, except that it begins with a blank after a colon. -/
structure DeclarationLine where
  indent : Blanks
  /-- The blanks after the word `export`, if it stands before the name. -/
  exported : Option Blanks
  name : List Char
  mark : Mark
  rest : List Char
  blank_after_export : ∀ blanks ∈ exported, blanks.text ≠ []
  name_ne_nil : name ≠ []
  name_chars : ∀ c ∈ name, isNameChar c = true
  blank_after_colon : mark = .colon → ∃ c ∈ rest.head?, isBlank c = true

def DeclarationLine.text (line : DeclarationLine) : List Char :=
  line.indent.text ++ (exportText line.exported ++ (line.name ++ (line.mark.text ++ line.rest)))

/-- A line that declares nothing: blanks alone, or a comment behind blanks. -/
def IsSkipped (line : List Char) : Prop :=
  (∀ c ∈ line, isBlank c = true) ∨
    ∃ (indent : Blanks) (comment : List Char), line = indent.text ++ '#' :: comment

theorem Blanks.eq_of_text {first second : Blanks} (same : first.text = second.text) :
    first = second := by
  cases first
  cases second
  cases same
  rfl

/-- The blanks with which a text begins. -/
def Blanks.leading (text : List Char) : Blanks :=
  ⟨text.takeWhile isBlank, fun _ member => List.mem_takeWhile_imp member⟩

theorem leading_append_trimStart (text : List Char) :
    (Blanks.leading text).text ++ trimStart text = text :=
  takeWhile_append_trimStart text

theorem Blanks.leading_ne_nil {text : List Char} (blank : text.head?.any isBlank = true) :
    (Blanks.leading text).text ≠ [] := by
  cases text with
  | nil => cases blank
  | cons c rest =>
      have isBlank : isBlank c = true := by simpa using blank
      simp [Blanks.leading, isBlank]

section Cutting

variable {text tail : List Char}

theorem eq_append_dropExport (text : List Char) :
    ∃ exported : Option Blanks, (∀ blanks ∈ exported, blanks.text ≠ []) ∧
      text = exportText exported ++ dropExport text := by
  rw [dropExport]
  split
  · next matched =>
      simp only [Bool.and_eq_true, List.isPrefixOf_iff_prefix] at matched
      obtain ⟨⟨⟨behind, rfl⟩, blankHead⟩, -⟩ := matched
      rw [List.drop_left] at blankHead ⊢
      refine ⟨some (.leading behind), ?_, ?_⟩
      · rintro blanks ⟨⟩
        exact Blanks.leading_ne_nil blankHead
      · rw [exportText_some, List.append_assoc, leading_append_trimStart]
  · exact ⟨none, by simp, by rw [exportText_none, List.nil_append]⟩

/-- A separator that is passed was a mark with its blanks. -/
theorem exists_mark_of_afterSeparator? (passed : afterSeparator? text = some tail) :
    ∃ (mark : Mark) (rest : List Char), text = mark.text ++ rest ∧
      (mark = .colon → ∃ c ∈ rest.head?, isBlank c = true) := by
  unfold afterSeparator? at passed
  split at passed
  · next behind =>
      split at passed
      · next blankHead =>
          exact ⟨.colon, behind, rfl, fun _ => (Option.any_eq_true _ _).mp blankHead⟩
      · cases passed
  · next whole _ _ behind notColon isEquals =>
      refine ⟨.equals (.leading whole), behind, ?_, fun isColon => (by cases isColon)⟩
      rw [Mark.text, List.append_assoc, List.singleton_append, ← isEquals]
      exact (leading_append_trimStart whole).symm
  · cases passed

theorem exists_of_readDeclaration? {line name value : List Char}
    (read : readDeclaration? line = some (name, value)) :
    ∃ written : DeclarationLine, written.text = line ∧ written.name = name := by
  rw [readDeclaration?] at read
  split at read
  · cases read
  · next nonempty =>
      obtain ⟨tail, passed, read⟩ := Option.bind_eq_some_iff.mp read
      obtain ⟨found, -, read⟩ := Option.bind_eq_some_iff.mp read
      cases read
      obtain ⟨exported, blankAfterExport, behindIndent⟩ :=
        eq_append_dropExport (trimStart line)
      obtain ⟨mark, rest, behindName, blankAfterColon⟩ := exists_mark_of_afterSeparator? passed
      refine ⟨⟨.leading line, exported, _, mark, rest, blankAfterExport, ?_, ?_,
        blankAfterColon⟩, ?_, rfl⟩
      · simpa [List.isEmpty_iff] using nonempty
      · exact fun _ member => List.mem_takeWhile_imp member
      · rw [DeclarationLine.text, ← behindName, List.takeWhile_append_dropWhile,
          ← behindIndent, leading_append_trimStart]

end Cutting

section Values

/-- On a single line a value can always be read: what ends it is a comment or the end. -/
theorem exists_value? {text : List Char} (oneLine : '\n' ∉ text) :
    ∃ value, value? text = some value := by
  have isEnd : isTail (text.dropWhile isPlainChar) = true := by
    cases left : text.dropWhile isPlainChar with
    | nil => rfl
    | cons c rest =>
        have stops : isPlainChar c = false := by
          have outside := List.head?_dropWhile_not isPlainChar text
          simpa [left] using outside
        have onLine : ∀ d ∈ c :: rest, d ≠ '\n' := by
          rintro d member rfl
          exact oneLine ((List.dropWhile_suffix _).subset (left ▸ member))
        have isComment : c = '#' := by
          simpa [isPlainChar, onLine c List.mem_cons_self] using stops
        have restOnLine : '\n' ∉ rest := fun member =>
          onLine '\n' (List.mem_cons_of_mem _ member) rfl
        subst isComment
        rw [isTail, trimStart_cons_of_not_blank (by decide)]
        simpa using restOnLine
  rw [value?]
  cases quotedValue? text with
  | some value => exact ⟨value, rfl⟩
  | none => exact ⟨_, if_pos isEnd⟩

end Values

namespace DeclarationLine

variable (line : DeclarationLine)

/-- What stands behind the name can be taken for a separator with a text behind it. -/
theorem exists_separator :
    ∃ (separator : Separator) (tail : List Char),
      separator.text ++ tail = line.mark.text ++ line.rest := by
  have noBlanks : ∀ c ∈ ([] : List Char), isBlank c = true := by simp
  cases isMark : line.mark with
  | equals before =>
      refine ⟨.equals before ⟨[], noBlanks⟩, line.rest, ?_⟩
      rw [Separator.text, Mark.text]
  | colon =>
      obtain ⟨c, isHead, blank⟩ := line.blank_after_colon isMark
      obtain ⟨tail, isCons⟩ := List.head?_eq_some_iff.mp isHead
      refine ⟨.colon ⟨[c], by simpa using blank⟩ (by simp), tail, ?_⟩
      rw [isCons]
      rfl

/-- A line that declares a variable begins with the head of a written line. -/
theorem exists_head :
    ∃ (head : Head) (tail : List Char), head.text ++ tail = line.text ∧
      head.exported = line.exported ∧ head.name = line.name ∧
      head.separator.text ++ tail = line.mark.text ++ line.rest := by
  obtain ⟨separator, tail, same⟩ := line.exists_separator
  refine ⟨⟨line.indent, line.exported, line.name, separator, line.blank_after_export,
    line.name_ne_nil, line.name_chars⟩, tail, ?_, rfl, rfl, same⟩
  simp only [Head.text, text, List.append_assoc, same]

theorem trimStart_text :
    trimStart line.text =
      exportText line.exported ++ (line.name ++ (line.mark.text ++ line.rest)) := by
  obtain ⟨head, tail, same, exported, name, behind⟩ := line.exists_head
  rw [← same, trimStart_head, exported, name, behind]

theorem dropExport_text :
    dropExport (trimStart line.text) = line.name ++ (line.mark.text ++ line.rest) := by
  obtain ⟨head, tail, same, -, name, behind⟩ := line.exists_head
  rw [← same, trimStart_head, dropExport_head, name, behind]

theorem takeWhile_text :
    (dropExport (trimStart line.text)).takeWhile isNameChar = line.name ∧
      (dropExport (trimStart line.text)).dropWhile isNameChar = line.mark.text ++ line.rest := by
  obtain ⟨separator, tail, same⟩ := line.exists_separator
  rw [dropExport_text, ← same]
  exact takeWhile_name line.name_chars separator tail

theorem trimStart_mark (mark : Mark) (rest : List Char) :
    trimStart (mark.text ++ rest) = mark.sign :: rest := by
  cases mark with
  | equals before =>
      rw [Mark.text, List.append_assoc, trimStart_append_of_blank before.blank]
      exact trimStart_cons_of_not_blank (by decide)
  | colon => exact trimStart_cons_of_not_blank (by decide)

/-- A mark and the text behind it are known from the two together. -/
theorem mark_eq_of_append {first second : Mark} {firstRest secondRest : List Char}
    (same : first.text ++ firstRest = second.text ++ secondRest) :
    first = second ∧ firstRest = secondRest := by
  have trimmed := congrArg trimStart same
  rw [trimStart_mark, trimStart_mark] at trimmed
  obtain ⟨sign, sameRest⟩ := List.cons.inj trimmed
  subst sameRest
  refine ⟨?_, rfl⟩
  have sameText := List.append_cancel_right same
  cases first with
  | equals before =>
      cases second with
      | equals other =>
          rw [Blanks.eq_of_text (List.append_cancel_right sameText)]
      | colon => cases sign
  | colon =>
      cases second with
      | equals other => cases sign
      | colon => rfl

theorem exportText_injective : Function.Injective exportText := by
  intro first second same
  cases first with
  | none =>
      cases second with
      | none => rfl
      | some blanks => cases same
  | some blanks =>
      cases second with
      | none => cases same
      | some others =>
          rw [exportText_some, exportText_some] at same
          rw [Blanks.eq_of_text (List.append_cancel_left same)]

/-- The parts of a line are known from the line. -/
theorem text_injective : Function.Injective text := by
  intro first second same
  have behindExport : first.name ++ (first.mark.text ++ first.rest) =
      second.name ++ (second.mark.text ++ second.rest) := by
    rw [← dropExport_text, ← dropExport_text, same]
  have behindIndent : exportText first.exported ++ (first.name ++ (first.mark.text ++ first.rest)) =
      exportText second.exported ++ (second.name ++ (second.mark.text ++ second.rest)) := by
    rw [← trimStart_text, ← trimStart_text, same]
  have indent : first.indent = second.indent := by
    have whole := same
    rw [text, text, behindIndent] at whole
    exact Blanks.eq_of_text (List.append_cancel_right whole)
  have exported : first.exported = second.exported := by
    rw [behindExport] at behindIndent
    exact exportText_injective (List.append_cancel_right behindIndent)
  have name : first.name = second.name := by
    rw [← first.takeWhile_text.1, ← second.takeWhile_text.1, same]
  obtain ⟨mark, rest⟩ : first.mark = second.mark ∧ first.rest = second.rest := by
    rw [name] at behindExport
    exact mark_eq_of_append (List.append_cancel_left behindExport)
  cases first
  cases second
  cases indent
  cases exported
  cases name
  cases mark
  cases rest
  rfl

/-- A single line with the parts of a declaration declares its name. -/
theorem exists_readDeclaration? (oneLine : '\n' ∉ line.text) :
    ∃ value, readDeclaration? line.text = some (line.name, value) := by
  obtain ⟨head, tail, same, -, name, -⟩ := line.exists_head
  have tailOnLine : '\n' ∉ trimStart tail := by
    intro member
    have inTail : '\n' ∈ tail := (List.dropWhile_suffix _).subset member
    exact oneLine (same ▸ List.mem_append_right _ inTail)
  obtain ⟨value, found⟩ := exists_value? tailOnLine
  refine ⟨value, ?_⟩
  rw [← same, readDeclaration?_head, found, name]
  rfl

end DeclarationLine

section Skipping

variable {line : List Char}

theorem isSkipped_iff : IsSkipped line ↔ (trimStart line).head?.all (· == '#') = true := by
  constructor
  · rintro (blank | ⟨indent, comment, rfl⟩)
    · have trimmed : trimStart line = [] := List.dropWhile_eq_nil_iff.mpr blank
      simp [trimmed]
    · rw [trimStart_append_of_blank indent.blank, trimStart_cons_of_not_blank (by decide)]
      simp
  · intro comment
    cases trimmed : trimStart line with
    | nil => exact .inl (List.dropWhile_eq_nil_iff.mp trimmed)
    | cons c rest =>
        have isMark : c = '#' := by simpa [trimmed] using comment
        refine .inr ⟨.leading line, rest, ?_⟩
        rw [← isMark, ← trimmed, leading_append_trimStart]

/-- A line that declares a variable is neither blank nor a comment. -/
theorem DeclarationLine.not_isSkipped (line : DeclarationLine) : ¬IsSkipped line.text := by
  have solid : ∃ c ∈ (trimStart line.text).head?, isNameChar c = true := by
    rw [trimStart_text]
    cases line.exported with
    | none =>
        obtain ⟨first, others, isCons⟩ := List.exists_cons_of_ne_nil line.name_ne_nil
        have named : isNameChar first = true := line.name_chars first (by simp [isCons])
        exact ⟨first, by simp [exportText_none, isCons], named⟩
    | some blanks => exact ⟨'e', rfl, by decide⟩
  obtain ⟨c, isHead, named⟩ := solid
  intro skipped
  have isMark := (Option.all_eq_true _ _).mp (isSkipped_iff.mp skipped) c isHead
  obtain rfl : c = '#' := by simpa using isMark
  cases named

/-- Without a declaration, the first character that is not blank decides. -/
theorem read_of_no_declaration (missing : readDeclaration? line = none) :
    LineContent.read line =
      if (trimStart line).head?.all (· == '#') then .nothing else .malformed := by
  rw [LineContent.read, missing]
  cases trimStart line with
  | nil => simp
  | cons c rest => by_cases isMark : c = '#' <;> simp [isMark]

theorem read_eq_declares_iff {name value : List Char} :
    LineContent.read line = .declares name value ↔
      readDeclaration? line = some (name, value) := by
  cases found : readDeclaration? line with
  | some declared => simp [LineContent.read, found, Prod.ext_iff]
  | none =>
      rw [read_of_no_declaration found]
      split <;> simp

theorem isNameChar_of_read {name value : List Char}
    (declares : LineContent.read line = .declares name value) :
    ∀ c ∈ name, isNameChar c = true := by
  obtain ⟨written, -, rfl⟩ := exists_of_readDeclaration? (read_eq_declares_iff.mp declares)
  exact written.name_chars

theorem read_eq_nothing_iff :
    LineContent.read line = .nothing ↔ readDeclaration? line = none ∧ IsSkipped line := by
  rw [isSkipped_iff]
  cases found : readDeclaration? line with
  | some declared => simp [LineContent.read, found]
  | none => simp [read_of_no_declaration found]

theorem read_eq_malformed_iff :
    LineContent.read line = .malformed ↔ readDeclaration? line = none ∧ ¬IsSkipped line := by
  rw [isSkipped_iff]
  cases found : readDeclaration? line with
  | some declared => simp [LineContent.read, found]
  | none => simp [read_of_no_declaration found]

end Skipping

section Lines

variable {line name value : String}

theorem exists_of_readLine (reads : readLine line = .ok (some (name, value))) :
    ∃ nameText valueText, readDeclaration? line.toList = some (nameText, valueText) ∧
      String.ofList nameText = name := by
  rw [readLine] at reads
  cases content : LineContent.read line.toList with
  | nothing =>
      rw [content] at reads
      cases reads
  | malformed =>
      rw [content] at reads
      cases reads
  | declares nameText valueText =>
      rw [content] at reads
      cases reads
      exact ⟨nameText, valueText, read_eq_declares_iff.mp content, rfl⟩

theorem readLine_of_readDeclaration? {nameText valueText : List Char}
    (read : readDeclaration? line.toList = some (nameText, valueText)) :
    readLine line = .ok (some (String.ofList nameText, String.ofList valueText)) := by
  rw [readLine, read_eq_declares_iff.mpr read]

theorem readLine_eq_none_iff :
    readLine line = .ok none ↔ LineContent.read line.toList = .nothing := by
  rw [readLine]
  cases LineContent.read line.toList <;> simp

theorem readLine_eq_error_iff {diagnostic : Diagnostic} :
    readLine line = .error diagnostic ↔
      diagnostic = ⟨none, none, .format line⟩ ∧ LineContent.read line.toList = .malformed := by
  rw [readLine]
  cases LineContent.read line.toList <;> simp [Diagnostic.ofCause, eq_comm]

end Lines

/-- What a single line is read as, told by its parts alone. -/
structure FollowsGrammar (line : String) : Prop where
  declares_iff : ∀ name, (∃ value, readLine line = .ok (some (name, value))) ↔
    ∃ written : DeclarationLine, written.text = line.toList ∧ String.ofList written.name = name
  parts_unique : ∀ first second : DeclarationLine,
    first.text = line.toList → second.text = line.toList → first = second
  skips_iff : readLine line = .ok none ↔ IsSkipped line.toList
  fails_iff : ∀ diagnostic, readLine line = .error diagnostic ↔
    diagnostic = ⟨none, none, .format line⟩ ∧
      (∀ written : DeclarationLine, written.text ≠ line.toList) ∧ ¬IsSkipped line.toList

/-- A single line declares the name in its parts, which are unique, if it has the parts of a
declaration.  It is passed over when it is blank or a comment, and in every other case the
error carries the line as it stands and no line number. -/
theorem readLine_follows_grammar (line : String) (oneLine : '\n' ∉ line.toList) :
    FollowsGrammar line := by
  have noDeclaration : readDeclaration? line.toList = none ↔
      ∀ written : DeclarationLine, written.text ≠ line.toList := by
    constructor
    · intro missing written same
      obtain ⟨value, read⟩ := written.exists_readDeclaration? (same ▸ oneLine)
      rw [same, missing] at read
      cases read
    · intro noParts
      cases read : readDeclaration? line.toList with
      | none => rfl
      | some declared =>
          obtain ⟨written, same, -⟩ := exists_of_readDeclaration? read
          exact absurd same (noParts written)
  refine ⟨?declares, ?unique, ?skips, ?fails⟩
  case declares =>
    intro name
    constructor
    · rintro ⟨value, reads⟩
      obtain ⟨nameText, valueText, read, rfl⟩ := exists_of_readLine reads
      obtain ⟨written, same, rfl⟩ := exists_of_readDeclaration? read
      exact ⟨written, same, rfl⟩
    · rintro ⟨written, same, rfl⟩
      obtain ⟨value, read⟩ := written.exists_readDeclaration? (same ▸ oneLine)
      rw [same] at read
      exact ⟨String.ofList value, readLine_of_readDeclaration? read⟩
  case unique =>
    intro first second sameFirst sameSecond
    exact DeclarationLine.text_injective (sameFirst.trans sameSecond.symm)
  case skips =>
    rw [readLine_eq_none_iff, read_eq_nothing_iff, noDeclaration]
    refine and_iff_right_of_imp fun skipped written same => ?_
    exact written.not_isSkipped (same ▸ skipped)
  case fails =>
    intro diagnostic
    rw [readLine_eq_error_iff, read_eq_malformed_iff, noDeclaration]

/-- The word `export` stands before a name, and it is itself the name when there is no other. -/
theorem readLine_follows_grammar_export :
    ('\n' ∉ "export export: x".toList ∧ FollowsGrammar "export export: x") ∧
      '\n' ∉ " export = x # y".toList ∧ FollowsGrammar " export = x # y" :=
  ⟨⟨by decide, readLine_follows_grammar _ (by decide)⟩,
    by decide, readLine_follows_grammar _ (by decide)⟩

end TypedEnv.Declaration
