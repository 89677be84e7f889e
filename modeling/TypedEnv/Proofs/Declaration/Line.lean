import TypedEnv.Declaration.File
import TypedEnv.Proofs.Outcome
import TypedEnv.Proofs.Text.Blank
import TypedEnv.Proofs.Text.Characters

/-!
# Written lines are read back

A line is written as a head with a name and a separator, a value with or
without quotation marks, and an ending of blanks and perhaps a comment.  The
three parts are read one after the other: `readDeclaration?_head` passes the
head, and the value is found by its quotation marks or by what ends it.  The
quotation mark that ends a value is the last one that can, so the proof for
quoted values follows `closeQuote?` along the value.
-/

namespace TypedEnv.Declaration

open Text (isBlank trimStart trimEnd trimStart_append_of_blank trimStart_cons_of_not_blank
  trimStart_eq_self trimEnd_append_of_blank)

/-- A text of blanks; it may be empty. -/
structure Blanks where
  text : List Char
  blank : ∀ c ∈ text, isBlank c = true

/-- What stands between a name and its value: an equals sign with blanks around it, or a colon
with a blank after it. -/
inductive Separator where
  | equals (before after : Blanks)
  | colon (after : Blanks) (nonempty : after.text ≠ [])

namespace Separator

def text : Separator → List Char
  | .equals before after => before.text ++ '=' :: after.text
  | .colon after _ => ':' :: after.text

end Separator

/-- The part of a line before its value. -/
structure Head where
  indent : Blanks
  /-- The blanks after the word `export`, if it stands before the name. -/
  exported : Option Blanks
  name : List Char
  separator : Separator
  blank_after_export : ∀ blanks ∈ exported, blanks.text ≠ []
  name_ne_nil : name ≠ []
  name_chars : ∀ c ∈ name, isNameChar c = true

/-- The word `export` with the blanks after it, if it is there. -/
def exportText : Option Blanks → List Char
  | none => []
  | some blanks => "export".toList ++ blanks.text

theorem exportText_none : exportText none = [] := rfl

theorem exportText_some (blanks : Blanks) :
    exportText (some blanks) = "export".toList ++ blanks.text := rfl

def Head.text (head : Head) : List Char :=
  head.indent.text ++ exportText head.exported ++ head.name ++ head.separator.text

/-- The part of a line after its value: blanks and perhaps a comment on the same line. -/
structure Ending where
  blanks : Blanks
  comment : Option (List Char)
  one_line : ∀ content ∈ comment, '\n' ∉ content

namespace Ending

def commentText (ending : Ending) : List Char :=
  match ending.comment with
  | none => []
  | some content => '#' :: content

def text (ending : Ending) : List Char :=
  ending.blanks.text ++ ending.commentText

end Ending

theorem code_of_isNameChar {c : Char} (named : isNameChar c = true) :
    c.toNat = 0x2E ∨ 0x30 ≤ c.toNat ∧ c.toNat ≤ 0x7A := by
  simp only [isNameChar, Char.isAlphanum, Bool.or_eq_true, beq_iff_eq] at named
  rcases named with ((isAlpha | isDigit) | rfl) | rfl
  · have range := Text.isAlpha_iff.mp isAlpha
    omega
  · have range := Text.isDigit_iff.mp isDigit
    omega
  · decide
  · decide

theorem ascii_of_isNameChar {c : Char} (named : isNameChar c = true) : c.toNat < 128 := by
  have code := code_of_isNameChar named
  omega

theorem isBlank_eq_false_of_isNameChar {c : Char} (named : isNameChar c = true) :
    isBlank c = false := by
  have code := code_of_isNameChar named
  rw [Bool.eq_false_iff]
  intro blank
  simp only [isBlank, Bool.or_eq_true, Bool.and_eq_true, decide_eq_true_eq, beq_iff_eq] at blank
  omega

namespace Ending

variable (ending : Ending)

theorem commentText_eq_nil_or_cons :
    ending.commentText = [] ∨ ∃ content, ending.commentText = '#' :: content ∧ '\n' ∉ content := by
  obtain ⟨blanks, comment, oneLine⟩ := ending
  cases comment with
  | none => exact .inl rfl
  | some content => exact .inr ⟨content, rfl, oneLine content rfl⟩

theorem head?_commentText : ∀ c ∈ ending.commentText.head?, c = '#' := by
  intro c isHead
  rcases ending.commentText_eq_nil_or_cons with isNil | ⟨content, isCons, -⟩
  · rw [isNil] at isHead
    cases isHead
  · rw [isCons] at isHead
    cases isHead
    rfl

theorem trimStart_commentText : trimStart ending.commentText = ending.commentText := by
  apply trimStart_eq_self
  intro c isHead
  obtain rfl := ending.head?_commentText c isHead
  decide

theorem isTail_append {blanks : List Char} (blank : ∀ c ∈ blanks, isBlank c = true) :
    isTail (blanks ++ ending.commentText) = true := by
  rw [isTail, trimStart_append_of_blank blank, trimStart_commentText]
  rcases ending.commentText_eq_nil_or_cons with isNil | ⟨content, isCons, oneLine⟩
  · rw [isNil]
  · rw [isCons]
    simpa using oneLine

end Ending

section Quoted

variable {quote : Char}

theorem isBlank_eq_false_of_isQuote (isMark : isQuote quote = true) : isBlank quote = false := by
  simp only [isQuote, Bool.or_eq_true, beq_iff_eq] at isMark
  rcases isMark with rfl | rfl <;> decide

theorem ne_backslash_of_isQuote (isMark : isQuote quote = true) : quote ≠ '\\' := by
  rintro rfl
  exact absurd isMark (by decide)

/-- Every quotation mark in a text comes right after a backslash; `afterBackslash` says whether
the whole text does. -/
def Escaped (quote : Char) (afterBackslash : Bool) : List Char → Prop
  | [] => True
  | c :: rest => (c = quote → afterBackslash = true) ∧ Escaped quote (c == '\\') rest

/-- The text ends right after a backslash; an empty one does when `afterBackslash` says so. -/
def endsEscaping (afterBackslash : Bool) (text : List Char) : Bool :=
  text.foldl (fun _ c => c == '\\') afterBackslash

theorem escaped_of_preceded {before text : List Char}
    (preceded : ∀ front back, before ++ text = front ++ quote :: back →
      front.getLast? = some '\\') :
    Escaped quote (before.getLast? == some '\\') text := by
  induction text generalizing before with
  | nil => trivial
  | cons c rest induction =>
      constructor
      · rintro rfl
        simpa using preceded before rest rfl
      · have restEscaped : Escaped quote ((before ++ [c]).getLast? == some '\\') rest :=
          induction (by simpa using preceded)
        simpa using restEscaped

theorem endsEscaping_eq (text : List Char) :
    endsEscaping false text = (text.getLast? == some '\\') := by
  rcases text.eq_nil_or_concat with rfl | ⟨front, last, rfl⟩
  · rfl
  · simp [endsEscaping]

theorem closeQuote?_eq_none {afterBackslash : Bool} {text : List Char} (absent : quote ∉ text) :
    closeQuote? quote afterBackslash text = none := by
  induction text generalizing afterBackslash with
  | nil => rfl
  | cons c rest induction =>
      rw [List.mem_cons, not_or] at absent
      obtain ⟨different, restAbsent⟩ := absent
      rw [closeQuote?, if_neg (Ne.symm different), induction restAbsent, Option.map_none]

/-- The value ends at the quotation mark behind it: those inside are passed because a later one
is preferred, and the one behind it is not passed, or nothing behind it can end the value. -/
theorem closeQuote?_append {afterBackslash : Bool} {value tail : List Char}
    (isMark : isQuote quote = true) (escaped : Escaped quote afterBackslash value)
    (ends : isTail tail = true)
    (closed : endsEscaping afterBackslash value = true → quote ∉ tail) :
    closeQuote? quote afterBackslash (value ++ quote :: tail) = some value := by
  induction value generalizing afterBackslash with
  | nil =>
      rw [List.nil_append, closeQuote?, if_pos rfl]
      cases afterBackslash with
      | false => simp [ends]
      | true => simp [ends, closeQuote?_eq_none (closed rfl)]
  | cons c rest induction =>
      obtain ⟨passed, restEscaped⟩ := escaped
      have later := induction restEscaped closed
      rw [List.cons_append, closeQuote?]
      by_cases isQuoteMark : c = quote
      · have notEscaping : (c == '\\') = false := by
          simpa [isQuoteMark] using ne_backslash_of_isQuote isMark
        rw [notEscaping] at later
        rw [if_pos isQuoteMark, passed isQuoteMark, later]
        rfl
      · rw [if_neg isQuoteMark, later]
        rfl

/-- A value between quotation marks is read back. -/
theorem value?_quoted {value : List Char} (ending : Ending) (isMark : isQuote quote = true)
    (escaped : ∀ front back, value = front ++ quote :: back → front.getLast? = some '\\')
    (closed : value.getLast? = some '\\' → quote ∉ ending.commentText) :
    value? (quote :: value ++ quote :: ending.text) = some value := by
  have escapedInside : Escaped quote (([] : List Char).getLast? == some '\\') value :=
    escaped_of_preceded (by simpa using escaped)
  have closedInside : endsEscaping false value = true → quote ∉ ending.text := by
    intro escaping
    rw [endsEscaping_eq, beq_iff_eq] at escaping
    rw [Ending.text, List.mem_append, not_or]
    refine ⟨?_, closed escaping⟩
    intro inBlanks
    have solid := isBlank_eq_false_of_isQuote isMark
    rw [ending.blanks.blank quote inBlanks] at solid
    cases solid
  have found := closeQuote?_append isMark escapedInside
    (ending.isTail_append ending.blanks.blank) closedInside
  rw [value?, List.cons_append, quotedValue?, if_pos isMark]
  exact (congrArg (Option.or · _) found).trans rfl

end Quoted

section Unquoted

/-- Whether a character may stand in a value without quotation marks. -/
def isPlainChar (c : Char) : Bool :=
  c != '#' && c != '\n'

theorem quotedValue?_eq_none {text : List Char} (plain : ∀ c ∈ text.head?, isQuote c = false) :
    quotedValue? text = none := by
  cases text with
  | nil => rfl
  | cons c rest => rw [quotedValue?, if_neg (by simp [plain c rfl])]

theorem stripQuotes_eq_self {text : List Char} (plain : ∀ c ∈ text.head?, isQuote c = false) :
    stripQuotes text = text := by
  fun_cases stripQuotes text with
  | case1 first second rest stripped =>
      have isMark := plain first rfl
      simp [isMark] at stripped
  | case2 first second rest kept => rfl
  | case3 text short => rfl

theorem takeWhile_commentText (ending : Ending) :
    ending.commentText.takeWhile isPlainChar = [] := by
  rcases ending.commentText_eq_nil_or_cons with isNil | ⟨content, isCons, -⟩
  · rw [isNil, List.takeWhile_nil]
  · rw [isCons, List.takeWhile_cons_of_neg (by decide)]

theorem dropWhile_commentText (ending : Ending) :
    ending.commentText.dropWhile isPlainChar = ending.commentText := by
  rcases ending.commentText_eq_nil_or_cons with isNil | ⟨content, isCons, -⟩
  · rw [isNil, List.dropWhile_nil]
  · rw [isCons, List.dropWhile_cons_of_neg (by decide)]

/-- The blanks of an ending that stand before a line break are part of an unquoted value. -/
theorem takeWhile_text (ending : Ending) :
    ending.text.takeWhile isPlainChar = ending.blanks.text.takeWhile isPlainChar := by
  rw [Ending.text, List.takeWhile_append, takeWhile_commentText, List.append_nil]
  split
  · next whole =>
      exact ((List.takeWhile_prefix isPlainChar).eq_of_length whole).symm
  · rfl

theorem dropWhile_text (ending : Ending) :
    ending.text.dropWhile isPlainChar =
      ending.blanks.text.dropWhile isPlainChar ++ ending.commentText := by
  rw [Ending.text, List.dropWhile_append, dropWhile_commentText]
  split
  · next isEmpty => rw [List.isEmpty_iff.mp isEmpty, List.nil_append]
  · rfl

theorem isQuote_head?_text (ending : Ending) : ∀ c ∈ ending.text.head?, isQuote c = false := by
  intro c isHead
  rw [Ending.text, List.head?_append] at isHead
  cases blankHead : ending.blanks.text.head? with
  | some blank =>
      rw [blankHead] at isHead
      cases isHead
      have isBlank := ending.blanks.blank c (List.mem_of_head? blankHead)
      by_contra isMark
      rw [isBlank_eq_false_of_isQuote (by simpa using isMark)] at isBlank
      cases isBlank
  | none =>
      rw [blankHead] at isHead
      obtain rfl := ending.head?_commentText c isHead
      decide

/-- A value without quotation marks is read back. -/
theorem value?_plain {value : List Char} (ending : Ending)
    (plain : ∀ c ∈ value, isPlainChar c = true)
    (unquoted : ∀ c ∈ value.head?, isQuote c = false)
    (solid : ∀ c ∈ value.getLast?, isBlank c = false) :
    value? (value ++ ending.text) = some value := by
  have noQuote : ∀ c ∈ (value ++ ending.text).head?, isQuote c = false := by
    intro c isHead
    cases value with
    | nil => exact isQuote_head?_text ending c isHead
    | cons first rest => exact unquoted c isHead
  have onLine : ∀ c ∈ ending.blanks.text.takeWhile isPlainChar, isBlank c = true :=
    fun c member => ending.blanks.blank c ((List.takeWhile_prefix _).subset member)
  have beyond : ∀ c ∈ ending.blanks.text.dropWhile isPlainChar, isBlank c = true :=
    fun c member => ending.blanks.blank c ((List.dropWhile_suffix _).subset member)
  have taken : (value ++ ending.text).takeWhile isPlainChar =
      value ++ ending.blanks.text.takeWhile isPlainChar := by
    rw [List.takeWhile_append_of_pos plain, takeWhile_text]
  have left : (value ++ ending.text).dropWhile isPlainChar =
      ending.blanks.text.dropWhile isPlainChar ++ ending.commentText := by
    rw [List.dropWhile_append_of_pos plain, dropWhile_text]
  have isEnd : isTail ((value ++ ending.text).dropWhile isPlainChar) = true := by
    rw [left]
    exact ending.isTail_append beyond
  have kept : stripQuotes (trimEnd ((value ++ ending.text).takeWhile isPlainChar)) = value := by
    rw [taken, trimEnd_append_of_blank solid onLine, stripQuotes_eq_self unquoted]
  rw [value?, quotedValue?_eq_none noQuote, Option.none_or]
  exact (if_pos isEnd).trans (congrArg some kept)

end Unquoted

section Heads

theorem isNameChar_eq_false_of_isBlank {c : Char} (blank : isBlank c = true) :
    isNameChar c = false := by
  by_contra named
  rw [isBlank_eq_false_of_isNameChar (by simpa using named)] at blank
  cases blank

theorem trimStart_equals (before after : Blanks) (rest : List Char) :
    trimStart ((Separator.equals before after).text ++ rest) = '=' :: (after.text ++ rest) := by
  rw [Separator.text, List.append_assoc, trimStart_append_of_blank before.blank]
  exact trimStart_cons_of_not_blank (by decide)

theorem trimStart_colon (after : Blanks) (nonempty : after.text ≠ []) (rest : List Char) :
    trimStart ((Separator.colon after nonempty).text ++ rest) = ':' :: (after.text ++ rest) :=
  trimStart_cons_of_not_blank (by decide)

/-- A separator is passed with the blanks after it. -/
theorem afterSeparator?_text (separator : Separator) (rest : List Char) :
    afterSeparator? (separator.text ++ rest) = some (trimStart rest) := by
  cases separator with
  | equals before after =>
      have trimmed := trimStart_equals before after rest
      unfold afterSeparator?
      split
      · next behind isColon =>
          -- then trimming would keep the colon
          rw [isColon, trimStart_cons_of_not_blank (by decide)] at trimmed
          cases trimmed
      · next isEquals notColon =>
          rw [trimmed] at isEquals
          cases isEquals
          rw [trimStart_append_of_blank after.blank]
      · next neither => exact absurd trimmed (neither _)
  | colon after nonempty =>
      obtain ⟨first, others, isCons⟩ := List.exists_cons_of_ne_nil nonempty
      have blank : isBlank first = true := after.blank first (by simp [isCons])
      have blankHead : (after.text ++ rest).head?.any isBlank = true := by simp [isCons, blank]
      rw [Separator.text, List.cons_append, afterSeparator?, if_pos blankHead,
        trimStart_append_of_blank after.blank]

theorem isNameChar_head?_text (separator : Separator) (rest : List Char) :
    ∀ c ∈ (separator.text ++ rest).head?, isNameChar c = false := by
  intro c isHead
  cases separator with
  | equals before after =>
      cases written : before.text with
      | nil =>
          rw [Separator.text, written] at isHead
          cases isHead
          decide
      | cons first others =>
          rw [Separator.text, written] at isHead
          cases isHead
          exact isNameChar_eq_false_of_isBlank (before.blank c (by simp [written]))
  | colon after nonempty =>
      cases isHead
      decide

/-- Behind its blanks a separator does not begin like a name. -/
theorem isNameChar_head?_trimStart (separator : Separator) (rest : List Char) :
    ∀ c ∈ (trimStart (separator.text ++ rest)).head?, isNameChar c = false := by
  intro c isHead
  cases separator with
  | equals before after =>
      rw [trimStart_equals] at isHead
      cases isHead
      decide
  | colon after nonempty =>
      rw [trimStart_colon] at isHead
      cases isHead
      decide

variable {name : List Char}

theorem takeWhile_name (named : ∀ c ∈ name, isNameChar c = true) (separator : Separator)
    (rest : List Char) :
    (name ++ (separator.text ++ rest)).takeWhile isNameChar = name ∧
      (name ++ (separator.text ++ rest)).dropWhile isNameChar = separator.text ++ rest := by
  rw [List.takeWhile_append_of_pos named, List.dropWhile_append_of_pos named]
  have stops := isNameChar_head?_text separator rest
  cases written : separator.text ++ rest with
  | nil => simp
  | cons c others =>
      rw [written] at stops
      have outside : isNameChar c = false := stops c rfl
      simp [outside]

/-- The word `export` is passed when a name stands behind it. -/
theorem dropExport_exportText (blanks : Blanks) (nonempty : blanks.text ≠ [])
    {text : List Char} (named : ∃ c ∈ text.head?, isNameChar c = true) :
    dropExport (exportText (some blanks) ++ text) = text := by
  obtain ⟨c, isHead, isName⟩ := named
  obtain ⟨first, others, isCons⟩ := List.exists_cons_of_ne_nil nonempty
  have blank : isBlank first = true := blanks.blank first (by simp [isCons])
  have trimmed : trimStart (blanks.text ++ text) = text := by
    rw [trimStart_append_of_blank blanks.blank]
    apply trimStart_eq_self
    intro other otherHead
    rw [Option.mem_unique otherHead isHead]
    exact isBlank_eq_false_of_isNameChar isName
  have dropped : (exportText (some blanks) ++ text).drop "export".toList.length =
      blanks.text ++ text := by
    rw [exportText_some, List.append_assoc, List.drop_left]
  have isPrefix : "export".toList.isPrefixOf (exportText (some blanks) ++ text) = true := by
    rw [exportText_some, List.append_assoc, List.isPrefixOf_iff_prefix]
    exact List.prefix_append _ _
  have blankHead : (blanks.text ++ text).head?.any isBlank = true := by simp [isCons, blank]
  have nameHead : text.head?.any isNameChar = true := by
    rw [Option.mem_def.mp isHead]
    exact isName
  rw [dropExport, dropped, trimmed, isPrefix, blankHead, nameHead]
  rfl

/-- A name is kept when the word `export` is missing, even if it begins with that word. -/
theorem dropExport_name (named : ∀ c ∈ name, isNameChar c = true) (separator : Separator)
    (rest : List Char) :
    dropExport (name ++ (separator.text ++ rest)) = name ++ (separator.text ++ rest) := by
  rw [dropExport]
  split
  · next matched =>
      simp only [Bool.and_eq_true, List.isPrefixOf_iff_prefix] at matched
      obtain ⟨⟨⟨behind, equality⟩, blankHead⟩, nameHead⟩ := matched
      rw [← equality, List.drop_left] at blankHead nameHead
      -- the name is the word itself, so its separator would have to begin like a name
      have isSeparator : behind = separator.text ++ rest := by
        rcases List.append_eq_append_iff.mp equality with
          ⟨more, longer, split⟩ | ⟨more, shorter, split⟩
        · cases more with
          | nil => exact split
          | cons c others =>
              have isName : isNameChar c = true := named c (by simp [longer])
              simp [split, isBlank_eq_false_of_isNameChar isName] at blankHead
        · cases more with
          | nil => exact split.symm
          | cons c others =>
              have isName : isNameChar c = false :=
                isNameChar_head?_text separator rest c (by simp [split])
              have inWord : c ∈ "export".toList := by simp [shorter]
              have wordNamed : ∀ c ∈ "export".toList, isNameChar c = true :=
                List.all_eq_true.mp rfl
              rw [wordNamed c inWord] at isName
              cases isName
      obtain ⟨c, isHead, isName⟩ := (Option.any_eq_true _ _).mp nameHead
      rw [isSeparator] at isHead
      rw [isNameChar_head?_trimStart separator rest c isHead] at isName
      cases isName
  · rfl

/-- Behind its indentation a head goes on with the word `export` or with the name. -/
theorem trimStart_head (head : Head) (rest : List Char) :
    trimStart (head.text ++ rest) =
      exportText head.exported ++ (head.name ++ (head.separator.text ++ rest)) := by
  simp only [Head.text, List.append_assoc]
  rw [trimStart_append_of_blank head.indent.blank]
  cases head.exported with
  | none =>
      obtain ⟨first, others, isCons⟩ := List.exists_cons_of_ne_nil head.name_ne_nil
      have firstNamed : isNameChar first = true := head.name_chars first (by simp [isCons])
      rw [exportText_none, List.nil_append, isCons]
      exact trimStart_cons_of_not_blank (isBlank_eq_false_of_isNameChar firstNamed)
  | some blanks => exact trimStart_cons_of_not_blank (by decide)

theorem dropExport_head (head : Head) (rest : List Char) :
    dropExport (exportText head.exported ++ (head.name ++ (head.separator.text ++ rest))) =
      head.name ++ (head.separator.text ++ rest) := by
  cases exported : head.exported with
  | none => exact dropExport_name head.name_chars head.separator rest
  | some blanks =>
      obtain ⟨first, others, isCons⟩ := List.exists_cons_of_ne_nil head.name_ne_nil
      have firstNamed : isNameChar first = true := head.name_chars first (by simp [isCons])
      exact dropExport_exportText blanks (head.blank_after_export blanks exported)
        ⟨first, by simp [isCons], firstNamed⟩

/-- A head is passed, and the value is read after it. -/
theorem readDeclaration?_head (head : Head) (rest : List Char) :
    readDeclaration? (head.text ++ rest) =
      (value? (trimStart rest)).map fun value => (head.name, value) := by
  have ⟨taken, left⟩ := takeWhile_name head.name_chars head.separator rest
  have nonempty : head.name.isEmpty = false := by
    simpa [List.isEmpty_eq_false_iff] using head.name_ne_nil
  rw [readDeclaration?, trimStart_head, dropExport_head, taken, left, afterSeparator?_text,
    nonempty]
  simp only [Bool.false_eq_true, if_false, Option.bind_eq_bind, Option.bind_some]
  cases value? (trimStart rest) <;> rfl

end Heads

theorem readLine_head {head : Head} {rest value : List Char}
    (read : value? (trimStart rest) = some value) :
    readLine (String.ofList (head.text ++ rest)) =
      .ok (some (String.ofList head.name, String.ofList value)) := by
  have declares : readDeclaration? (head.text ++ rest) = some (head.name, value) := by
    rw [readDeclaration?_head, read, Option.map_some]
  rw [readLine, String.toList_ofList, LineContent.read, declares]

/-- A line that is written with a value is read as its name and exactly that value.  Between
quotation marks every character is kept, when those marks are escaped inside it and no
backslash at its end could escape the mark behind it in favour of one in the comment; a value
without quotation marks must not look like anything else. -/
theorem readLine_written (head : Head) (value : List Char) (ending : Ending)
    (oneLine : '\n' ∉ value) :
    (∀ quote, isQuote quote = true →
      (∀ front back, value = front ++ quote :: back → front.getLast? = some '\\') →
      (value.getLast? = some '\\' → quote ∉ ending.commentText) →
      readLine (String.ofList (head.text ++ (quote :: value ++ quote :: ending.text))) =
        .ok (some (String.ofList head.name, String.ofList value))) ∧
    ('#' ∉ value →
      (∀ c ∈ value.head?, isQuote c = false ∧ isBlank c = false) →
      (∀ c ∈ value.getLast?, isBlank c = false) →
      readLine (String.ofList (head.text ++ (value ++ ending.text))) =
        .ok (some (String.ofList head.name, String.ofList value))) := by
  constructor
  · intro quote isMark escaped closed
    apply readLine_head
    rw [List.cons_append, trimStart_cons_of_not_blank (isBlank_eq_false_of_isQuote isMark)]
    exact value?_quoted ending isMark escaped closed
  · intro noComment start solid
    apply readLine_head
    have plain : ∀ c ∈ value, isPlainChar c = true := by
      intro c member
      have notMark : c ≠ '#' := by
        rintro rfl
        exact noComment member
      have notBreak : c ≠ '\n' := by
        rintro rfl
        exact oneLine member
      simp [isPlainChar, notMark, notBreak]
    have unquoted : ∀ c ∈ value.head?, isQuote c = false := fun c isHead => (start c isHead).1
    cases value with
    | nil =>
        -- the blanks of the ending are taken for blanks after the separator
        have noBlanks : ∀ c ∈ ([] : List Char), isBlank c = true := by simp
        have trimmed : trimStart ([] ++ ending.text) = [] ++ ending.commentText := by
          rw [List.nil_append, Ending.text, trimStart_append_of_blank ending.blanks.blank,
            ending.trimStart_commentText, List.nil_append]
        rw [trimmed]
        exact value?_plain ⟨⟨[], noBlanks⟩, ending.comment, ending.one_line⟩ plain unquoted solid
    | cons first rest =>
        rw [List.cons_append, trimStart_cons_of_not_blank (start first rfl).2]
        exact value?_plain ending plain unquoted solid

/-- A head with the word `export` and with blanks wherever they may stand. -/
def Head.spacious : Head where
  indent := ⟨[' '], List.all_eq_true.mp rfl⟩
  exported := some ⟨[' ', '\t'], List.all_eq_true.mp rfl⟩
  name := "export.B".toList
  separator := .equals ⟨[' '], List.all_eq_true.mp rfl⟩ ⟨[' '], List.all_eq_true.mp rfl⟩
  blank_after_export := by rintro blanks ⟨⟩; decide
  name_ne_nil := by decide
  name_chars := List.all_eq_true.mp rfl

/-- A blank and a comment with a quotation mark. -/
def Ending.remark : Ending where
  blanks := ⟨[' '], List.all_eq_true.mp rfl⟩
  comment := some " it's".toList
  one_line := by rintro content ⟨⟩; decide

theorem readLine_written_spacious :
    readLine " export \texport.B = 'a \\'#\\' ' # it's" =
        .ok (some ("export.B", "a \\'#\\' ")) ∧
      readLine " export \texport.B = a'b # it's" = .ok (some ("export.B", "a'b")) := by
  have quoted := (readLine_written Head.spacious "a \\'#\\' ".toList Ending.remark (by decide)).1
  have plain := (readLine_written Head.spacious "a'b".toList Ending.remark (by decide)).2
  have solidStart : ∀ c ∈ "a'b".toList.head?, isQuote c = false ∧ isBlank c = false := by
    rintro c ⟨⟩
    decide
  have solidEnd : ∀ c ∈ "a'b".toList.getLast?, isBlank c = false := by
    rintro c ⟨⟩
    decide
  refine ⟨quoted '\x27' (by decide) ?_ (by decide), plain (by decide) solidStart solidEnd⟩
  intro front back split
  have twice : ∃ more, front = "a \\".toList ++ more ∧
      (more = [] ∨ more = "\x27#\\".toList) := by
    simp [List.cons_eq_append_iff] at split
    obtain ⟨more, equality, ⟨rfl, -⟩ | ⟨rfl, -⟩⟩ := split
    · exact ⟨_, equality, .inl rfl⟩
    · exact ⟨_, equality, .inr rfl⟩
  obtain ⟨more, rfl, rfl | rfl⟩ := twice <;> decide

end TypedEnv.Declaration
