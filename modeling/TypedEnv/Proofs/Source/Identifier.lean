import TypedEnv.Proofs.Name.Identifier
import TypedEnv.Proofs.Outcome

/-!
# Reading words

A word is read as the one identifier that it spells, because no comment, literal
or punctuation begins like it.  A name that is a word therefore makes an
identifier without stopping the program, a raw one exactly when the word is a
keyword.  What is read, be it a word or not, is never a reserved word.
-/

namespace TypedEnv.Source

open Name (IsIdentifier IsWord IsWordChar isWordChar_of_isAlpha reservedWords)

section Characters

variable {c mark : Char} {text : List Char}

theorem ne_of_isAlpha (isAlpha : c.isAlpha = true) (notAlpha : mark.isAlpha = false) :
    c ≠ mark := by
  rintro rfl
  rw [isAlpha] at notAlpha
  cases notAlpha

theorem isDigit_of_isAlpha (isAlpha : c.isAlpha = true) : c.isDigit = false := by
  rw [← Bool.not_eq_true]
  intro isDigit
  rw [Text.isAlpha_of_isDigit isDigit] at isAlpha
  cases isAlpha

theorem toNat_lt_of_isAlpha (isAlpha : c.isAlpha = true) : c.toNat < 128 := by
  have range := Text.isAlpha_iff.mp isAlpha
  omega

theorem isIdentifierStart_of_isAlpha (isAlpha : c.isAlpha = true) :
    Text.isIdentifierStart c = true := by
  rw [Text.isIdentifierStart, if_pos (toNat_lt_of_isAlpha isAlpha), isAlpha, Bool.or_true]

theorem isIdentifierContinue_of_isWordChar (isWordChar : IsWordChar c) :
    Text.isIdentifierContinue c = true := by
  rcases isWordChar with alphanumeric | rfl
  · have small : c.toNat < 128 := by
      rw [Char.isAlphanum, Bool.or_eq_true, Text.isAlpha_iff, Text.isDigit_iff] at alphanumeric
      omega
    rw [Text.isIdentifierContinue, if_pos small, alphanumeric, Bool.or_true]
  · rfl

theorem isIdentifier_of_isWord (word : IsWord text) : Text.isIdentifier text = true := by
  obtain ⟨first, rest, rfl, isAlpha, chars⟩ := word
  rw [Text.isIdentifier, isIdentifierStart_of_isAlpha isAlpha, Bool.true_and, List.all_eq_true]
  exact fun c member => isIdentifierContinue_of_isWordChar (chars c member)

/-- What begins with a letter begins with no comment. -/
theorem slash_isPrefixOf (isAlpha : c.isAlpha = true) (others rest : List Char) :
    ('/' :: others).isPrefixOf (c :: rest) = false := by
  have noSlash : c ≠ '/' := ne_of_isAlpha isAlpha (by decide)
  rw [List.isPrefixOf_cons_cons, beq_eq_false_iff_ne.mpr noSlash.symm, Bool.false_and]

/-- A word has no beginning with a character that cannot stand in words. -/
theorem isPrefixOf_of_isWord {start : List Char} (word : IsWord text)
    (foreign : start.any (fun c => ¬ IsWordChar c) = true) : start.isPrefixOf text = false := by
  obtain ⟨c, inStart, notWordChar⟩ := List.any_eq_true.mp foreign
  rw [← Bool.not_eq_true, List.isPrefixOf_iff_prefix]
  exact fun begins => of_decide_eq_true notWordChar (word.chars c (begins.subset inStart))

end Characters

section Lexemes

variable {c : Char} {text rest : List Char}

theorem skipOne?_of_isAlpha (isAlpha : c.isAlpha = true) : skipOne? (c :: rest) = none := by
  have slash := slash_isPrefixOf isAlpha
  have range := Text.isAlpha_iff.mp isAlpha
  have solid : isSpace c = false := by
    have noMark : c ≠ '\u200e' := ne_of_isAlpha isAlpha (by decide)
    have noOtherMark : c ≠ '\u200f' := ne_of_isAlpha isAlpha (by decide)
    have notBlank : Text.isBlank c = false := by
      simp only [Text.isBlank, Bool.or_eq_false_iff, Bool.and_eq_false_iff, decide_eq_false_iff_not,
        beq_eq_false_iff_ne]
      omega
    rw [isSpace, notBlank, beq_eq_false_iff_ne.mpr noMark, beq_eq_false_iff_ne.mpr noOtherMark]
    rfl
  have noLine : startsLineComment (c :: rest) = false := by
    rw [startsLineComment]
    simp [slash]
  have noBlock : startsBlockComment (c :: rest) = false := by
    rw [startsBlockComment]
    simp [slash]
  simp [skipOne?, solid, noLine, noBlock]

theorem documentation?_of_isAlpha (isAlpha : c.isAlpha = true) :
    documentation? (c :: rest) = none := by
  have slash := slash_isPrefixOf isAlpha
  simp [documentation?, slash]

theorem punct?_of_isAlpha (isAlpha : c.isAlpha = true) : punct? (c :: rest) = none := by
  have noPunctuation : c ∉ "~!@#$%^&*-=+|;:,<.>/?\x27".toList := by
    intro member
    have others : ∀ mark ∈ "~!@#$%^&*-=+|;:,<.>/?\x27".toList, mark.isAlpha = false :=
      Text.forall_mem_of_all (by decide)
    exact ne_of_isAlpha isAlpha (others c member) rfl
  have startsNone : startsPunct (c :: rest) = false := by
    rw [startsPunct, List.contains_eq_mem, decide_eq_false noPunctuation]
    rfl
  simp [punct?, startsNone]

theorem delimiter?_of_isAlpha (isAlpha : c.isAlpha = true) :
    Delimiter.ofOpenChar? c = none ∧ Delimiter.ofCloseChar? c = none := by
  have apart : ∀ delimiter ∈ [Delimiter.parenthesis, .bracket, .brace],
      delimiter.openChar.isAlpha = false ∧ delimiter.closeChar.isAlpha = false := by
    decide
  constructor
  · refine List.find?_eq_none.mpr fun delimiter member => ?_
    simpa using (ne_of_isAlpha isAlpha (apart delimiter member).1).symm
  · refine List.find?_eq_none.mpr fun delimiter member => ?_
    simpa using (ne_of_isAlpha isAlpha (apart delimiter member).2).symm

/-- A raw literal has a mark or a quotation mark behind its letters. -/
theorem raw?_eq_none (chars : ∀ c ∈ text, IsWordChar c) : raw? text = none := by
  have noMarks : text.takeWhile (· == '#') = [] := by
    cases text with
    | nil => rfl
    | cons c rest =>
        refine List.takeWhile_cons_of_neg fun isMark => ?_
        rw [beq_iff_eq.mp isMark] at chars
        exact absurd (chars '#' List.mem_cons_self) (by decide)
  rw [raw?, noMarks]
  split
  · next rest quoted =>
      have isText : text = '\x22' :: rest := quoted
      rw [isText] at chars
      exact absurd (chars '\x22' List.mem_cons_self) (by decide)
  · rfl

theorem number?_of_isAlpha (isAlpha : c.isAlpha = true) : number? (c :: rest) = none := by
  simp [number?, floatDigits?, isDigit_of_isAlpha isAlpha]

/-- No literal looks like a word. -/
theorem literalEnd?_of_isWord (word : IsWord text) : literalEnd? text = none := by
  have chars := word.chars
  have unquoted : '\x22' ∉ text ∧ '\x27' ∉ text :=
    ⟨fun member => absurd (chars _ member) (by decide),
      fun member => absurd (chars _ member) (by decide)⟩
  have noRaw : ∀ rest, rest ⊆ text → (raw? rest).map dropSuffix = none := by
    intro rest inside
    rw [raw?_eq_none fun c member => chars c (inside member), Option.map_none]
  rw [literalEnd?.eq_def]
  split
  case h_6 rest => exact noRaw rest (by simp)
  case h_7 rest => exact noRaw rest (by simp)
  case h_8 rest => exact noRaw rest (by simp)
  case h_9 =>
    obtain ⟨first, rest, rfl, isAlpha, -⟩ := word
    exact number?_of_isAlpha isAlpha
  all_goals simp at unquoted

theorem literalStarts_of_isWord (word : IsWord text) :
    literalStarts.any (fun start => start.toList.isPrefixOf text) = false := by
  have foreign : ∀ start ∈ literalStarts,
      start.toList.any (fun c => ¬ IsWordChar c) = true := by
    decide
  refine List.any_eq_false.mpr fun start member => ?_
  rw [isPrefixOf_of_isWord word (foreign start member)]
  decide

theorem identifier?_of_isWord (word : IsWord text) :
    identifier? text = some (.plain (String.ofList text), []) := by
  have notRaw : "r#".toList.isPrefixOf text = false :=
    isPrefixOf_of_isWord word (by decide)
  have whole : plainIdent? text = some (text, []) := by
    obtain ⟨first, rest, rfl, isAlpha, chars⟩ := word
    have continues : ∀ c ∈ rest, Text.isIdentifierContinue c = true := fun c member =>
      isIdentifierContinue_of_isWordChar (chars c member)
    rw [plainIdent?, if_pos (isIdentifierStart_of_isAlpha isAlpha),
      List.takeWhile_eq_self_iff.mpr continues, List.dropWhile_eq_nil_iff.mpr continues]
  simp only [identifier?, notRaw, whole, Bool.false_and, Bool.false_eq_true, if_false]
  rfl

/-- A word is one lexeme. -/
theorem lexAll?_of_isWord (word : IsWord text) :
    lexAll? text = some [.word (String.ofList text)] := by
  have isOne : lexeme? text = some ([.word (String.ofList text)], []) := by
    have noLiteral := literalEnd?_of_isWord word
    have noStart := literalStarts_of_isWord word
    have isName := identifier?_of_isWord word
    obtain ⟨first, rest, rfl, isAlpha, -⟩ := word
    obtain ⟨noOpening, noClosing⟩ := delimiter?_of_isAlpha isAlpha
    simp only [lexeme?, documentation?_of_isAlpha isAlpha, noOpening, noClosing, noLiteral,
      punct?_of_isAlpha isAlpha, noStart, isName, Option.map_some, Bool.false_eq_true, if_false]
    rfl
  obtain ⟨first, rest, rfl, isAlpha, -⟩ := word
  have noSpace : skipSpace (first :: rest) = first :: rest := by
    rw [skipSpace, skipOne?_of_isAlpha isAlpha]
  have nothingLeft : lexAll? [] = some [] := by
    simp [lexAll?, skipSpace, skipOne?]
  rw [lexAll?]
  simp [noSpace, isOne, nothingLeft]

end Lexemes

section RawForms

variable {text rest : List Char} {name : Identifier} {lexemes : List Lexeme}

/-- A raw identifier is none of the words without a raw form. -/
def Identifier.HasForm (name : Identifier) : Prop :=
  name.raw = true → name.text ∉ neverRaw

theorem hasForm_of_identifier? (found : identifier? text = some (name, rest)) : name.HasForm := by
  simp only [identifier?] at found
  split at found
  · cases found
  · split at found
    · cases found
    · next word tail named unrefused =>
        cases found
        intro isRaw isReserved
        exact unrefused (Bool.and_eq_true_iff.mpr ⟨isRaw, List.contains_iff_mem.mpr isReserved⟩)

/-- A documentation comment becomes an attribute with a literal inside. -/
theorem exists_of_documentation? (found : documentation? text = some (lexemes, rest)) :
    ∃ (inner : Bool) (content : String), lexemes = Lexeme.punct '#' false ::
      ((if inner then [Lexeme.punct '!' false] else []) ++
        Lexeme.enclosed .bracket [.word "doc", .punct '=' false, .literal content]) := by
  simp only [documentation?] at found
  split at found
  · exact ⟨true, _, (Prod.mk.inj (Option.some.inj found)).1.symm⟩
  · split at found
    · exact ⟨false, _, (Prod.mk.inj (Option.some.inj found)).1.symm⟩
    · split at found
      · obtain ⟨tail, -, made⟩ := Option.map_eq_some_iff.mp found
        exact ⟨true, _, (Prod.mk.inj made).1.symm⟩
      · split at found
        · obtain ⟨tail, -, made⟩ := Option.map_eq_some_iff.mp found
          exact ⟨false, _, (Prod.mk.inj made).1.symm⟩
        · cases found

theorem hasForm_of_documentation? (found : documentation? text = some (lexemes, rest))
    (member : .ident name ∈ lexemes) : name.HasForm := by
  obtain ⟨inner, content, rfl⟩ := exists_of_documentation? found
  have isDoc : name = .plain "doc" := by
    cases inner <;> simpa [Lexeme.enclosed, Lexeme.word] using member
  rw [isDoc]
  intro isRaw
  cases isRaw

theorem exists_of_punct? {lexeme : Lexeme} (found : punct? text = some (lexeme, rest)) :
    ∃ symbol joined, lexeme = .punct symbol joined := by
  simp only [punct?] at found
  split at found
  · cases found
  · split_ifs at found
    · split at found
      · split_ifs at found
        cases found
        exact ⟨_, _, rfl⟩
      · cases found
    · cases found
      exact ⟨_, _, rfl⟩

theorem hasForm_of_lexeme? (found : lexeme? text = some (lexemes, rest))
    (member : .ident name ∈ lexemes) : name.HasForm := by
  unfold lexeme? at found
  split at found
  · cases found
  · split at found
    · next documented =>
        cases found
        exact hasForm_of_documentation? documented member
    · cases found
      simp at member
    · cases found
      simp at member
    · split at found
      · cases found
        simp at member
      · next punctuated =>
          cases found
          obtain ⟨symbol, joined, rfl⟩ := exists_of_punct? punctuated
          simp at member
      · split at found
        · cases found
        · obtain ⟨⟨other, tail⟩, named, made⟩ := Option.map_eq_some_iff.mp found
          cases made
          obtain rfl : name = other := by simpa using member
          exact hasForm_of_identifier? named

/-- Whatever is read from a text, its raw identifiers are no words without a raw form. -/
theorem hasForm_of_lexAll? (found : lexAll? text = some lexemes) (member : .ident name ∈ lexemes) :
    name.HasForm := by
  fun_induction lexAll? text generalizing lexemes
  case case1 => simp_all
  case case3 lexed _ induction =>
    obtain ⟨others, lexedRest, rfl⟩ := Option.map_eq_some_iff.mp found
    rcases List.mem_append.mp member with isFirst | isLater
    · exact hasForm_of_lexeme? lexed isFirst
    · exact induction lexedRest isLater
  all_goals cases found

end RawForms

namespace Identifier

variable {text : String}

/-- A word is read as an identifier, unless it is a keyword. -/
theorem read_of_isWord (word : IsWord text.toList) :
    read text = if text ∈ keywords then .error (.foundKeyword text) else .ok (.plain text) := by
  have lexed : lex? text = .ok [.word text] := by
    rw [lex?, lexAll?_of_isWord word, String.ofList_toList]
    rfl
  by_cases isKeyword : text ∈ keywords
  · have refused : readIdentifier [.word text] = .error (.foundKeyword text) := by
      simp [Lexeme.word, readIdentifier, Identifier.isKeyword, plain, isKeyword]
    simp [read, lexed, refused, isKeyword, bind, Except.bind]
  · have accepted : readIdentifier [.word text] = .ok (.plain text, []) := by
      simp [Lexeme.word, readIdentifier, Identifier.isKeyword, plain, isKeyword]
    simp [read, lexed, accepted, isKeyword, bind, Except.bind, pure, Except.pure]

theorem not_isNumeral_of_isWord (word : IsWord text.toList) :
    text.isEmpty = false ∧ isNumeral text = false := by
  obtain ⟨first, rest, isCons, isAlpha, -⟩ := word
  constructor
  · rw [← Bool.not_eq_true, String.isEmpty_iff]
    rintro rfl
    cases isCons
  · rw [isNumeral, isCons, List.all_cons, isDigit_of_isAlpha isAlpha, Bool.false_and]

/-- A word makes an identifier as it is. -/
theorem exactly_of_isWord (word : IsWord text.toList) : exactly text = .ok (plain text) := by
  obtain ⟨someText, noNumeral⟩ := not_isNumeral_of_isWord word
  simp only [exactly, someText, noNumeral, isIdentifier_of_isWord word, Bool.false_eq_true,
    if_false, if_true]

/-- Any word that is not reserved makes an identifier, a raw one if it is a keyword. -/
theorem ofName_of_isIdentifier (isIdentifier : IsIdentifier text) :
    ofName text = .ok ⟨text, keywords.contains text⟩ := by
  have word := isIdentifier.word
  obtain ⟨someText, noNumeral⟩ := not_isNumeral_of_isWord word
  have hasRawForm : text ∉ neverRaw := by
    have sameWords : neverRaw ⊆ reservedWords := by decide
    exact fun isReserved => isIdentifier.unreserved (sameWords isReserved)
  rw [ofName, read_of_isWord word]
  by_cases isKeyword : text ∈ keywords
  · simp [isKeyword, someText, noNumeral, isIdentifier_of_isWord word, hasRawForm]
  · simp [isKeyword, isIdentifier_of_isWord word, plain]

theorem lexAll?_of_read {name : Identifier} (reads : read text = .ok name) :
    lexAll? text.toList = some [.ident name] ∧ name.isKeyword = false := by
  obtain ⟨lexemes, lexed, reads⟩ := bind_eq_ok_iff.mp reads
  obtain ⟨⟨found, rest⟩, readsFirst, reads⟩ := bind_eq_ok_iff.mp reads
  have isLast : rest = [] ∧ found = name := by
    cases rest with
    | nil => exact ⟨rfl, pure_eq_ok_iff.mp reads⟩
    | cons => cases reads
  obtain ⟨rfl, rfl⟩ := isLast
  have allLexed : lexAll? text.toList = some lexemes := by
    rw [lex?] at lexed
    split at lexed
    · cases lexed
    · next isLexed =>
        split_ifs at lexed
        rw [isLexed, Except.ok.inj lexed]
  rw [readIdentifier.eq_def] at readsFirst
  split at readsFirst
  · split_ifs at readsFirst with isKeyword
    cases readsFirst
    exact ⟨allLexed, Bool.eq_false_iff.mpr isKeyword⟩
  · cases readsFirst

/-- What is read as an identifier is no reserved word. -/
theorem unreserved_of_read {name : Identifier} (reads : read text = .ok name) :
    name.text ∉ reservedWords := by
  obtain ⟨lexed, noKeyword⟩ := lexAll?_of_read reads
  intro isReserved
  cases isRaw : name.raw with
  | true =>
      have sameWords : reservedWords ⊆ neverRaw := by decide
      exact hasForm_of_lexAll? lexed List.mem_cons_self isRaw (sameWords isReserved)
  | false =>
      have isKeyword := Name.reservedWords_subset_keywords isReserved
      simp [Identifier.isKeyword, isRaw, isKeyword] at noKeyword

end Identifier

end TypedEnv.Source
