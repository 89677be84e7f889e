import TypedEnv.Config.Forest
import TypedEnv.Proofs.Name.Segment
import TypedEnv.Source.Path

/-!
# Names as identifiers

Only field names are checked before they are used.  The names of types,
constants and handles are made from them and are identifiers because of that:
recasing keeps the first letter and puts no other characters in.  A field may
be a keyword; the other names are none, and no name is a word that has not
even a raw form.
-/

namespace TypedEnv.Name

open Source (keywords)

/-- A character of an ASCII identifier. -/
def IsWordChar (c : Char) : Prop :=
  c.isAlphanum = true ∨ c = '_'

instance : DecidablePred IsWordChar :=
  fun c => inferInstanceAs (Decidable (c.isAlphanum = true ∨ c = '_'))

/-- An ASCII letter with ASCII letters, digits and underscores behind it. -/
def IsWord (text : List Char) : Prop :=
  ∃ first rest, text = first :: rest ∧ first.isAlpha = true ∧ ∀ c ∈ rest, IsWordChar c

/-- A word that can be written as an identifier, be it a raw one. -/
structure IsIdentifier (text : String) : Prop where
  word : IsWord text.toList
  unreserved : text ∉ reservedWords

section Words

variable {c : Char} {text more : List Char}

theorem isWordChar_of_isAlpha (isAlpha : c.isAlpha = true) : IsWordChar c :=
  .inl (by rw [Char.isAlphanum, isAlpha, Bool.true_or])

theorem IsWord.chars (word : IsWord text) : ∀ c ∈ text, IsWordChar c := by
  obtain ⟨first, rest, rfl, isAlpha, chars⟩ := word
  exact List.forall_mem_cons.mpr ⟨isWordChar_of_isAlpha isAlpha, chars⟩

theorem IsWord.append (word : IsWord text) (chars : ∀ c ∈ more, IsWordChar c) :
    IsWord (text ++ more) := by
  obtain ⟨first, rest, rfl, isAlpha, restChars⟩ := word
  refine ⟨first, rest ++ more, rfl, isAlpha, ?_⟩
  exact List.forall_mem_append.mpr ⟨restChars, chars⟩

theorem isWordChar_of_toLower (lowered : IsWordChar c.toLower) : IsWordChar c := by
  by_cases isLetter : c.isAlpha = true
  · exact isWordChar_of_isAlpha isLetter
  · rwa [Text.toLower_of_not_isAlpha (by simpa using isLetter)] at lowered

/-- The letter case does not matter for a word. -/
theorem IsWord.of_map_toLower (word : IsWord (text.map Char.toLower)) : IsWord text := by
  obtain ⟨first, rest, isCons, isAlpha, chars⟩ := word
  obtain ⟨c, others, rfl, rfl, rfl⟩ := List.map_eq_cons_iff.mp isCons
  refine ⟨c, others, rfl, (Char.isAlpha_toLower_eq_isAlpha c).symm.trans isAlpha, ?_⟩
  intro d member
  exact isWordChar_of_toLower (chars _ (List.mem_map_of_mem member))

theorem reservedWords_subset_keywords : reservedWords ⊆ keywords := by
  decide

theorem IsIdentifier.of_not_keyword {name : String} (word : IsWord name.toList)
    (notKeyword : name ∉ keywords) : IsIdentifier name :=
  ⟨word, fun isReserved => notKeyword (reservedWords_subset_keywords isReserved)⟩

/-- No keyword has a certain ending if this holds of the keywords one by one. -/
theorem not_mem_keywords_of_suffix {name : String} {ending : List Char}
    (ends : ending <:+ name.toList)
    (none : keywords.all (fun word => !ending.isSuffixOf word.toList) = true) :
    name ∉ keywords := by
  intro isKeyword
  have noSuffix := List.all_eq_true.mp none name isKeyword
  rw [Bool.not_eq_true', ← Bool.not_eq_true, List.isSuffixOf_iff_suffix] at noSuffix
  exact noSuffix ends

end Words

section Fields

variable {name : String} {path : List String}

theorem problem?_eq_none {first : Char} {rest : List Char}
    (noProblem : problem? (first :: rest) = none) :
    (first = '_' ∨ Text.isAlphabetic first = true) ∧
      (∀ c ∈ rest, c = '_' ∨ Text.isAlphanumeric c = true) ∧
        String.ofList (first :: rest) ∉ reservedWords := by
  simp only [problem?] at noProblem
  split_ifs at noProblem with digit letter chars reserved
  simp only [Bool.not_eq_true', Bool.not_eq_false, Bool.or_eq_true, beq_iff_eq, List.all_eq_true,
    List.contains_iff_mem] at letter chars reserved
  exact ⟨letter, chars, reserved⟩

/-- The spelling in lower case begins with a letter or a digit. -/
theorem exists_head_snake {name : List Char} (ascii : ∀ c ∈ name, c.toNat < 128)
    (someWord : words name ≠ []) :
    ∃ c rest others, words name = (c :: rest) :: others ∧ c.isAlphanum = true ∧
      (snake name).head? = some c.toLower := by
  obtain ⟨word, others, isCons⟩ := List.exists_cons_of_ne_nil someWord
  have member : word ∈ words name := by simp [isCons]
  obtain ⟨c, rest, rfl⟩ := List.exists_cons_of_ne_nil (of_mem_words member).1
  have alphanumeric := ((of_mem_words member).2 c List.mem_cons_self).2
  rw [isAlphanumeric_of_ascii (ascii_of_mem_words ascii member c List.mem_cons_self)]
    at alphanumeric
  refine ⟨c, rest, others, isCons, alphanumeric, ?_⟩
  rw [snake_of_ascii ascii, isCons, List.map_cons, List.map_cons]
  cases others with
  | nil => simp
  | cons second more => simp [List.intercalate_cons_cons]

/-- A field name is an identifier. -/
theorem IsField.isIdentifier (isField : IsField name) : IsIdentifier name := by
  obtain ⟨c, rest, others, -, alphanumeric, head⟩ :=
    exists_head_snake isField.ascii isField.words_ne_nil
  rw [isField.snake_toList] at head
  obtain ⟨more, isCons⟩ := List.head?_eq_some_iff.mp head
  have ascii := isField.ascii
  have noProblem := isField.problem?_toList
  rw [isCons] at ascii noProblem
  rw [List.forall_mem_cons] at ascii
  obtain ⟨begins, chars, unreserved⟩ := problem?_eq_none noProblem
  rw [← isCons, String.ofList_toList] at unreserved
  refine ⟨⟨c.toLower, more, isCons, ?_, ?_⟩, unreserved⟩
  · rcases begins with isUnderscore | isAlphabetic
    · rw [← Text.isAlphanum_toLower, isUnderscore] at alphanumeric
      cases alphanumeric
    · rwa [Text.isAlphabetic, if_pos ascii.1] at isAlphabetic
  · intro d member
    rcases chars d member with isUnderscore | isAlphanumeric
    · exact .inr isUnderscore
    · rw [isAlphanumeric_of_ascii (ascii.2 d member)] at isAlphanumeric
      exact .inl isAlphanumeric

/-- Fields joined by underscores are a word. -/
theorem isWord_joined (nonempty : path ≠ []) (fields : ∀ name ∈ path, IsField name) :
    IsWord (String.intercalate "_" path).toList := by
  obtain ⟨name, others, rfl⟩ := List.exists_cons_of_ne_nil nonempty
  have word := (fields name List.mem_cons_self).isIdentifier.word
  have chars : ∀ c ∈ (String.intercalate "_" (name :: others)).toList, IsWordChar c := by
    intro c member
    rw [toList_joined] at member
    rcases Text.mem_intercalate member with isUnderscore | ⟨part, isPart, inPart⟩
    · exact .inr isUnderscore
    · obtain ⟨field, inPath, rfl⟩ := List.mem_map.mp isPart
      exact (fields field inPath).isIdentifier.word.chars c inPart
  obtain ⟨first, rest, isCons, isAlpha, -⟩ := word
  obtain ⟨more, joined⟩ : ∃ more, (String.intercalate "_" (name :: others)).toList =
      first :: more := by
    rw [toList_joined, List.map_cons, isCons]
    cases others with
    | nil => exact ⟨rest, by simp⟩
    | cons second more => exact ⟨_, by rw [List.map_cons, List.intercalate_cons_cons]; rfl⟩
  rw [joined] at chars ⊢
  exact ⟨first, more, rfl, isAlpha, (List.forall_mem_cons.mp chars).2⟩

/-- Words with an ending that no keyword has are identifiers and no keywords. -/
theorem isIdentifier_of_ending {text ending : String} (word : IsWord text.toList)
    (chars : ∀ c ∈ ending.toList, IsWordChar c)
    (none : keywords.all (fun word => !ending.toList.isSuffixOf word.toList) = true) :
    IsIdentifier (text ++ ending) ∧ text ++ ending ∉ keywords := by
  have spelled : (text ++ ending).toList = text.toList ++ ending.toList := String.toList_append
  have whole : IsWord (text ++ ending).toList := spelled ▸ word.append chars
  have ends : ending.toList <:+ (text ++ ending).toList := spelled ▸ List.suffix_append _ _
  have notKeyword := not_mem_keywords_of_suffix ends none
  exact ⟨.of_not_keyword whole notKeyword, notKeyword⟩

/-- The name of a handle. -/
theorem isIdentifier_handleName (nonempty : path ≠ []) (fields : ∀ name ∈ path, IsField name) :
    IsIdentifier (String.intercalate "_" path ++ "_var") ∧
      String.intercalate "_" path ++ "_var" ∉ keywords :=
  isIdentifier_of_ending (isWord_joined nonempty fields)
    (Text.forall_mem_of_all (by decide)) (by decide)

theorem isIdentifier_constName (nonempty : path ≠ []) (fields : ∀ name ∈ path, IsField name) :
    IsIdentifier (constName path) ∧ constName path ∉ keywords := by
  refine isIdentifier_of_ending ?_ (Text.forall_mem_of_all (by decide)) (by decide)
  apply IsWord.of_map_toLower
  rw [String.toList_ofList, map_toLower_shouting (joined_ascii fields), snake_joined fields]
  exact isWord_joined nonempty fields

end Fields

section Types

variable {word name : List Char} {path : List String}

theorem map_toLower_capitalWord (ascii : ∀ c ∈ word, c.toNat < 128) :
    (capitalWord word).map Char.toLower = word.map Char.toLower := by
  cases word with
  | nil => rfl
  | cons c rest =>
      rw [capitalWord_cons_of_ascii ascii]
      simp [Char.toLower_toUpper_eq_toLower, Char.toLower_toLower_eq_toLower]

/-- Apart from the letter case, the words of a name are joined. -/
theorem map_toLower_camel (ascii : ∀ c ∈ name, c.toNat < 128) :
    (camel name).map Char.toLower = (words name).flatMap (List.map Char.toLower) := by
  rw [camel, List.map_flatMap]
  exact List.flatMap_congr fun word member =>
    map_toLower_capitalWord (ascii_of_mem_words ascii member)

theorem map_toLower_typeName (fields : ∀ name ∈ path, IsField name) :
    (typeName path).toList.map Char.toLower =
      (path.flatMap fun name => words name.toList).flatMap (List.map Char.toLower) := by
  rw [typeName, String.toList_ofList, List.map_flatMap, List.flatMap_assoc]
  exact List.flatMap_congr fun name member => map_toLower_camel (fields name member).ascii

/-- The name of a type has the letters and digits of the fields, and begins with the first. -/
theorem isWord_typeName (nonempty : path ≠ []) (fields : ∀ name ∈ path, IsField name) :
    IsWord (typeName path).toList := by
  apply IsWord.of_map_toLower
  have chars : ∀ c ∈ (typeName path).toList.map Char.toLower, IsWordChar c := by
    intro c member
    rw [map_toLower_typeName fields] at member
    obtain ⟨word, isWord, inWord⟩ := List.mem_flatMap.mp member
    obtain ⟨name, inPath, inName⟩ := List.mem_flatMap.mp isWord
    obtain ⟨d, inside, rfl⟩ := List.mem_map.mp inWord
    obtain ⟨isName, alphanumeric⟩ := (of_mem_words inName).2 d inside
    rw [isAlphanumeric_of_ascii ((fields name inPath).ascii d isName)] at alphanumeric
    exact .inl ((Text.isAlphanum_toLower d).trans alphanumeric)
  obtain ⟨name, others, rfl⟩ := List.exists_cons_of_ne_nil nonempty
  have isField := fields name List.mem_cons_self
  obtain ⟨first, rest, isCons, isAlpha, -⟩ := isField.isIdentifier.word
  obtain ⟨c, word, more, isWords, -, head⟩ :=
    exists_head_snake isField.ascii isField.words_ne_nil
  rw [isField.snake_toList, isCons] at head
  obtain rfl : first = c.toLower := Option.some.inj head
  rw [map_toLower_typeName fields, List.flatMap_cons, isWords, List.cons_append,
    List.flatMap_cons, List.map_cons, List.cons_append] at chars ⊢
  exact ⟨_, _, rfl, isAlpha, (List.forall_mem_cons.mp chars).2⟩

theorem exists_capitalWord_cons (ascii : ∀ c ∈ word, c.toNat < 128) (nonempty : word ≠ []) :
    ∃ c rest, capitalWord word = c :: rest ∧ c.isLower = false := by
  obtain ⟨c, rest, rfl⟩ := List.exists_cons_of_ne_nil nonempty
  exact ⟨c.toUpper, rest.map Char.toLower, capitalWord_cons_of_ascii ascii,
    Char.isLower_toUpper_eq_false c⟩

/-- A capital and lower case letters behind it can only come from a single word. -/
theorem eq_singleton_of_flatMap_capitalWord {parts : List (List Char)} {c : Char}
    {letters : List Char}
    (ascii : ∀ word ∈ parts, ∀ c ∈ word, c.toNat < 128) (nonempty : ∀ word ∈ parts, word ≠ [])
    (lower : ∀ d ∈ letters, d.isLower = true) (joined : parts.flatMap capitalWord = c :: letters) :
    ∃ word, parts = [word] ∧ capitalWord word = c :: letters := by
  cases parts with
  | nil => cases joined
  | cons word rest =>
      rw [List.forall_mem_cons] at ascii nonempty
      obtain ⟨d, more, isCons, -⟩ := exists_capitalWord_cons ascii.1 nonempty.1
      cases rest with
      | nil =>
          rw [List.flatMap_singleton] at joined
          exact ⟨word, rfl, joined⟩
      | cons second others =>
          -- The second word would put a character that is not lower behind the first.
          rw [List.forall_mem_cons] at ascii nonempty
          obtain ⟨e, tail, secondCons, notLower⟩ :=
            exists_capitalWord_cons ascii.2.1 nonempty.2.1
          rw [List.flatMap_cons, List.flatMap_cons, isCons, secondCons, List.cons_append,
            List.cons.injEq] at joined
          have inside : e ∈ letters := by
            rw [← joined.2]
            simp
          rw [lower e inside] at notLower
          cases notLower

/-- Only the field `self` would give this name to a type, and it is reserved. -/
theorem typeName_ne_self (nonempty : path ≠ []) (fields : ∀ name ∈ path, IsField name) :
    typeName path ≠ "Self" := by
  intro same
  have wordsOf : ∀ word ∈ path.flatMap fun name => words name.toList,
      word ≠ [] ∧ ∀ c ∈ word, c.toNat < 128 := by
    intro word member
    obtain ⟨name, inPath, isWord⟩ := List.mem_flatMap.mp member
    exact ⟨(of_mem_words isWord).1, ascii_of_mem_words (fields name inPath).ascii isWord⟩
  have joined : (path.flatMap fun name => words name.toList).flatMap capitalWord =
      'S' :: ['e', 'l', 'f'] := by
    have spelled := congrArg String.toList same
    rw [typeName, String.toList_ofList] at spelled
    rw [List.flatMap_assoc]
    exact spelled
  obtain ⟨word, isSingle, capital⟩ := eq_singleton_of_flatMap_capitalWord
    (fun word member => (wordsOf word member).2) (fun word member => (wordsOf word member).1)
    (Text.forall_mem_of_all (by decide)) joined
  have lowered : word.map Char.toLower = "self".toList := by
    have member : word ∈ path.flatMap fun name => words name.toList := by simp [isSingle]
    rw [← map_toLower_capitalWord (wordsOf word member).2, capital]
    rfl
  have isSelf : (String.intercalate "_" path).toList = "self".toList := by
    have allWords : words (String.intercalate "_" path).toList = [word] := by
      rw [toList_joined, words_intercalate, List.flatMap_map]
      exact isSingle
    rw [← snake_joined fields, snake_of_ascii (joined_ascii fields), allWords, ← lowered]
    simp
  obtain ⟨name, others, rfl⟩ := List.exists_cons_of_ne_nil nonempty
  cases others with
  | nil =>
      have isName : name = "self" := by simpa using String.toList_inj.mp isSelf
      have unreserved := (fields name List.mem_cons_self).isIdentifier.unreserved
      exact unreserved (by simp [isName, reservedWords])
  | cons second more =>
      have underscore : '_' ∈ "self".toList := by
        rw [← isSelf, toList_joined, List.map_cons, List.map_cons, List.intercalate_cons_cons]
        simp
      exact absurd underscore (by decide)

/-- The name of a type begins with no lower case letter, so it is no other keyword either. -/
theorem isIdentifier_typeName (nonempty : path ≠ []) (fields : ∀ name ∈ path, IsField name) :
    IsIdentifier (typeName path) ∧ typeName path ∉ keywords := by
  have word := isWord_typeName nonempty fields
  have notKeyword : typeName path ∉ keywords := by
    intro isKeyword
    obtain ⟨c, rest, spelled, notLower⟩ := exists_toList_typeName nonempty fields
    have begins : ∀ keyword ∈ keywords, keyword = "Self" ∨ keyword = "_" ∨
        keyword.toList.head?.any Char.isLower = true := by
      decide
    rcases begins _ isKeyword with isSelf | isUnderscore | lower
    · exact typeName_ne_self nonempty fields isSelf
    · obtain ⟨first, others, isCons, isAlpha, -⟩ := word
      rw [isUnderscore] at isCons
      cases isCons
      cases isAlpha
    · rw [spelled] at lower
      simp [notLower] at lower
  exact ⟨.of_not_keyword word notKeyword, notKeyword⟩

end Types

end TypedEnv.Name
