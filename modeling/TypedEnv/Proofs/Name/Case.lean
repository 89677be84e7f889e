import Mathlib
import TypedEnv.Name.Case
import TypedEnv.Proofs.Text.Characters
import TypedEnv.Proofs.Text.Split

/-!
# Spellings of ASCII names

A text without upper case letters is cut into words at its separators only, so
the words of a name in lower case are found again when they are joined by
underscores.  Of a name whose characters are all ASCII the lower case spelling
therefore determines every other: it has the same words up to letter case.
-/

namespace TypedEnv.Name

open Text (isAlphanumeric isUppercase isLowercase)

section Words

variable {mode : CaseMode} {current text word name : List Char}

/-- The words are pieces of the text in order, and nothing is lost between them. -/
theorem flatten_cutWords (nonempty : text ≠ []) :
    (cutWords mode current text).flatten = current.reverse ++ text := by
  fun_induction cutWords mode current text with
  | case1 => exact absurd rfl nonempty
  | case2 mode current c => simp
  | case3 mode current c following rest begins induction =>
      rw [List.flatten_cons, induction (by simp)]
      simp
  | case4 mode current c following rest continues begins induction =>
      rw [List.flatten_cons, induction (by simp)]
      simp
  | case5 mode current c following rest continues belongs induction =>
      rw [induction (by simp)]
      simp

/-- A word is cut off in front of an upper case letter only when it has begun. -/
theorem ne_nil_of_mem_cutWords (begun : mode = .upper → current ≠ [])
    (member : word ∈ cutWords mode current text) : word ≠ [] := by
  fun_induction cutWords mode current text with
  | case1 => cases member
  | case2 mode current c =>
      obtain rfl := List.mem_singleton.mp member
      simp
  | case3 mode current c following rest begins induction =>
      rcases List.mem_cons.mp member with rfl | later
      · simp
      · exact induction (by simp) later
  | case4 mode current c following rest continues begins induction =>
      rcases List.mem_cons.mp member with rfl | later
      · simpa using begun begins.1
      · exact induction (by simp) later
  | case5 mode current c following rest continues belongs induction =>
      exact induction (by simp) member

/-- Without upper case letters there is nothing to cut. -/
theorem cutWords_of_no_uppercase (nonempty : text ≠ [])
    (noUppercase : ∀ c ∈ text, isUppercase c = false) :
    cutWords mode current text = [current.reverse ++ text] := by
  fun_induction cutWords mode current text with
  | case1 => exact absurd rfl nonempty
  | case2 mode current c => simp
  | case3 mode current c following rest begins induction =>
      have notUpper := noUppercase following (by simp)
      simp [notUpper] at begins
  | case4 mode current c following rest continues begins induction =>
      have notUpper := noUppercase c (by simp)
      simp [notUpper] at begins
  | case5 mode current c following rest continues belongs induction =>
      rw [induction (by simp) fun other member => noUppercase other (List.mem_cons_of_mem _ member)]
      simp

/-- Words have at least one character, and all their characters are letters and numbers of the
name. -/
theorem of_mem_words (member : word ∈ words name) :
    word ≠ [] ∧ ∀ c ∈ word, c ∈ name ∧ isAlphanumeric c = true := by
  obtain ⟨part, isPart, inCut⟩ := List.mem_flatMap.mp member
  refine ⟨ne_nil_of_mem_cutWords (by simp) inCut, ?_⟩
  intro c inWord
  have partNonempty : part ≠ [] := by
    rintro rfl
    cases inCut
  have inFlatten : c ∈ (cutWords .unknown [] part).flatten :=
    List.mem_flatten.mpr ⟨word, inCut, inWord⟩
  rw [flatten_cutWords partNonempty] at inFlatten
  obtain ⟨inName, inside⟩ := Text.of_mem_splitOnP isPart c inFlatten
  exact ⟨inName, by simpa using inside⟩

/-- A separator ends a word wherever it stands. -/
theorem words_append_separator {separator : Char} (separates : isAlphanumeric separator = false)
    (first second : List Char) :
    words (first ++ separator :: second) = words first ++ words second := by
  rw [words, List.splitOnP_append_cons _ _ (by simp [separates]), List.flatMap_append, words, words]

/-- The words of joined texts are the words of one text after the other. -/
theorem words_intercalate (parts : List (List Char)) :
    words (['_'].intercalate parts) = parts.flatMap words := by
  induction parts with
  | nil => rfl
  | cons first rest induction =>
      cases rest with
      | nil => simp
      | cons second others =>
          rw [List.intercalate_cons_cons, List.append_assoc, List.singleton_append,
            words_append_separator (by decide), induction]
          exact List.flatMap_cons.symm

/-- Letters and numbers without upper case letters are a word. -/
theorem words_of_lower (nonempty : word ≠ [])
    (lower : ∀ c ∈ word, isAlphanumeric c = true ∧ isUppercase c = false) :
    words word = [word] := by
  have onePart : word.splitOnP (fun c => !isAlphanumeric c) = [word] :=
    List.splitOnP_eq_singleton fun c member => by simp [(lower c member).1]
  rw [words, onePart, List.flatMap_singleton,
    cutWords_of_no_uppercase nonempty fun c member => (lower c member).2]
  simp

/-- Names joined by an underscore are written in lower case one after the other. -/
theorem snake_append_underscore {first second : List Char} (firstWords : words first ≠ [])
    (secondWords : words second ≠ []) :
    snake (first ++ '_' :: second) = snake first ++ '_' :: snake second := by
  have separates : isAlphanumeric '_' = false := by decide
  have joined := words_append_separator separates first second
  change ['_'].intercalate ((words (first ++ '_' :: second)).map lowerWord) = _
  rw [joined, List.map_append,
    Text.intercalate_append (by simpa using firstWords) (by simpa using secondWords)]
  simp [snake, List.intercalate]

theorem snake_intercalate {parts : List (List Char)} (someWord : ∀ part ∈ parts, words part ≠ []) :
    snake (['_'].intercalate parts) = ['_'].intercalate (parts.map snake) := by
  induction parts with
  | nil => rfl
  | cons first rest induction =>
      cases rest with
      | nil => simp
      | cons second others =>
          have restWords : words (['_'].intercalate (second :: others)) ≠ [] := by
            rw [words_intercalate, List.flatMap_cons]
            simp [someWord second (by simp)]
          rw [List.intercalate_cons_cons, List.append_assoc, List.singleton_append,
            snake_append_underscore (someWord first (by simp)) restWords,
            induction fun part member => someWord part (List.mem_cons_of_mem _ member)]
          simp [List.intercalate_cons_cons]

end Words

section Ascii

variable {c : Char} {word name : List Char}

theorem isUppercase_of_ascii (ascii : c.toNat < 128) : isUppercase c = c.isUpper :=
  if_pos ascii

theorem isAlphanumeric_of_ascii (ascii : c.toNat < 128) : isAlphanumeric c = c.isAlphanum := by
  rw [isAlphanumeric, Text.isAlphabetic, if_pos ascii, Text.isNumeric, if_pos ascii,
    Char.isAlphanum]

theorem toLowercase_of_ascii (ascii : c.toNat < 128) : Text.toLowercase c = [c.toLower] :=
  if_pos ascii

theorem toUppercase_of_ascii (ascii : c.toNat < 128) : Text.toUppercase c = [c.toUpper] :=
  if_pos ascii

theorem toLower_ascii (ascii : c.toNat < 128) : c.toLower.toNat < 128 := by
  by_cases isLetter : c.isAlpha = true
  · rw [← Char.isAlpha_toLower_eq_isAlpha] at isLetter
    have range := Text.isAlpha_iff.mp isLetter
    omega
  · rwa [Text.toLower_of_not_isAlpha (by simpa using isLetter)]

/-- The sigma with a form of its own is not ASCII, so each character is changed for itself. -/
theorem lowerWord_of_ascii (ascii : ∀ c ∈ word, c.toNat < 128) :
    lowerWord word = word.map Char.toLower := by
  fun_induction lowerWord word with
  | case1 => rfl
  | case2 => exact absurd (ascii 'Σ' (by simp)) (by decide)
  | case3 c rest noSigma induction =>
      rw [toLowercase_of_ascii (ascii c (by simp)),
        induction fun other member => ascii other (List.mem_cons_of_mem _ member)]
      rfl

theorem upperWord_of_ascii (ascii : ∀ c ∈ word, c.toNat < 128) :
    upperWord word = word.map Char.toUpper := by
  rw [upperWord, List.flatMap_congr fun c member => toUppercase_of_ascii (ascii c member),
    List.map_eq_flatMap]

theorem capitalWord_cons_of_ascii {rest : List Char} (ascii : ∀ d ∈ c :: rest, d.toNat < 128) :
    capitalWord (c :: rest) = c.toUpper :: rest.map Char.toLower := by
  rw [capitalWord, toUppercase_of_ascii (ascii c (by simp)),
    lowerWord_of_ascii fun d member => ascii d (List.mem_cons_of_mem _ member)]
  rfl

theorem ascii_of_mem_words (ascii : ∀ c ∈ name, c.toNat < 128) (member : word ∈ words name) :
    ∀ c ∈ word, c.toNat < 128 := by
  intro c inWord
  exact ascii c ((of_mem_words member).2 c inWord).1

theorem snake_of_ascii (ascii : ∀ c ∈ name, c.toNat < 128) :
    snake name = ['_'].intercalate ((words name).map (List.map Char.toLower)) := by
  have lowered : (words name).map lowerWord = (words name).map (List.map Char.toLower) :=
    List.map_congr_left fun word member => lowerWord_of_ascii (ascii_of_mem_words ascii member)
  rw [← lowered]
  rfl

/-- The spelling in lower case is found again in the one in upper case. -/
theorem map_toLower_shouting (ascii : ∀ c ∈ name, c.toNat < 128) :
    (shouting name).map Char.toLower = snake name := by
  have raised : (words name).map upperWord = (words name).map (List.map Char.toUpper) :=
    List.map_congr_left fun word member => upperWord_of_ascii (ascii_of_mem_words ascii member)
  change (['_'].intercalate ((words name).map upperWord)).map Char.toLower = _
  rw [raised, snake_of_ascii ascii, Text.map_intercalate, List.map_map]
  simp only [Function.comp_def, List.map_map, Char.toLower_toUpper_eq_toLower]
  rfl

theorem snake_ascii (ascii : ∀ c ∈ name, c.toNat < 128) : ∀ c ∈ snake name, c.toNat < 128 := by
  intro c member
  rw [snake_of_ascii ascii] at member
  rcases Text.mem_intercalate member with rfl | ⟨lowered, isLowered, inLowered⟩
  · decide
  · obtain ⟨word, isWord, rfl⟩ := List.mem_map.mp isLowered
    obtain ⟨d, inWord, rfl⟩ := List.mem_map.mp inLowered
    exact toLower_ascii (ascii_of_mem_words ascii isWord d inWord)

/-- The spelling in lower case keeps the words. -/
theorem words_snake (ascii : ∀ c ∈ name, c.toNat < 128) :
    words (snake name) = (words name).map (List.map Char.toLower) := by
  have oneWord : ∀ word ∈ words name,
      words (word.map Char.toLower) = [word.map Char.toLower] := by
    intro word member
    obtain ⟨nonempty, inside⟩ := of_mem_words member
    refine words_of_lower (by simpa using nonempty) ?_
    intro c inLowered
    obtain ⟨d, inWord, rfl⟩ := List.mem_map.mp inLowered
    have asciiWord := ascii_of_mem_words ascii member d inWord
    have alphanumeric := (inside d inWord).2
    rw [isAlphanumeric_of_ascii asciiWord] at alphanumeric
    rw [isAlphanumeric_of_ascii (toLower_ascii asciiWord),
      isUppercase_of_ascii (toLower_ascii asciiWord), Text.isAlphanum_toLower]
    exact ⟨alphanumeric, Char.isUpper_toLower_eq_false d⟩
  rw [snake_of_ascii ascii, words_intercalate, List.flatMap_map, List.flatMap_congr oneWord,
    List.map_eq_flatMap]

theorem snake_snake (ascii : ∀ c ∈ name, c.toNat < 128) : snake (snake name) = snake name := by
  rw [snake_of_ascii (snake_ascii ascii), words_snake ascii, snake_of_ascii ascii, List.map_map]
  simp only [Function.comp_def, List.map_map, Char.toLower_toLower_eq_toLower]

theorem camel_snake (ascii : ∀ c ∈ name, c.toNat < 128) : camel (snake name) = camel name := by
  rw [camel, words_snake ascii, List.flatMap_map, camel]
  refine List.flatMap_congr fun word member => ?_
  have asciiWord := ascii_of_mem_words ascii member
  cases word with
  | nil => rfl
  | cons c rest =>
      have asciiLowered : ∀ d ∈ (c :: rest).map Char.toLower, d.toNat < 128 := by
        intro d inLowered
        obtain ⟨e, inWord, rfl⟩ := List.mem_map.mp inLowered
        exact toLower_ascii (asciiWord e inWord)
      rw [List.map_cons] at asciiLowered ⊢
      rw [capitalWord_cons_of_ascii asciiLowered,
        capitalWord_cons_of_ascii asciiWord, List.map_map, Char.toUpper_toLower_eq_toUpper]
      simp only [Function.comp_def, Char.toLower_toLower_eq_toLower]

/-- A name with a word begins with no lower case letter when its words have capitals. -/
theorem camel_cons (ascii : ∀ c ∈ name, c.toNat < 128) (someWord : words name ≠ []) :
    ∃ c rest, camel name = c :: rest ∧ c.isLower = false := by
  obtain ⟨first, others, isCons⟩ := List.exists_cons_of_ne_nil someWord
  have member : first ∈ words name := by simp [isCons]
  obtain ⟨c, rest, rfl⟩ := List.exists_cons_of_ne_nil (of_mem_words member).1
  refine ⟨c.toUpper, rest.map Char.toLower ++ others.flatMap capitalWord, ?_,
    Char.isLower_toUpper_eq_false c⟩
  rw [camel, isCons, List.flatMap_cons,
    capitalWord_cons_of_ascii (ascii_of_mem_words ascii member), List.cons_append]

theorem words_ne_nil_of_snake (nonempty : snake name ≠ []) : words name ≠ [] := by
  intro noWords
  rw [snake, noWords] at nonempty
  exact nonempty rfl

end Ascii

end TypedEnv.Name
