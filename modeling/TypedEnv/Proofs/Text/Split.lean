/-!
# Texts cut at separators

The parts of a text that is cut at a separator have the characters of the text
except for the separator, and parts that are joined have nothing but their own
characters and the separator.
-/

namespace TypedEnv.Text

variable {separator : Char} {isSeparator : Char → Bool} {text part : List Char}

/-- Cutting off one character adds to the first part or begins a new one. -/
theorem mem_splitOnP_cons {c : Char} (member : part ∈ (c :: text).splitOnP isSeparator) :
    (isSeparator c = true ∧ (part = [] ∨ part ∈ text.splitOnP isSeparator)) ∨
      (isSeparator c = false ∧ ((∃ rest ∈ text.splitOnP isSeparator, part = c :: rest) ∨
        part ∈ text.splitOnP isSeparator)) := by
  rw [List.splitOnP_cons_eq_if_modifyHead] at member
  split at member
  · next separates =>
      exact .inl ⟨separates, by simpa using member⟩
  · next inside =>
      refine .inr ⟨by simpa using inside, ?_⟩
      obtain ⟨first, others, parts⟩ :=
        List.exists_cons_of_ne_nil (List.splitOnP_ne_nil isSeparator text)
      rw [parts, List.modifyHead_cons] at member
      rw [parts]
      rcases List.mem_cons.mp member with rfl | later
      · exact .inl ⟨first, List.mem_cons_self, rfl⟩
      · exact .inr (List.mem_cons_of_mem _ later)

/-- A part has characters of the text, and none of them separates. -/
theorem of_mem_splitOnP (member : part ∈ text.splitOnP isSeparator) :
    ∀ c ∈ part, c ∈ text ∧ isSeparator c = false := by
  induction text generalizing part with
  | nil =>
      obtain rfl := List.mem_singleton.mp member
      simp
  | cons d rest induction =>
      intro c inPart
      have later : ∀ other ∈ rest.splitOnP isSeparator, c ∈ other →
          c ∈ d :: rest ∧ isSeparator c = false := by
        intro other isPart inOther
        obtain ⟨inRest, inside⟩ := induction isPart c inOther
        exact ⟨List.mem_cons_of_mem _ inRest, inside⟩
      rcases mem_splitOnP_cons member with
        ⟨-, rfl | isLater⟩ | ⟨inside, ⟨tail, first, rfl⟩ | isLater⟩
      · cases inPart
      · exact later part isLater inPart
      · rcases List.mem_cons.mp inPart with rfl | inTail
        · exact ⟨List.mem_cons_self, inside⟩
        · exact later tail first inTail
      · exact later part isLater inPart

theorem separator_not_mem_of_mem_splitOn (member : part ∈ text.splitOn separator) :
    separator ∉ part := by
  rw [List.splitOn_eq_splitOnP] at member
  intro inPart
  simpa using (of_mem_splitOnP member separator inPart).2

theorem mem_of_mem_splitOn {c : Char} (member : part ∈ text.splitOn separator)
    (inPart : c ∈ part) : c ∈ text := by
  rw [List.splitOn_eq_splitOnP] at member
  exact (of_mem_splitOnP member c inPart).1

/-- A text ends where the characters of a kind end. -/
theorem takeWhile_append_stop {isInside : Char → Bool} {tail : List Char}
    (inside : ∀ c ∈ text, isInside c = true) (stop : ∀ c ∈ tail.head?, isInside c = false) :
    (text ++ tail).takeWhile isInside = text ∧ (text ++ tail).dropWhile isInside = tail := by
  rw [List.takeWhile_append_of_pos inside, List.dropWhile_append_of_pos inside]
  cases tail with
  | nil => simp
  | cons c rest => simp [stop c rfl]

/-- Two groups of parts are joined like two parts. -/
theorem intercalate_append {between : List Char} {first second : List (List Char)}
    (firstNonempty : first ≠ []) (secondNonempty : second ≠ []) :
    between.intercalate (first ++ second) =
      between.intercalate first ++ between ++ between.intercalate second := by
  induction first with
  | nil => exact absurd rfl firstNonempty
  | cons part rest induction =>
      cases rest with
      | nil =>
          rw [List.singleton_append, List.intercalate_cons_of_ne_nil secondNonempty,
            List.intercalate_singleton]
      | cons next others =>
          rw [List.cons_append, List.intercalate_cons_of_ne_nil (by simp), induction (by simp),
            List.intercalate_cons_cons]
          simp only [List.append_assoc]

theorem map_intercalate (f : Char → Char) (between : List Char) (parts : List (List Char)) :
    (between.intercalate parts).map f = (between.map f).intercalate (parts.map (List.map f)) := by
  induction parts with
  | nil => rfl
  | cons first rest induction =>
      cases rest with
      | nil => simp
      | cons second others =>
          rw [List.intercalate_cons_cons, List.map_append, List.map_append, induction]
          simp only [List.map_cons, List.intercalate_cons_cons]

/-- Joined parts have their own characters and the separator. -/
theorem mem_intercalate {parts : List (List Char)} {c : Char}
    (member : c ∈ [separator].intercalate parts) :
    c = separator ∨ ∃ part ∈ parts, c ∈ part := by
  induction parts with
  | nil => cases member
  | cons first rest induction =>
      cases rest with
      | nil => exact .inr ⟨first, List.mem_cons_self, by simpa using member⟩
      | cons second others =>
          rw [List.intercalate_cons_cons, List.append_assoc] at member
          rcases List.mem_append.mp member with inFirst | behind
          · exact .inr ⟨first, List.mem_cons_self, inFirst⟩
          · rcases List.mem_cons.mp behind with isSeparator | later
            · exact .inl isSeparator
            · rcases induction later with isSeparator | ⟨part, isPart, inPart⟩
              · exact .inl isSeparator
              · exact .inr ⟨part, List.mem_cons_of_mem _ isPart, inPart⟩

end TypedEnv.Text
