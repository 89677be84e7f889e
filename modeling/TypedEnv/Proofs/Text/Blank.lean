import TypedEnv.Text.Blank

/-!
# Trimming

What trimming takes away are the blanks at one end of a text, and nothing else.
-/

namespace TypedEnv.Text

theorem trimStart_append_of_blank {blanks rest : List Char}
    (blank : ∀ c ∈ blanks, isBlank c = true) : trimStart (blanks ++ rest) = trimStart rest := by
  rw [trimStart, List.dropWhile_append_of_pos blank, trimStart]

theorem trimStart_cons_of_not_blank {c : Char} {rest : List Char} (solid : isBlank c = false) :
    trimStart (c :: rest) = c :: rest := by
  rw [trimStart, List.dropWhile_cons_of_neg (by simp [solid])]

theorem trimStart_eq_self {text : List Char} (solid : ∀ c ∈ text.head?, isBlank c = false) :
    trimStart text = text := by
  cases text with
  | nil => rfl
  | cons c rest => exact trimStart_cons_of_not_blank (solid c rfl)

/-- Trimming takes away exactly the blanks after a text that does not end with one. -/
theorem trimEnd_append_of_blank {text blanks : List Char}
    (solid : ∀ c ∈ text.getLast?, isBlank c = false) (blank : ∀ c ∈ blanks, isBlank c = true) :
    trimEnd (text ++ blanks) = text := by
  have blankReversed : ∀ c ∈ blanks.reverse, isBlank c = true := by
    intro c member
    exact blank c (List.mem_reverse.mp member)
  have solidReversed : ∀ c ∈ text.reverse.head?, isBlank c = false := by
    intro c isHead
    rw [List.head?_reverse] at isHead
    exact solid c isHead
  have trimmed : trimStart (blanks.reverse ++ text.reverse) = text.reverse := by
    rw [trimStart_append_of_blank blankReversed, trimStart_eq_self solidReversed]
  rw [trimEnd, List.reverse_append]
  exact (congrArg List.reverse trimmed).trans text.reverse_reverse

end TypedEnv.Text
