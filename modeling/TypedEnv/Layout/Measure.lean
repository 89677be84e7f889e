import TypedEnv.Layout.Marks

/-!
# Measuring a layout

Whether a box or the part after a break fits its line depends on its extent:
how far it reaches up to the next place where the line may end.  For a break
that is the next break of its own box or of one around it; for a box it is
the next break after its end.
-/

namespace TypedEnv.Layout

/-- An element of a settled layout with its extent. -/
structure Measured where
  mark : Mark
  extent : Nat

/-- The widths behind the current place, up to the end of the layout and up to the next break of
the current box and of each box around it. -/
structure Behind where
  total : Nat
  breaks : List Nat

/-- Measures a settled layout from its end; the layout is given in reverse. -/
def measureFrom (behind : Behind) (measured : List Measured) : List Mark → List Measured
  | [] => measured
  | mark :: rest =>
      let total := behind.total + mark.width
      match mark, behind.breaks with
      | .break _, next :: outer =>
          measureFrom ⟨total, total :: outer⟩ (⟨mark, total - next⟩ :: measured) rest
      | .closing, next :: outer =>
          measureFrom ⟨total, next :: next :: outer⟩ (⟨mark, 0⟩ :: measured) rest
      | .opening _ _, _ :: next :: outer =>
          measureFrom ⟨total, next :: outer⟩ (⟨mark, total - next⟩ :: measured) rest
      | mark, breaks => measureFrom ⟨total, breaks⟩ (⟨mark, mark.width⟩ :: measured) rest

/-- Settles and measures a layout. -/
def measure (marks : List Mark) : List Measured :=
  measureFrom ⟨0, [0]⟩ [] (settle marks)

end TypedEnv.Layout
