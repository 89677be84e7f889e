/-!
# Marks of a layout

A layout is a sequence of texts, breaks and boxes.  A break becomes a line
break or blanks.  A box that fits its line keeps all its breaks on the line;
in one that does not, a consistent box breaks at every break and an
inconsistent one only where the next part would not fit.  `settle` removes
the breaks and boxes that have nothing to separate.
-/

namespace TypedEnv.Layout

/-- How a box that does not fit its line breaks. -/
inductive Breaking where
  | consistent
  | inconsistent
  deriving DecidableEq

/-- A place where a line may end. -/
structure Break where
  /-- The blanks that stand here when the line does not end. -/
  blanks : Nat := 0
  /-- How the indentation of the next line differs from that of the box. -/
  offset : Int := 0
  /-- Whether a comma stands before the end of the line. -/
  comma : Bool := false
  /-- Whether nothing stands here at the end of a box. -/
  onlyBetween : Bool := false
  /-- Whether the line never ends here. -/
  never : Bool := false
  deriving DecidableEq

/-- An element of a layout. -/
inductive Mark where
  | text (content : String)
  | break (mark : Break)
  | opening (offset : Int) (breaking : Breaking)
  | closing
  /-- The end of a box that does not fit its line when it is wider than the limit. -/
  | closingWithin (limit : Nat)
  /-- Nothing that fits any line. -/
  | overflow
  deriving DecidableEq

/-- A width that no line has. -/
def endless : Nat := 65535

def Mark.width : Mark → Nat
  | .text content => content.utf8ByteSize
  | .break mark => mark.blanks
  | .overflow => endless
  | _ => 0

/-- The width of the innermost open box of a layout that is given in reverse; `depth` boxes were
closed in between. -/
def boxWidth (depth : Nat) : List Mark → Nat
  | [] => 0
  | .opening _ _ :: rest =>
      match depth with
      | 0 => 0
      | depth + 1 => boxWidth depth rest
  | .closing :: rest => boxWidth (depth + 1) rest
  | mark :: rest => mark.width + boxWidth depth rest

/-- Closes the innermost box of a layout that is given in reverse.  A box with a single break is
dropped, and so is a last break that only stands between other elements. -/
def closeBox : List Mark → List Mark
  | .break _ :: .opening _ _ :: rest => rest
  | .break mark :: rest =>
      if mark.onlyBetween then .closing :: rest else .closing :: .break mark :: rest
  | reversed => .closing :: reversed

/-- Adds an element to a settled layout that is given in reverse. -/
def settleNext (reversed : List Mark) : Mark → List Mark
  | .closing => closeBox reversed
  | .closingWithin limit =>
      if limit < boxWidth 0 reversed then .closing :: .overflow :: reversed
      else closeBox reversed
  | mark => mark :: reversed

/-- A layout without superfluous breaks and boxes, in reverse. -/
def settle (marks : List Mark) : List Mark :=
  marks.foldl settleNext []

end TypedEnv.Layout
