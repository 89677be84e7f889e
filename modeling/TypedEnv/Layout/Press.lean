import TypedEnv.Layout.Measure

/-!
# Printing a layout

Prints a layout on lines of a given width.  Deeply indented lines keep a
least width of their own, so that they do not break everywhere.  Blanks are
written only before a text, so no line ends with one.
-/

namespace TypedEnv.Layout

def margin : Int := 89

/-- The least width that is left on any line. -/
def leastSpace : Int := 60

/-- A box that is being printed: whether it fits its line, and otherwise the indentation around
it and how it breaks. -/
inductive Frame where
  | fits
  | broken (indent : Int) (breaking : Breaking)

/-- A layout that is being printed. -/
structure Press where
  output : String
  /-- The width that is left on the line. -/
  space : Int
  indent : Int
  /-- The blanks that stand before the next text. -/
  pending : Nat
  frames : List Frame

namespace Press

def start : Press := ⟨"", margin, 0, 0, []⟩

/-- Prints the pending blanks and a text. -/
def write (press : Press) (content : String) : Press :=
  { press with
    output := press.output ++ String.ofList (List.replicate press.pending ' ') ++ content
    pending := 0 }

/-- Whether a break keeps its line; `extent` is what follows it. -/
def keepsLine (press : Press) (mark : Break) (extent : Nat) : Bool :=
  mark.never ||
    match press.frames with
    | .fits :: _ => true
    | .broken _ .consistent :: _ => false
    | _ => (extent : Int) ≤ press.space

/-- Prints a break. -/
def writeBreak (press : Press) (mark : Break) (extent : Nat) : Press :=
  if press.keepsLine mark extent then
    { press with
      pending := press.pending + mark.blanks
      space := press.space - mark.blanks }
  else
    let ended := if mark.comma then press.write "," else press
    let indent := press.indent + mark.offset
    { ended with
      output := ended.output ++ "\n"
      pending := indent.toNat
      space := max (margin - indent) leastSpace }

def step (press : Press) (measured : Measured) : Press :=
  match measured.mark with
  | .text content =>
      let written := press.write content
      { written with space := written.space - content.utf8ByteSize }
  | .break mark => press.writeBreak mark measured.extent
  | .opening offset breaking =>
      if press.space < (measured.extent : Int) then
        { press with
          frames := .broken press.indent breaking :: press.frames
          indent := press.indent + offset }
      else { press with frames := .fits :: press.frames }
  | .closing | .closingWithin _ =>
      match press.frames with
      | .broken indent _ :: rest => { press with frames := rest, indent }
      | _ :: rest => { press with frames := rest }
      | [] => press
  | .overflow => { press with space := press.space - endless }

end Press

def print (marks : List Mark) : String :=
  ((measure marks).foldl Press.step .start).output

end TypedEnv.Layout
