import TypedEnv.Layout.Press
import TypedEnv.Source.Syntax

/-!
# Laying out source syntax

Every piece of source syntax as a layout.  Lists of arguments and fields are
boxes that stand on one line or with one element on each; calls of methods
may move to lines of their own; the items of a module and the statements of
a block always stand on lines of their own.
-/

namespace TypedEnv.Source

open TypedEnv.Layout (Mark Break)

def indentation : Int := 4

def text (content : String) : Mark := .text content

/-- A box that breaks everywhere or nowhere. -/
def box (offset : Int) (content : List Mark) : List Mark :=
  .opening offset .consistent :: (content ++ [.closing])

/-- A box that breaks where it has to. -/
def fillBox (offset : Int) (content : List Mark) : List Mark :=
  .opening offset .inconsistent :: (content ++ [.closing])

def softBreak : Mark := .break {}

def space : Mark := .break { blanks := 1 }

/-- A place where no line ends. -/
def noBreak : Mark := .break { never := true }

def lineEnd : Mark := .break { blanks := Layout.endless }

/-- The end of a line that is taken back by one indentation. -/
def lineEndBack : Mark := .break { blanks := Layout.endless, offset := -indentation }

/-- The end of a line, unless a box ends here. -/
def lineEndBetween (offset : Int) : Mark :=
  .break { blanks := Layout.endless, onlyBetween := true, offset }

/-- The end of a list: a comma and a line end, or nothing. -/
def listEnd (offset : Int) : Mark := .break { comma := true, offset }

/-- The parts of a list with commas between them, and a last one where the list is broken. -/
def listParts (finish : Mark) : List (List Mark) → List Mark
  | [] => []
  | [part] => part ++ [finish]
  | part :: rest => part ++ text "," :: space :: listParts finish rest

/-- A list in a box of its own, of which the end is taken back by one indentation. -/
def listBox (offset : Int) (parts : List (List Mark)) : List Mark :=
  if parts.isEmpty then []
  else box offset (softBreak :: listParts (listEnd (-indentation)) parts)

def Identifier.mark (name : Identifier) : Mark := .text name.render

/-- A path; the arguments of its segments are no part of the layout. -/
def Path.marks (path : Path) : List Mark :=
  (if path.absolute then [text "::"] else []) ++
    (path.segments.map fun segment => segment.name.mark).intersperse (text "::")

mutual

def TypeExpr.marks : TypeExpr → List Mark
  | .path trail arguments =>
      trail.marks ++
        if arguments.isEmpty then []
        else text "<" :: (listBox indentation (TypeExpr.marksOf arguments) ++ [text ">"])
  | .reference mutable target => text (if mutable then "&mut " else "&") :: target.marks
  | .dynamic bound => text "dyn " :: bound.marks

/-- Types, one layout for each. -/
def TypeExpr.marksOf : List TypeExpr → List (List Mark)
  | [] => []
  | type :: rest => type.marks :: TypeExpr.marksOf rest

end

/-- Whether an expression is a name that is no wider than an indentation. -/
def Expr.isShortName : Expr → Bool
  | .path ⟨false, [⟨name, []⟩]⟩ => (name.render.utf8ByteSize : Int) ≤ indentation
  | _ => false

/-- Whether an expression at the beginning of a line is narrow enough for its first method to
stay with it. -/
def staysTogether (startsLine : Bool) (base : Expr) : Bool :=
  startsLine && base.isShortName

/-- The items of a list made by a macro. -/
def listItems (function : Path) : List String → List Mark
  | [] => []
  | [item] => function.marks ++ [text "(", text item, text ")"]
  | item :: rest =>
      function.marks ++ [text "(", text item, text ")", text ",", space] ++
        listItems function rest

mutual

def Expr.marks (startsLine : Bool) : Expr → List Mark
  | .path trail => trail.marks
  | .literal content => [text content]
  | .negative operand => text "-" :: operand.marks false
  | .reference mutable target => text (if mutable then "&mut " else "&") :: target.marks false
  | .call function arguments =>
      function.marks false ++
        text "(" :: (listBox indentation (Expr.marksOf arguments) ++ [text ")"])
  | .method receiver name arguments =>
      let together := staysTogether startsLine receiver
      box indentation <|
        receiver.headMarks startsLine ++ (if together then [] else [softBreak]) ++
          text "." :: name.mark ::
            box (if together then -indentation else 0)
              (text "(" :: (listBox indentation (Expr.marksOf arguments) ++ [text ")"]))
  | .field base name =>
      box indentation <|
        base.headMarks startsLine ++
          (if staysTogether startsLine base then [] else [softBreak]) ++
          [text ".", name.mark]
  | .attempt operation => operation.marks startsLine ++ [text "?"]
  | .equal left right =>
      fillBox indentation <|
        fillBox (-indentation) (left.marks false) ++
          space :: text "==" :: text " " :: right.marks false
  | .record name fields =>
      .opening indentation .consistent ::
        (fillBox (-indentation) [name.mark] ++
          text " \x7b" ::
          .break { blanks := 1, onlyBetween := true,
                   offset := if fields.isEmpty then -indentation else 0 } ::
          (Expr.fieldMarks fields ++ [.closingWithin 34, text "\x7d"]))
  | .list maker function items =>
      let content :=
        if items.isEmpty then []
        else
          box indentation
            (softBreak :: (fillBox 0 (listItems function items) ++
              [.break { offset := -indentation }]))
      maker.marks ++ text "!" :: text "[" :: (content ++ [text "]"])

/-- An expression before a point, inside the box of the whole chain. -/
def Expr.headMarks (startsLine : Bool) : Expr → List Mark
  | .call function arguments =>
      function.headMarks false ++
        text "(" :: (listBox indentation (Expr.marksOf arguments) ++ [text ")"])
  | .method receiver name arguments =>
      receiver.headMarks startsLine ++
        (if staysTogether startsLine receiver then [] else [softBreak]) ++
        text "." :: name.mark ::
          box 0 (text "(" :: (listBox indentation (Expr.marksOf arguments) ++ [text ")"]))
  | .field base name =>
      base.headMarks startsLine ++
        (if staysTogether startsLine base then [] else [softBreak]) ++
        [text ".", name.mark]
  | .attempt operation => operation.headMarks startsLine ++ [text "?"]
  | other => box (-indentation) (other.marks false)

def Expr.marksOf : List Expr → List (List Mark)
  | [] => []
  | expression :: rest => expression.marks false :: Expr.marksOf rest

/-- Fields with their values, one after the other. -/
def Expr.fieldMarks : List (Identifier × Expr) → List Mark
  | [] => []
  | [(name, value)] =>
      name.mark :: text ": " :: (fillBox 0 (value.marks false) ++
        [.break { blanks := 1, comma := true, offset := -indentation }])
  | (name, value) :: rest =>
      name.mark :: text ": " :: (fillBox 0 (value.marks false) ++
        text "," :: space :: Expr.fieldMarks rest)

end

/-- The lines of a block, which are taken back by one indentation at its end. -/
def blockLines (lines : List (List Mark)) : List Mark :=
  match lines with
  | [] => []
  | [line] => line ++ [lineEndBack]
  | line :: rest => line ++ lineEnd :: blockLines rest

mutual

def Stmt.marks : Stmt → List Mark
  | .bind name value =>
      fillBox 0
        ([text "let ", name.mark, text " = ", noBreak] ++ value.marks false ++ [text ";"])
  | .perform value => fillBox 0 (value.marks true ++ [text ";"])
  | .return value => fillBox 0 (text "return" :: text " " :: value.marks false ++ [text ";"])
  | .result value => fillBox 0 (value.marks true)
  | .when condition body =>
      fillBox 0 <| box indentation <|
        text "if " :: (box (-indentation) (box 0 (condition.marks false ++ [space])) ++
          text "\x7b" :: lineEnd :: (blockLines (Stmt.marksOf body) ++ [text "\x7d"]))

def Stmt.marksOf : List Stmt → List (List Mark)
  | [] => []
  | statement :: rest => statement.marks :: Stmt.marksOf rest

end

/-- The mark of an item that can be seen from outside. -/
def visibilityMarks (visible : Bool) : List Mark :=
  if visible then [text "pub "] else []

/-- The line of the abilities that a structure derives. -/
def derivesMarks (derives : List String) : List Mark :=
  if derives.isEmpty then []
  else [text ("#[derive(" ++ String.intercalate ", " derives ++ ")]"), space]

def Item.marks : Item → List Mark
  | .imports visible path names =>
      let group :=
        match names with
        | [] => []
        | [name] => [text "::", name.mark]
        | names =>
            let parts := names.map fun name => [name.mark]
            text "::" :: box indentation (text "\x7b" :: softBreak ::
              (fillBox 0 ((parts.intersperse [text ",", space]).flatten) ++
                [listEnd (-indentation), text "\x7d"]))
      visibilityMarks visible ++ text "use " :: path.marks ++ group ++ [text ";", lineEnd]
  | .constant visible name type value =>
      box 0 (visibilityMarks visible ++ [text "const ", name.mark, text ": "] ++ type.marks ++
        [text " = ", noBreak] ++ value.marks false ++ [text ";"]) ++ [lineEnd]
  | .record derives visible name fields =>
      let lines := fields.map fun (visible, field, type) =>
        visibilityMarks visible ++ [field.mark, text ": "] ++ type.marks ++ [text ","]
      let first := lineEndBetween (if fields.isEmpty then -indentation else 0)
      derivesMarks derives ++
        box indentation (visibilityMarks visible ++
          [text "struct ", name.mark, text " ", text "\x7b", first] ++ blockLines lines) ++
        [text "\x7d", lineEnd]
  | .unit derives visible name =>
      derivesMarks derives ++
        box indentation (visibilityMarks visible ++ [text "struct ", name.mark, text ";"]) ++
        [lineEnd]
  | .function documentation visible name parameters result body =>
      let parts := parameters.map fun (parameter, type) =>
        parameter.mark :: text ": " :: type.marks
      let arrow :=
        match result with
        | none => []
        | some type => text " -> " :: type.marks
      let first := lineEndBetween (if body.isEmpty then -indentation else 0)
      (documentation.flatMap fun line => [text "///", text line, lineEnd]) ++
        box indentation (visibilityMarks visible ++ [text "fn ", name.mark, text "(", noBreak] ++
          listBox 0 parts ++ [text ")"] ++ box (-indentation) arrow ++
          [text " ", text "\x7b", first] ++ blockLines (Stmt.marksOf body)) ++
        [text "\x7d", lineEnd]

def format (items : List Item) : String :=
  Layout.print (box 0 (items.flatMap Item.marks))

end TypedEnv.Source
