import TypedEnv.Source.Syntax

/-!
# Lexemes of source syntax

Every piece of source syntax as a sequence of lexemes, which is the form in
which a module exists before it is laid out on lines.
-/

namespace TypedEnv.Source

open Lexeme (symbols enclosed word)

/-- Sequences with commas between them. -/
def separated (parts : List (List Lexeme)) : List Lexeme :=
  (parts.intersperse (symbols ",")).flatten

/-- Sequences with a comma after each. -/
def terminated (parts : List (List Lexeme)) : List Lexeme :=
  parts.flatMap (· ++ symbols ",")

mutual

def TypeExpr.lexemes : TypeExpr → List Lexeme
  | .path trail arguments =>
      trail.lexemes ++
        if arguments.isEmpty then []
        else symbols "<" ++ separated (TypeExpr.lexemesOf arguments) ++ symbols ">"
  | .reference mutable target =>
      symbols "&" ++ (if mutable then [word "mut"] else []) ++ target.lexemes
  | .dynamic bound => word "dyn" :: bound.lexemes

def TypeExpr.lexemesOf : List TypeExpr → List (List Lexeme)
  | [] => []
  | type :: rest => type.lexemes :: TypeExpr.lexemesOf rest

end

mutual

def Expr.lexemes : Expr → List Lexeme
  | .path trail => trail.lexemes
  | .literal text => [.literal text]
  | .negative operand => symbols "-" ++ operand.lexemes
  | .reference mutable target =>
      symbols "&" ++ (if mutable then [word "mut"] else []) ++ target.lexemes
  | .call function arguments =>
      function.lexemes ++ enclosed .parenthesis (separated (Expr.lexemesOf arguments))
  | .method receiver name arguments =>
      receiver.lexemes ++ symbols "." ++ .ident name ::
        enclosed .parenthesis (separated (Expr.lexemesOf arguments))
  | .field base name => base.lexemes ++ symbols "." ++ [.ident name]
  | .attempt operation => operation.lexemes ++ symbols "?"
  | .equal left right => left.lexemes ++ symbols "==" ++ right.lexemes
  | .record name fields =>
      .ident name :: enclosed .brace (terminated (Expr.fieldLexemesOf fields))
  | .list maker function items =>
      maker.lexemes ++ symbols "!" ++ enclosed .bracket (separated (items.map fun item =>
        function.lexemes ++ enclosed .parenthesis [.literal item]))

def Expr.lexemesOf : List Expr → List (List Lexeme)
  | [] => []
  | expression :: rest => expression.lexemes :: Expr.lexemesOf rest

/-- Fields with their values as lexemes, one sequence for each. -/
def Expr.fieldLexemesOf : List (Identifier × Expr) → List (List Lexeme)
  | [] => []
  | (name, value) :: rest =>
      (.ident name :: symbols ":" ++ value.lexemes) :: Expr.fieldLexemesOf rest

end

mutual

def Stmt.lexemes : Stmt → List Lexeme
  | .bind name value => [word "let", .ident name] ++ symbols "=" ++ value.lexemes ++ symbols ";"
  | .perform value => value.lexemes ++ symbols ";"
  | .return value => word "return" :: value.lexemes ++ symbols ";"
  | .result value => value.lexemes
  | .when condition body =>
      word "if" :: condition.lexemes ++ enclosed .brace (Stmt.lexemesOf body)

def Stmt.lexemesOf : List Stmt → List Lexeme
  | [] => []
  | statement :: rest => statement.lexemes ++ Stmt.lexemesOf rest

end

/-- The mark of an item that can be seen from outside. -/
def visibility (visible : Bool) : List Lexeme :=
  if visible then [word "pub"] else []

def attributeLexemes (content : List Lexeme) : List Lexeme :=
  symbols "#" ++ enclosed .bracket content

def documentationLexemes (line : String) : List Lexeme :=
  attributeLexemes ([word "doc"] ++ symbols "=" ++ [.literal s!"r\x22{line}\x22"])

def derivesLexemes (derives : List String) : List Lexeme :=
  if derives.isEmpty then []
  else
    attributeLexemes <|
      word "derive" :: enclosed .parenthesis (separated (derives.map fun name => [word name]))

def Item.lexemes : Item → List Lexeme
  | .imports visible path names =>
      let group := enclosed .brace (separated (names.map fun name => [.ident name]))
      visibility visible ++ [word "use"] ++ path.lexemes ++
        (if names.isEmpty then [] else symbols "::" ++ group) ++ symbols ";"
  | .constant visible name type value =>
      visibility visible ++ [word "const", .ident name] ++ symbols ":" ++ type.lexemes ++
        symbols "=" ++ value.lexemes ++ symbols ";"
  | .record derives visible name fields =>
      derivesLexemes derives ++ visibility visible ++ [word "struct", .ident name] ++
        enclosed .brace (terminated (fields.map fun (visible, field, type) =>
          visibility visible ++ .ident field :: symbols ":" ++ type.lexemes))
  | .unit derives visible name =>
      derivesLexemes derives ++ visibility visible ++ [word "struct", .ident name] ++ symbols ";"
  | .function documentation visible name parameters result body =>
      let arrow :=
        match result with
        | none => []
        | some type => symbols "->" ++ type.lexemes
      documentation.flatMap documentationLexemes ++ visibility visible ++
        [word "fn", .ident name] ++
        enclosed .parenthesis (separated (parameters.map fun (parameter, type) =>
          .ident parameter :: symbols ":" ++ type.lexemes)) ++
        arrow ++ enclosed .brace (Stmt.lexemesOf body)

/-- Items as a text with spaces between the lexemes. -/
def spell (items : List Item) : String :=
  Lexeme.joinAll (items.flatMap Item.lexemes)

end TypedEnv.Source
