import TypedEnv.Source.Layout

/-!
# Reading items

Reads the items of a source text back: imports, constants, structures with
named fields, and functions without a body.
-/

namespace TypedEnv.Source

/-- What begins some lexemes, with the lexemes after it. -/
abbrev Parsed (α : Type) := α × List Lexeme

def dropWord? (word : String) : List Lexeme → Option (List Lexeme)
  | .ident name :: rest => if name = .plain word then some rest else none
  | _ => none

def dropMark? (symbol : Char) : List Lexeme → Option (List Lexeme)
  | .punct found _ :: rest => if found = symbol then some rest else none
  | _ => none

/-- What follows a punctuation character that has to stand here. -/
def expectMark (symbol : Char) (lexemes : List Lexeme) : Except SyntaxProblem (List Lexeme) :=
  match dropMark? symbol lexemes with
  | some rest => .ok rest
  | none => .error (.missing [.exactly symbol.toString] false)

/-- What follows an opening bracket that has to stand here. -/
def expectOpening (delimiter : Delimiter) (lexemes : List Lexeme) :
    Except SyntaxProblem (List Lexeme) :=
  match lexemes with
  | first :: rest =>
      if first = .opening delimiter then .ok rest
      else .error (.missing [.group delimiter] (atEnd lexemes))
  | [] => .error (.missing [.group delimiter] true)

/-- What follows a lexeme that has to end a group. -/
def expectClosing (closing : Lexeme) (lexemes : List Lexeme) :
    Except SyntaxProblem (List Lexeme) :=
  match lexemes with
  | first :: rest => if first = closing then .ok rest else .error .unexpectedLexeme
  | [] => .error .unexpectedLexeme

/-- Whether an item can be seen from outside, and the lexemes of the item. -/
def readVisibility (lexemes : List Lexeme) : Bool × List Lexeme :=
  match dropWord? "pub" lexemes with
  | some rest => (true, rest)
  | none => (false, lexemes)

/-- Reads elements with commas between them up to a closing bracket; a comma may stand before
the bracket. -/
def readList {α : Type} (closing : Lexeme)
    (read : List Lexeme → Except SyntaxProblem (Parsed α)) :
    Nat → List Lexeme → Except SyntaxProblem (Parsed (List α))
  | 0, _ => .error .unexpectedLexeme
  | fuel + 1, lexemes =>
      match lexemes with
      | [] => .error .unexpectedLexeme
      | first :: rest =>
          if first = closing then .ok ([], rest)
          else do
            let (element, rest) ← read lexemes
            match rest with
            | next :: behind =>
                if next = closing then return ([element], behind)
                else do
                  let rest ← expectMark ',' rest
                  let (elements, rest) ← readList closing read fuel rest
                  return (element :: elements, rest)
            | [] => throw .unexpectedLexeme

/-- What a type can begin with. -/
def typeChoices : List Expectation :=
  [.exactly "for", .group .parenthesis, .exactly "fn", .exactly "unsafe", .exactly "extern",
    .identifier, .exactly "::", .exactly "<", .exactly "dyn", .group .bracket, .exactly "*",
    .exactly "&", .exactly "!", .exactly "impl", .exactly "_", .lifetime]

def startsPath (lexemes : List Lexeme) : Bool :=
  match (dropColons? lexemes).getD lexemes with
  | .ident name :: _ => !name.isKeyword || pathKeywords.contains name.text
  | _ => false

/-- Reads a type with at most the given depth. -/
def readType : Nat → List Lexeme → Except SyntaxProblem (Parsed TypeExpr)
  | 0, _ => .error .unexpectedLexeme
  | depth + 1, lexemes =>
      match dropMark? '&' lexemes, dropWord? "dyn" lexemes with
      | some rest, _ => do
          let mutable := (dropWord? "mut" rest).isSome
          let (target, rest) ← readType depth ((dropWord? "mut" rest).getD rest)
          return (.reference mutable target, rest)
      | none, some rest => do
          let (bound, rest) ← readType depth rest
          return (.dynamic bound, rest)
      | none, none => do
          if !startsPath lexemes then throw (.missing typeChoices (atEnd lexemes))
          let absolute := (dropColons? lexemes).isSome
          let (segments, rest) ← readSegments ((dropColons? lexemes).getD lexemes)
          match segments.reverse with
          | ⟨name, .punct '<' _ :: arguments⟩ :: before => do
              let trail : Path := ⟨absolute, (⟨name, []⟩ :: before).reverse⟩
              let (types, _) ←
                readList (.punct '>' false) (readType depth) (arguments.length + 1) arguments
              return (.path trail types, rest)
          | _ => return (.path ⟨absolute, segments⟩ [], rest)

/-- Reads a constant expression: a literal, perhaps with a minus sign, or a path. -/
def readExpr : List Lexeme → Except SyntaxProblem (Parsed Expr)
  | .literal content :: rest => .ok (.literal content, rest)
  | .punct '-' _ :: .literal content :: rest => .ok (.negative (.literal content), rest)
  | lexemes => do
      if !startsPath lexemes then throw (.missing [.expression] (atEnd lexemes))
      let absolute := (dropColons? lexemes).isSome
      let (segments, rest) ← readSegments ((dropColons? lexemes).getD lexemes)
      return (.path ⟨absolute, segments⟩, rest)

/-- Reads a name with its type. -/
def readTyped (lexemes : List Lexeme) :
    Except SyntaxProblem (Parsed (Identifier × TypeExpr)) := do
  let (name, rest) ← readIdentifier lexemes
  let (type, rest) ← readType rest.length (← expectMark ':' rest)
  return ((name, type), rest)

/-- Reads a field of a structure. -/
def readField (lexemes : List Lexeme) :
    Except SyntaxProblem (Parsed (Bool × Identifier × TypeExpr)) := do
  let (visible, rest) := readVisibility lexemes
  let (field, rest) ← readTyped rest
  return ((visible, field), rest)

/-- Reads the path of an import, which may end with a group of names. -/
def readImportPath : Nat → List Lexeme →
    Except SyntaxProblem (Parsed (List PathSegment × List Identifier))
  | fuel + 1, .ident name :: rest => do
      if name.isKeyword && (name.text == "Self" || !pathKeywords.contains name.text) then
        throw (.missing importChoices false)
      match dropColons? rest with
      | none => return (([⟨name, []⟩], []), rest)
      | some (.opening .brace :: rest) => do
          let (names, rest) ← readList (.closing .brace) readIdentifier (rest.length + 1) rest
          return (([⟨name, []⟩], names), rest)
      | some rest => do
          let ((segments, names), rest) ← readImportPath fuel rest
          return ((⟨name, []⟩ :: segments, names), rest)
  | _, lexemes => .error (.missing importChoices (atEnd lexemes))

/-- Reads the abilities that a structure derives. -/
def readDerives (lexemes : List Lexeme) : Except SyntaxProblem (Parsed (List String)) :=
  match lexemes with
  | .punct '#' _ :: .opening .bracket :: .ident ⟨"derive", _⟩ ::
      .opening .parenthesis :: rest => do
      let (names, rest) ← readList (.closing .parenthesis) readIdentifier rest.length rest
      return (names.map Identifier.text, ← expectClosing (.closing .bracket) rest)
  | _ => .ok ([], lexemes)

/-- Reads an import after its keyword. -/
def readImport (visible : Bool) (lexemes : List Lexeme) : Except SyntaxProblem (Parsed Item) := do
  let absolute := (dropColons? lexemes).isSome
  let ((segments, names), rest) ←
    readImportPath lexemes.length ((dropColons? lexemes).getD lexemes)
  return (.imports visible ⟨absolute, segments⟩ names, ← expectMark ';' rest)

def readConstant (visible : Bool) (lexemes : List Lexeme) :
    Except SyntaxProblem (Parsed Item) := do
  let (name, rest) ← (readIdentifier lexemes).mapError fun _ =>
    SyntaxProblem.missing [.identifier, .exactly "_"] (atEnd lexemes)
  let (type, rest) ← readType rest.length (← expectMark ':' rest)
  match dropMark? '=' rest with
  | none => throw (.missing [.exactly ";"] false)
  | some rest => do
      let (value, rest) ← readExpr rest
      return (.constant visible name type value, ← expectMark ';' rest)

/-- What can follow the name of a structure. -/
def structureChoices : List Expectation :=
  [.exactly "where", .group .parenthesis, .group .brace, .exactly ";"]

def readStructure (derives : List String) (visible : Bool) (lexemes : List Lexeme) :
    Except SyntaxProblem (Parsed Item) := do
  let (name, rest) ← readIdentifier lexemes
  match rest with
  | .opening .brace :: rest => do
      let (fields, rest) ← readList (.closing .brace) readField (rest.length + 1) rest
      return (.record derives visible name fields, rest)
  | .punct ';' _ :: rest => return (.unit derives visible name, rest)
  | rest => throw (.missing structureChoices (atEnd rest))

/-- Reads the type of the result of a function, if it has one. -/
def readResult (lexemes : List Lexeme) : Except SyntaxProblem (Parsed (Option TypeExpr)) :=
  match lexemes with
  | .punct '-' true :: .punct '>' _ :: rest => do
      let (type, rest) ← readType rest.length rest
      return (some type, rest)
  | _ => return (none, lexemes)

/-- Reads a function without a body after its keyword. -/
def readFunction (visible : Bool) (lexemes : List Lexeme) :
    Except SyntaxProblem (Parsed Item) := do
  let (name, rest) ← readIdentifier lexemes
  let rest ← expectOpening .parenthesis rest
  let (parameters, rest) ← readList (.closing .parenthesis) readTyped (rest.length + 1) rest
  let (result, rest) ← readResult rest
  let rest ← expectOpening .brace rest
  return (.function [] visible name parameters result [],
    ← expectClosing (.closing .brace) rest)

/-- What an item can begin with after its visibility. -/
def visibleChoices : List Expectation :=
  ["fn", "extern", "use", "static", "const", "unsafe", "mod", "type", "struct", "enum", "union",
    "trait", "auto", "impl", "default", "macro"].map .exactly

def itemChoices : List Expectation :=
  visibleChoices ++
    .identifier :: ["self", "super", "crate", "::"].map .exactly

def readItem (lexemes : List Lexeme) : Except SyntaxProblem (Parsed Item) := do
  let (derives, rest) ← readDerives lexemes
  let (visible, rest) := readVisibility rest
  match dropWord? "use" rest, dropWord? "const" rest, dropWord? "struct" rest,
      dropWord? "fn" rest with
  | some rest, _, _, _ => readImport visible rest
  | _, some rest, _, _ => readConstant visible rest
  | _, _, some rest, _ => readStructure derives visible rest
  | _, _, _, some rest => readFunction visible rest
  | none, none, none, none =>
      if visible then throw (.missing visibleChoices (atEnd rest))
      else if startsPath rest then throw (.missing [.exactly "!"] false)
      else throw (.missing itemChoices (atEnd rest))

/-- Reads items up to the end of a source text. -/
def readItems : Nat → List Lexeme → Except SyntaxProblem (List Item)
  | _, [] => .ok []
  | 0, _ :: _ => .error .unexpectedLexeme
  | fuel + 1, lexemes => do
      let (item, rest) ← readItem lexemes
      let items ← readItems fuel rest
      return item :: items

/-- Lays a source text out on lines. -/
def reformat (content : String) : Except SyntaxProblem String := do
  let lexemes ← lex? content
  let items ← readItems lexemes.length lexemes
  return format items

end TypedEnv.Source
