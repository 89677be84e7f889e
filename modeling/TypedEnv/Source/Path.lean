import TypedEnv.Outcome
import TypedEnv.Source.Lexer

/-!
# Identifiers and paths in source texts

Reads single identifiers and paths such as `a::b::c`.  A path may begin with
two colons, and its segments may have arguments between angle brackets.
-/

namespace TypedEnv.Source

/-- The words that are no identifiers unless they are marked as raw. -/
def keywords : List String :=
  ["_", "abstract", "as", "async", "await", "become", "box", "break", "const", "continue",
   "crate", "do", "dyn", "else", "enum", "extern", "false", "final", "fn", "for", "if", "impl",
   "in", "let", "loop", "macro", "match", "mod", "move", "mut", "override", "priv", "pub", "ref",
   "return", "Self", "self", "static", "struct", "super", "trait", "true", "try", "type",
   "typeof", "unsafe", "unsized", "use", "virtual", "where", "while", "yield"]

def Identifier.isKeyword (name : Identifier) : Bool :=
  !name.raw && keywords.contains name.text

/-- Reads an identifier that is no keyword. -/
def readIdentifier : List Lexeme → Except SyntaxProblem (Identifier × List Lexeme)
  | .ident name :: rest =>
      if name.isKeyword then .error (.foundKeyword name.text) else .ok (name, rest)
  | lexemes => .error (.missing [.identifier] (atEnd lexemes))

/-- Reads a text that is one identifier. -/
def Identifier.read (text : String) : Except SyntaxProblem Identifier := do
  let lexemes ← lex? text
  match ← readIdentifier lexemes with
  | (name, []) => return name
  | (_, _ :: _) => throw .unexpectedLexeme

def isNumeral (text : String) : Bool :=
  text.toList.all Char.isDigit

/-- The identifier with a given text, in raw form when the text is a keyword.  The program stops
when the text is no identifier. -/
def Identifier.ofName (text : String) : Except Abort Identifier :=
  match Identifier.read text with
  | .ok _ =>
      if Text.isIdentifier text.toList then .ok (.plain text) else .error (.notIdentifier text)
  | .error _ =>
      if text.isEmpty then .error .emptyIdentifier
      else if isNumeral text then .error .numericIdentifier
      else if !Text.isIdentifier text.toList then .error (.notIdentifier text)
      else if neverRaw.contains text then .error (.notRawIdentifier text)
      else .ok ⟨text, true⟩

/-- The identifier with exactly the given text.  The program stops when the text is no
identifier. -/
def Identifier.exactly (text : String) : Except Abort Identifier :=
  if text.isEmpty then .error .emptyIdentifier
  else if isNumeral text then .error .numericIdentifier
  else if Text.isIdentifier text.toList then .ok (.plain text)
  else .error (.notIdentifier text)

/-- A part of a path.  Arguments are kept with the angle brackets around them and the colons
before them, if there are any. -/
structure PathSegment where
  name : Identifier
  arguments : List Lexeme
  deriving DecidableEq

/-- A path; an absolute one begins with two colons. -/
structure Path where
  absolute : Bool
  segments : List PathSegment
  deriving DecidableEq

/-- Splits off two colons that belong together. -/
def dropColons? : List Lexeme → Option (List Lexeme)
  | .punct ':' true :: .punct ':' _ :: rest => some rest
  | _ => none

/-- The keywords that may be a segment of a path. -/
def pathKeywords : List String :=
  ["super", "self", "crate", "try", "Self"]

/-- Splits after the angle bracket that closes the outermost of `depth` open ones. -/
def splitArguments? (depth : Nat) : List Lexeme → Option (List Lexeme × List Lexeme)
  | [] => none
  | lexeme :: rest =>
      let depth :=
        match lexeme with
        | .punct '<' _ => depth + 1
        | .punct '>' _ => depth - 1
        | _ => depth
      if depth = 0 then some ([lexeme], rest)
      else (splitArguments? depth rest).map fun (arguments, tail) => (lexeme :: arguments, tail)

/-- Arguments with their punctuation characters apart, except for two colons and the mark of a
label. -/
def separateMarks : List Lexeme → List Lexeme
  | [] => []
  | .punct ':' true :: .punct ':' _ :: rest =>
      .punct ':' true :: .punct ':' false :: separateMarks rest
  | .punct symbol _ :: rest => .punct symbol (symbol == '\x27') :: separateMarks rest
  | lexeme :: rest => lexeme :: separateMarks rest

/-- Whether a type argument list begins here. -/
def startsArguments : List Lexeme → Bool
  | .punct '<' true :: .punct '=' _ :: _ => false
  | .punct '<' _ :: _ => true
  | _ => false

/-- Splits off the arguments of a path segment; there may be none. -/
def readArguments (lexemes : List Lexeme) :
    Except SyntaxProblem (List Lexeme × List Lexeme) :=
  let afterColons := (dropColons? lexemes).getD []
  let hasColons := startsArguments afterColons
  if hasColons || startsArguments lexemes then
    match splitArguments? 0 (if hasColons then afterColons else lexemes) with
    | none => .error (.missing [.exactly ","] true)
    | some (arguments, rest) =>
        .ok ((if hasColons then Lexeme.symbols "::" else []) ++ separateMarks arguments, rest)
  else .ok ([], lexemes)

/-- Reads a segment of a path. -/
def readSegment (lexemes : List Lexeme) : Except SyntaxProblem (PathSegment × List Lexeme) :=
  match lexemes with
  | .ident name :: rest =>
      if !name.raw && pathKeywords.contains name.text && name.text != "Self" then
        .ok (⟨name, []⟩, rest)
      else if name.isKeyword && name.text != "Self" then .error (.foundKeyword name.text)
      else do
        let (arguments, rest) ← readArguments rest
        return (⟨name, arguments⟩, rest)
  | lexemes => .error (.missing [.identifier] (atEnd lexemes))

/-- Whether a text begins with a round bracket. -/
def startsGroup : List Lexeme → Bool
  | .opening .parenthesis :: _ => true
  | _ => false

/-- Reads segments that are separated by two colons. -/
def readSegments (lexemes : List Lexeme) :
    Except SyntaxProblem (List PathSegment × List Lexeme) := do
  let (segment, rest) ← readSegment lexemes
  match dropColons? rest with
  | none => return ([segment], rest)
  | some behind =>
      if startsGroup behind then return ([segment], rest)
      else if behind.length < lexemes.length then
        let (segments, rest) ← readSegments behind
        return (segment :: segments, rest)
      else throw .unexpectedLexeme
  termination_by lexemes.length

/-- Reads a text that is one path. -/
def Path.read (text : String) : Except SyntaxProblem Path := do
  let lexemes ← lex? text
  let (absolute, lexemes) :=
    match dropColons? lexemes with
    | some rest => (true, rest)
    | none => (false, lexemes)
  match ← readSegments lexemes with
  | (segments, []) => return ⟨absolute, segments⟩
  | (_, _ :: _) => throw .unexpectedLexeme

def PathSegment.lexemes (segment : PathSegment) : List Lexeme :=
  .ident segment.name :: segment.arguments

def Path.lexemes (path : Path) : List Lexeme :=
  (if path.absolute then Lexeme.symbols "::" else []) ++
    ((path.segments.map PathSegment.lexemes).intersperse (Lexeme.symbols "::")).flatten

/-- What can be imported from a path, or stand on the way there. -/
def importChoices : List Expectation :=
  [.identifier, .exactly "self", .exactly "super", .exactly "crate", .exactly "try", .exactly "*",
    .group .brace]

/-- Why a segment cannot stand in a declaration of imported names. -/
def PathSegment.importProblem? (segment : PathSegment) : Option SyntaxProblem :=
  if segment.name = .plain "Self" then some (.missing importChoices false)
  else
    match segment.arguments with
    | [] => none
    | .punct ':' _ :: _ => some (.missing importChoices false)
    | _ => some (.missing [.exactly ";"] false)

/-- Why nothing can be imported from a path. -/
def Path.importProblem? (path : Path) : Option SyntaxProblem :=
  path.segments.findSome? PathSegment.importProblem?

end TypedEnv.Source
