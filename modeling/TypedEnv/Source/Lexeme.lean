import TypedEnv.Text.Quoted

/-!
# Lexemes

A source text is a sequence of identifiers, punctuation characters, literals
and brackets.  `Lexeme.joinAll` writes a sequence with single spaces between
its lexemes, except inside round and square brackets and after a punctuation
character that is joined to the next one.
-/

namespace TypedEnv.Source

/-- An identifier; a raw one is written with a mark and may be a keyword. -/
structure Identifier where
  text : String
  raw : Bool
  deriving DecidableEq

/-- An identifier that needs no mark. -/
def Identifier.plain (text : String) : Identifier :=
  ⟨text, false⟩

def Identifier.render (name : Identifier) : String :=
  if name.raw then "r#" ++ name.text else name.text

inductive Delimiter where
  | parenthesis
  | bracket
  | brace
  deriving DecidableEq

/-- A lexeme; a punctuation character may be joined to the one after it. -/
inductive Lexeme where
  | ident (name : Identifier)
  | punct (symbol : Char) (joined : Bool)
  | literal (text : String)
  | opening (delimiter : Delimiter)
  | closing (delimiter : Delimiter)
  deriving DecidableEq

namespace Delimiter

def openChar : Delimiter → Char
  | .parenthesis => '('
  | .bracket => '['
  | .brace => '\x7b'

def closeChar : Delimiter → Char
  | .parenthesis => ')'
  | .bracket => ']'
  | .brace => '\x7d'

/-- The kind of bracket that a character opens. -/
def ofOpenChar? (c : Char) : Option Delimiter :=
  [parenthesis, bracket, brace].find? fun delimiter => delimiter.openChar == c

/-- The kind of bracket that a character closes. -/
def ofCloseChar? (c : Char) : Option Delimiter :=
  [parenthesis, bracket, brace].find? fun delimiter => delimiter.closeChar == c

end Delimiter

namespace Lexeme

def text : Lexeme → String
  | .ident name => name.render
  | .punct symbol _ => String.singleton symbol
  | .literal text => text
  | .opening delimiter => String.singleton delimiter.openChar
  | .closing delimiter => String.singleton delimiter.closeChar

/-- Whether a space stands between two neighbouring lexemes. -/
def spaced : Lexeme → Lexeme → Bool
  | .opening .brace, _ => true
  | .opening _, _ => false
  | _, .closing .brace => true
  | _, .closing _ => false
  | .punct _ joined, _ => !joined
  | _, _ => true

/-- Writes lexemes, the first of which follows another one. -/
def joinAfter (previous : Lexeme) : List Lexeme → String
  | [] => ""
  | lexeme :: rest =>
      (if previous.spaced lexeme then " " else "") ++ lexeme.text ++ joinAfter lexeme rest

def joinAll : List Lexeme → String
  | [] => ""
  | lexeme :: rest => lexeme.text ++ joinAfter lexeme rest

/-- An identifier without a mark, as a lexeme. -/
def word (text : String) : Lexeme :=
  .ident (.plain text)

/-- A punctuation mark of one or more characters, joined to each other. -/
def symbols (text : String) : List Lexeme :=
  match text.toList.reverse with
  | [] => []
  | last :: before => (Lexeme.punct last false :: before.map (Lexeme.punct · true)).reverse

/-- Lexemes between brackets. -/
def enclosed (delimiter : Delimiter) (content : List Lexeme) : List Lexeme :=
  .opening delimiter :: (content ++ [.closing delimiter])

end Lexeme

/-- What can be missing from a source text. -/
inductive Expectation where
  | identifier
  | lifetime
  | expression
  /-- A punctuation mark or a keyword. -/
  | exactly (text : String)
  | group (delimiter : Delimiter)
  deriving DecidableEq

def Expectation.label : Expectation → String
  | .identifier => "identifier"
  | .lifetime => "lifetime"
  | .expression => "an expression"
  | .exactly text => s!"\x60{text}\x60"
  | .group .parenthesis => "parentheses"
  | .group .bracket => "square brackets"
  | .group .brace => "curly braces"

/-- Why a source text cannot be read. -/
inductive SyntaxProblem where
  | notLexemes
  | foundKeyword (word : String)
  | unexpectedLexeme
  /-- One of some things is missing; `atEnd` tells that the text ends where it has to stand. -/
  | missing (choices : List Expectation) (atEnd : Bool)
  deriving DecidableEq

namespace SyntaxProblem

/-- A choice in words. -/
def choiceText (choices : List Expectation) : String :=
  match choices.map Expectation.label with
  | [only] => only
  | [first, second] => s!"{first} or {second}"
  | labels => "one of: " ++ String.intercalate ", " labels

def message : SyntaxProblem → String
  | .notLexemes => "cannot parse string into token stream"
  | .foundKeyword word => s!"expected identifier, found keyword \x60{word}\x60"
  | .unexpectedLexeme => "unexpected token"
  | .missing choices atEnd =>
      (if atEnd then "unexpected end of input, " else "") ++ "expected " ++ choiceText choices

end SyntaxProblem

/-- Whether nothing more stands in a text or between the brackets around it. -/
def atEnd : List Lexeme → Bool
  | [] => true
  | .closing _ :: _ => true
  | _ => false

end TypedEnv.Source
