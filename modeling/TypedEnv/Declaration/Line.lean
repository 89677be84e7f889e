import TypedEnv.Text.Blank

/-!
# Declaration lines

A declaration is `NAME=VALUE` or `NAME: VALUE`, optionally after the word
`export`.  A value may stand between single or double quotation marks; an
unquoted one runs to a `#` or the end of the line.  Blank lines and comments
declare nothing, and nothing inside a value is replaced.
-/

namespace TypedEnv.Declaration

/-- What a line says. -/
inductive LineContent where
  | declares (name value : List Char)
  | nothing
  | malformed
  deriving DecidableEq

def isNameChar (c : Char) : Bool :=
  c.isAlphanum || c == '_' || c == '.'

/-- Whether a text is nothing but blanks and perhaps a comment, which takes up one line. -/
def isTail (text : List Char) : Bool :=
  match Text.trimStart text with
  | [] => true
  | c :: rest => c == '#' && !rest.contains '\n'

/-- The text up to the last quotation mark that can end it, if there is one.  A mark can end the
text when only a tail follows it, and can be passed only right after a backslash. -/
def closeQuote? (quote : Char) (afterBackslash : Bool) : List Char → Option (List Char)
  | [] => none
  | c :: rest =>
      if c = quote then
        let later := if afterBackslash then (closeQuote? quote false rest).map (c :: ·) else none
        later.or (if isTail rest then some [] else none)
      else (closeQuote? quote (c == '\\') rest).map (c :: ·)

def isQuote (c : Char) : Bool :=
  c == '\x27' || c == '\x22'

/-- The text between the quotation marks with which a value begins. -/
def quotedValue? : List Char → Option (List Char)
  | [] => none
  | c :: rest => if isQuote c then closeQuote? c false rest else none

/-- A text without one pair of equal quotation marks around it. -/
def stripQuotes (text : List Char) : List Char :=
  match text with
  | first :: second :: rest =>
      if isQuote first && (second :: rest).getLast? == some first then (second :: rest).dropLast
      else text
  | _ => text

/-- The value with which a text without leading blanks begins, if only a tail follows it. -/
def value? (text : List Char) : Option (List Char) :=
  let inValue := fun c : Char => c != '#' && c != '\n'
  (quotedValue? text).or <|
    if isTail (text.dropWhile inValue) then
      some (stripQuotes (Text.trimEnd (text.takeWhile inValue)))
    else none

/-- What follows the separator after a name: an equals sign with blanks around it, or a colon
with blanks after it. -/
def afterSeparator? (text : List Char) : Option (List Char) :=
  match text, Text.trimStart text with
  | ':' :: rest, _ => if rest.head?.any Text.isBlank then some (Text.trimStart rest) else none
  | _, '=' :: rest => some (Text.trimStart rest)
  | _, _ => none

/-- What follows the word `export` when a name stands behind it, or else the whole text. -/
def dropExport (text : List Char) : List Char :=
  let word := "export".toList
  let rest := text.drop word.length
  let behind := Text.trimStart rest
  if word.isPrefixOf text && rest.head?.any Text.isBlank && behind.head?.any isNameChar then behind
  else text

def readDeclaration? (line : List Char) : Option (List Char × List Char) :=
  let text := dropExport (Text.trimStart line)
  let name := text.takeWhile isNameChar
  if name.isEmpty then none
  else do
    let rest ← afterSeparator? (text.dropWhile isNameChar)
    let value ← value? rest
    return (name, value)

def LineContent.read (line : List Char) : LineContent :=
  match readDeclaration? line with
  | some (name, value) => .declares name value
  | none =>
      match Text.trimStart line with
      | [] => .nothing
      | c :: _ => if c == '#' then .nothing else .malformed

end TypedEnv.Declaration
