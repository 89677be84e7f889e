import TypedEnv.Source.Lexeme
import TypedEnv.Text.Blank
import TypedEnv.Text.IdentifierChar

/-!
# Reading lexemes

`lex?` cuts a source text into lexemes.  Blanks and plain comments are
skipped, documentation comments become attributes, and every bracket has to
be closed by its own kind.
-/

namespace TypedEnv.Source

open Text (isIdentifierStart isIdentifierContinue)

/-- A list with fewer elements than another one. -/
abbrev Shorter {α : Type} (rest text : List α) : Prop :=
  rest.length < text.length

def isSpace (c : Char) : Bool :=
  Text.isBlank c || c == '\u200e' || c == '\u200f'

/-- What follows a block comment after its opening; comments may be nested. -/
def skipBlock? (depth : Nat) : List Char → Option (List Char)
  | '*' :: '/' :: rest =>
      match depth with
      | 0 => some rest
      | depth + 1 => skipBlock? depth rest
  | '/' :: '*' :: rest => skipBlock? (depth + 1) rest
  | _ :: rest => skipBlock? depth rest
  | [] => none

/-- Whether a text begins with a line comment that documents nothing. -/
def startsLineComment (text : List Char) : Bool :=
  "//".toList.isPrefixOf text &&
    (!"///".toList.isPrefixOf text || "////".toList.isPrefixOf text) &&
    !"//!".toList.isPrefixOf text

/-- Whether a text begins with a block comment that documents nothing. -/
def startsBlockComment (text : List Char) : Bool :=
  "/**/".toList.isPrefixOf text ||
    ("/*".toList.isPrefixOf text &&
      (!"/**".toList.isPrefixOf text || "/***".toList.isPrefixOf text) &&
      !"/*!".toList.isPrefixOf text)

/-- What follows one blank or plain comment. -/
def skipOne? (text : List Char) : Option (List Char) :=
  match text with
  | [] => none
  | c :: rest =>
      if isSpace c then some rest
      else if startsLineComment text then some (text.dropWhile (· != '\n'))
      else if startsBlockComment text then skipBlock? 0 (text.drop 2)
      else none

/-- A text without leading blanks and plain comments. -/
def skipSpace (text : List Char) : List Char :=
  match skipOne? text with
  | none => text
  | some rest => if Shorter rest text then skipSpace rest else rest
  termination_by text.length
  decreasing_by assumption

/-- What follows an identifier that is no raw one. -/
def plainIdent? : List Char → Option (List Char × List Char)
  | [] => none
  | c :: rest =>
      if isIdentifierStart c then
        some (c :: rest.takeWhile isIdentifierContinue, rest.dropWhile isIdentifierContinue)
      else none

/-- The words that have no raw form. -/
def neverRaw : List String :=
  ["_", "super", "self", "Self", "crate"]

/-- Reads an identifier, raw or not. -/
def identifier? (text : List Char) : Option (Identifier × List Char) :=
  let raw := "r#".toList.isPrefixOf text
  match plainIdent? (if raw then text.drop 2 else text) with
  | none => none
  | some (name, rest) =>
      let word := String.ofList name
      if raw && neverRaw.contains word then none else some (⟨word, raw⟩, rest)

/-- What follows the suffix that a literal may have. -/
def dropSuffix (text : List Char) : List Char :=
  match plainIdent? text with
  | some (_, rest) => rest
  | none => text

def isHexDigit (c : Char) : Bool :=
  c.isDigit || ('a' ≤ c && c ≤ 'f') || ('A' ≤ c && c ≤ 'F')

/-- What follows a code point in braces. -/
def bracedPoint? (text : List Char) : Option (List Char) :=
  let inner := text.takeWhile fun c => isHexDigit c || c == '_'
  let digits := inner.filter (· != '_')
  match text.drop inner.length with
  | '\x7d' :: rest =>
      let value := digits.foldl (fun sum c =>
        sum * 16 + (if c.isDigit then c.toNat - 48 else c.toNat % 32 + 9)) 0
      if digits.isEmpty || 6 < digits.length || inner.head? == some '_' then none
      else if value.isValidChar then some rest
      else none
  | _ => none

/-- What follows an escape, of which the backslash was read; `bytes` tells that the literal
holds bytes. -/
def escape? (bytes : Bool) : List Char → Option (List Char)
  | 'x' :: high :: low :: rest =>
      let inRange := bytes || ('0' ≤ high && high ≤ '7')
      if isHexDigit high && isHexDigit low && inRange then some rest else none
  | 'u' :: '\x7b' :: rest => if bytes then none else bracedPoint? rest
  | c :: rest => if "nrt\\\x27\x220".toList.contains c then some rest else none
  | [] => none

/-- What follows a literal between double quotation marks, of which the first was read. -/
def cooked? (bytes : Bool) (text : List Char) : Option (List Char) :=
  match text with
  | [] => none
  | '\x22' :: rest => some rest
  | '\r' :: rest => if rest.head? == some '\n' then cooked? bytes rest else none
  | '\\' :: '\n' :: rest => cooked? bytes rest
  | '\\' :: rest =>
      match escape? bytes rest with
      | none => none
      | some tail => if Shorter tail rest then cooked? bytes tail else none
  | c :: rest => if bytes && 127 < c.toNat then none else cooked? bytes rest
  termination_by text.length
  decreasing_by all_goals simp_all only [Shorter, List.length_cons]; omega

/-- What follows a raw literal with the given number of marks, of which the opening was
read. -/
def rawEnd? (marks : Nat) : List Char → Option (List Char)
  | [] => none
  | '\r' :: rest => if rest.head? == some '\n' then rawEnd? marks rest else none
  | c :: rest =>
      if c == '\x22' && (List.replicate marks '#').isPrefixOf rest then some (rest.drop marks)
      else rawEnd? marks rest

/-- What follows a raw literal, of which the letters before its marks were read. -/
def raw? (text : List Char) : Option (List Char) :=
  let marks := (text.takeWhile (· == '#')).length
  match text.drop marks with
  | '\x22' :: rest => rawEnd? marks rest
  | _ => none

/-- What follows a character literal, of which the first quotation mark was read. -/
def character? (bytes : Bool) (text : List Char) : Option (List Char) :=
  let rest? :=
    match text with
    | '\\' :: rest => escape? bytes rest
    | c :: rest => if bytes && 127 < c.toNat then none else some rest
    | [] => none
  match rest? with
  | some ('\x27' :: rest) => some rest
  | _ => none

/-- What follows the digits of a number in a radix; letters beyond the radix end it. -/
def integerDigits? (text : List Char) : Option (List Char) :=
  let (radix, body) :=
    match text with
    | '0' :: 'x' :: rest => (16, rest)
    | '0' :: 'o' :: rest => (8, rest)
    | '0' :: 'b' :: rest => (2, rest)
    | _ => (10, text)
  let inNumber := fun c : Char => c.isDigit || c == '_' || (radix == 16 && isHexDigit c)
  let written := body.takeWhile inNumber
  let valid := written.all fun c => !c.isDigit || c.toNat - 48 < radix
  if !valid || written.all (· == '_') || (radix == 10 && written.head? == some '_') then none
  else some (body.dropWhile inNumber)

/-- What follows the digits of a number with a point or an exponent. -/
def floatDigits? (text : List Char) : Option (List Char) :=
  let inNumber := fun c : Char => c.isDigit || c == '_'
  if !(text.head?.any Char.isDigit) then none
  else
    let (hasPoint, rest) :=
      match text.dropWhile inNumber with
      | '.' :: rest =>
          if rest.head?.any fun c => c == '.' || isIdentifierStart c then (none, rest)
          else (some true, rest.dropWhile inNumber)
      | rest => (some false, rest)
    match hasPoint, rest with
    | none, _ => none
    | some hasPoint, mark :: tail =>
        let whole := if hasPoint then some rest else none
        if mark == 'e' || mark == 'E' then
          let unsigned := tail.dropWhile (· == '_')
          let signed :=
            match unsigned with
            | sign :: more => if sign == '+' || sign == '-' then more else unsigned
            | [] => unsigned
          let exponent := signed.takeWhile inNumber
          if exponent.any Char.isDigit then some (signed.drop exponent.length) else whole
        else whole
    | some hasPoint, [] => if hasPoint then some [] else none

/-- What follows a number with its suffix; no further letter or digit may stand there. -/
def number? (text : List Char) : Option (List Char) :=
  let finish := fun rest : List Char =>
    let rest := dropSuffix rest
    if rest.head?.any isIdentifierContinue then none else some rest
  match (floatDigits? text).bind finish with
  | some rest => some rest
  | none =>
      if text.head?.any Char.isDigit then (integerDigits? text).bind finish else none

def literalEnd? (text : List Char) : Option (List Char) :=
  match text with
  | '\x22' :: rest => (cooked? false rest).map dropSuffix
  | 'b' :: '\x22' :: rest => (cooked? true rest).map dropSuffix
  | 'c' :: '\x22' :: rest => (cooked? false rest).map dropSuffix
  | 'b' :: '\x27' :: rest => (character? true rest).map dropSuffix
  | '\x27' :: rest => (character? false rest).map dropSuffix
  | 'r' :: rest => (raw? rest).map dropSuffix
  | 'b' :: 'r' :: rest => (raw? rest).map dropSuffix
  | 'c' :: 'r' :: rest => (raw? rest).map dropSuffix
  | _ => number? text

def startsPunct (text : List Char) : Bool :=
  match text with
  | [] => false
  | c :: _ =>
      "~!@#$%^&*-=+|;:,<.>/?\x27".toList.contains c &&
        !"//".toList.isPrefixOf text && !"/*".toList.isPrefixOf text

/-- Reads a punctuation character; an apostrophe has to begin a label. -/
def punct? (text : List Char) : Option (Lexeme × List Char) :=
  match text with
  | [] => none
  | c :: rest =>
      if !startsPunct text then none
      else if c == '\x27' then
        match identifier? rest with
        | some (_, after) =>
            if after.head? == some '\x27' then none else some (.punct c true, rest)
        | none => none
      else some (.punct c (startsPunct rest), rest)

/-- The beginnings of literals that are no identifiers. -/
def literalStarts : List String :=
  ["r\x22", "r#\x22", "r##", "b\x22", "b\x27", "br\x22", "br#", "c\x22", "cr\x22", "cr#"]

/-- Reads a documentation comment as an attribute. -/
def documentation? (text : List Char) : Option (List Lexeme × List Char) :=
  let documented := fun (inner : Bool) (content : List Char) =>
    Lexeme.punct '#' false :: ((if inner then [Lexeme.punct '!' false] else []) ++
      Lexeme.enclosed .bracket
        [.word "doc", .punct '=' false, .literal (Text.literal (String.ofList content))])
  let line := text.takeWhile (· != '\n')
  let block := fun (inner : Bool) =>
    (skipBlock? 0 (text.drop 2)).map fun rest =>
      let content := text.take (text.length - rest.length)
      (documented inner ((content.drop 3).take (content.length - 5)), rest)
  if "//!".toList.isPrefixOf text then some (documented true (line.drop 3), text.drop line.length)
  else if "///".toList.isPrefixOf text then
    some (documented false (line.drop 3), text.drop line.length)
  else if "/*!".toList.isPrefixOf text then block true
  else if "/**".toList.isPrefixOf text then block false
  else none

/-- Reads the lexemes at the beginning of a text without leading blanks. -/
def lexeme? (text : List Char) : Option (List Lexeme × List Char) :=
  match text with
  | [] => none
  | c :: rest =>
      match documentation? text, Delimiter.ofOpenChar? c, Delimiter.ofCloseChar? c with
      | some found, _, _ => some found
      | none, some delimiter, _ => some ([.opening delimiter], rest)
      | none, none, some delimiter => some ([.closing delimiter], rest)
      | none, none, none =>
          match literalEnd? text, punct? text with
          | some tail, _ =>
              some ([.literal (String.ofList (text.take (text.length - tail.length)))], tail)
          | none, some (lexeme, tail) => some ([lexeme], tail)
          | none, none =>
              if literalStarts.any fun start => start.toList.isPrefixOf text then none
              else (identifier? text).map fun (name, tail) => ([.ident name], tail)

/-- Reads lexemes up to the end of a text. -/
def lexAll? (text : List Char) : Option (List Lexeme) :=
  let start := skipSpace text
  if start.isEmpty then some []
  else
    match lexeme? start with
    | none => none
    | some (lexemes, rest) =>
        if Shorter rest text then (lexAll? rest).map (lexemes ++ ·) else none
  termination_by text.length
  decreasing_by assumption

/-- Whether every bracket is closed by its own kind; `opened` are the brackets that are open,
the innermost first. -/
def balanced (opened : List Delimiter) : List Lexeme → Bool
  | [] => opened.isEmpty
  | .opening delimiter :: rest => balanced (delimiter :: opened) rest
  | .closing delimiter :: rest =>
      match opened with
      | [] => false
      | innermost :: outer => innermost == delimiter && balanced outer rest
  | _ :: rest => balanced opened rest

def lex? (text : String) : Except SyntaxProblem (List Lexeme) :=
  match lexAll? text.toList with
  | none => .error .notLexemes
  | some lexemes => if balanced [] lexemes then .ok lexemes else .error .notLexemes

end TypedEnv.Source
