import TypedEnv.Text.Printable

/-!
# Quoted text

A text between double quotation marks, with escapes for the quotation mark,
the backslash, control characters and everything that would not be seen.
`quoted` is used in messages and `literal` for string literals of a generated
module; they differ only where an escaped NUL could be taken for the start of
an octal number.
-/

namespace TypedEnv.Text

/-- A character by its code point, as in `\u{7f}`. -/
def codePointEscape (c : Char) : List Char :=
  "\\u\x7b".toList ++ Nat.toDigits 16 c.toNat ++ ['\x7d']

/-- A character as it stands between quotation marks. -/
def escape (c : Char) : List Char :=
  match c with
  | '\x00' => ['\\', '0']
  | '\t' => ['\\', 't']
  | '\r' => ['\\', 'r']
  | '\n' => ['\\', 'n']
  | '\\' => ['\\', '\\']
  | '\x22' => ['\\', '\x22']
  | c => if isPrintable c && !isGraphemeExtend c then [c] else codePointEscape c

def quoted (text : String) : String :=
  String.ofList ('\x22' :: (text.toList.flatMap escape ++ ['\x22']))

/-- Whether a text starts with an octal digit. -/
def startsOctal : List Char → Bool
  | [] => false
  | c :: _ => '0' ≤ c && c ≤ '7'

/-- The characters of a string literal; a NUL before an octal digit is written in base
sixteen. -/
def literalBody : List Char → List Char
  | [] => []
  | c :: rest =>
      (if c == '\x00' && startsOctal rest then ['\\', 'x', '0', '0'] else escape c) ++
        literalBody rest

def literal (text : String) : String :=
  String.ofList ('\x22' :: (literalBody text.toList ++ ['\x22']))

end TypedEnv.Text
