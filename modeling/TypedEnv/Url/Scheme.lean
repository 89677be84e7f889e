/-!
# Schemes

An address begins with a scheme: a letter, then letters, digits and the
characters `+`, `-` and `.`, up to the first colon.  Letter case does not
matter.  The special schemes have an authority in every address and most of
them a usual port.
-/

namespace TypedEnv.Url

/-- The ways in which addresses are read, by scheme. -/
inductive SchemeType where
  | file
  | special
  | ordinary
  deriving DecidableEq

def SchemeType.ofScheme (scheme : List Char) : SchemeType :=
  if scheme = "file".toList then .file
  else if ["http", "https", "ws", "wss", "ftp"].any (·.toList == scheme) then .special
  else .ordinary

/-- Whether a backslash separates like a slash, and hosts are domain names. -/
def SchemeType.isSpecial : SchemeType → Bool
  | .ordinary => false
  | _ => true

/-- The port that need not be written for a scheme. -/
def usualPort? (scheme : List Char) : Option Nat :=
  if scheme = "http".toList ∨ scheme = "ws".toList then some 80
  else if scheme = "https".toList ∨ scheme = "wss".toList then some 443
  else if scheme = "ftp".toList then some 21
  else none

def isSchemeChar (c : Char) : Bool :=
  c.isAlphanum || c == '+' || c == '-' || c == '.'

/-- Splits a text after its scheme and the colon; the scheme is in lower case. -/
def readScheme? (text : List Char) : Option (List Char × List Char) :=
  match text.head?.map Char.isAlpha, text.dropWhile isSchemeChar with
  | some true, ':' :: rest => some ((text.takeWhile isSchemeChar).map Char.toLower, rest)
  | _, _ => none

end TypedEnv.Url
