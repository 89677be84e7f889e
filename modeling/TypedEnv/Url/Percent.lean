/-!
# Percent encoding

A character that may not stand in some part of an address is written as the
bytes of its UTF-8 form, each as a percent sign and two digits in base
sixteen.  Each part of an address has its own set of such characters; all of
them contain the control characters and everything beyond ASCII.
-/

namespace TypedEnv.Url

/-- The characters that are encoded everywhere. -/
def isControl (c : Char) : Bool :=
  c.toNat < 32 || 126 < c.toNat

/-- The characters that are encoded in a fragment. -/
def isFragmentEncoded (c : Char) : Bool :=
  isControl c || " \x22<>\x60".toList.contains c

/-- The characters that are encoded in a query; an apostrophe only when the scheme is special. -/
def isQueryEncoded (special : Bool) (c : Char) : Bool :=
  isControl c || " \x22#<>".toList.contains c || (special && c == '\x27')

/-- The characters that are encoded in a path. -/
def isPathEncoded (c : Char) : Bool :=
  isFragmentEncoded c || "#?\x7b\x7d".toList.contains c

/-- The characters that are encoded in a user name or a password. -/
def isUserEncoded (c : Char) : Bool :=
  isPathEncoded c || "/:;=@[\\]^|".toList.contains c

def hexDigit (digit : Nat) : Char :=
  if digit < 10 then Char.ofNat (48 + digit) else Char.ofNat (55 + digit)

/-- A byte as a percent sign and two digits. -/
def encodeByte (byte : UInt8) : List Char :=
  ['%', hexDigit (byte.toNat / 16), hexDigit (byte.toNat % 16)]

/-- Encodes the characters of a set and keeps the others. -/
def percentEncode (encoded : Char → Bool) (text : List Char) : List Char :=
  text.flatMap fun c =>
    if encoded c then (String.utf8EncodeChar c).flatMap encodeByte else [c]

/-- The value of a digit in base sixteen of either letter case. -/
def hexValue? (c : Char) : Option Nat :=
  if c.isDigit then some (c.toNat - 48)
  else if 'a' ≤ c ∧ c ≤ 'f' then some (c.toNat - 87)
  else if 'A' ≤ c ∧ c ≤ 'F' then some (c.toNat - 55)
  else none

/-- The bytes for which a text stands; a percent sign without two digits stands for itself. -/
def percentDecode : List Char → List UInt8
  | [] => []
  | '%' :: high :: low :: rest =>
      match hexValue? high, hexValue? low with
      | some high, some low => UInt8.ofNat (16 * high + low) :: percentDecode rest
      | _, _ => 37 :: percentDecode (high :: low :: rest)
  | c :: rest => String.utf8EncodeChar c ++ percentDecode rest

end TypedEnv.Url
