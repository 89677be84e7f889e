import TypedEnv.Decimal.Integer

/-!
# Version 4 addresses

A domain name whose last part is a number is a version 4 address.  The parts
may be in base ten, eight or sixteen, and the last part fills all bytes that
are left; the address is written as four bytes in base ten.
-/

namespace TypedEnv.Url

/-- A part of a version 4 address: no number, a number that does not fit 32 bits, or a number. -/
inductive Ipv4Part where
  | notNumber
  | tooLarge
  | number (value : Nat)
  deriving DecidableEq

/-- Reads a part; `0x` marks base sixteen and a leading zero base eight. -/
def Ipv4Part.read (text : List Char) : Ipv4Part :=
  let (radix, body) :=
    match text with
    | '0' :: mark :: rest =>
        if mark == 'x' || mark == 'X' then (16, rest) else (8, mark :: rest)
    | _ => (10, text)
  if text.isEmpty then .notNumber
  else
    match Decimal.ofDigits? radix body with
    | none => .notNumber
    | some value => if value < UInt32.size then .number value else .tooLarge

/-- The parts between the points of a domain name; one point at the end is allowed. -/
def nameParts (name : List Char) : List (List Char) :=
  let parts := name.splitOn '.'
  if parts.getLast? = some [] ∧ 1 < parts.length then parts.dropLast else parts

/-- Whether a domain name has to be a version 4 address. -/
def endsInNumber (name : List Char) : Bool :=
  match (nameParts name).getLast? with
  | none => false
  | some last => (!last.isEmpty && last.all Char.isDigit) || Ipv4Part.read last != .notNumber

/-- The value of the parts of a version 4 address; all but the last are bytes. -/
def ipv4Value? (limit value : Nat) : List Nat → Option Nat
  | [] => none
  | [last] => if last < limit then some (value * limit + last) else none
  | byte :: rest =>
      if byte < 256 ∧ 256 ≤ limit then ipv4Value? (limit / 256) (value * 256 + byte) rest
      else none

def readIpv4? (name : List Char) : Option Nat := do
  let numbers ← (nameParts name).mapM fun part =>
    match Ipv4Part.read part with
    | .number value => some value
    | _ => none
  if numbers.length ≤ 4 then ipv4Value? UInt32.size 0 numbers else none

/-- A version 4 address as four bytes. -/
def ipv4Text (value : Nat) : List Char :=
  let bytes := [value / 16777216 % 256, value / 65536 % 256, value / 256 % 256, value % 256]
  ((bytes.map Decimal.digits).intersperse ['.']).flatten

end TypedEnv.Url
