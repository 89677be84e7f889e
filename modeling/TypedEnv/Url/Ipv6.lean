import TypedEnv.Decimal.Integer
import TypedEnv.Url.Percent

/-!
# Version 6 addresses

A version 6 address is eight numbers of sixteen bits.  A text may leave out
one group of zeros, and may write the last two numbers as a version 4
address.  The written form leaves out the longest group of zeros.
-/

namespace TypedEnv.Url

/-- What stands between the colons of a version 6 address. -/
inductive Ipv6Field where
  | piece (value : Nat)
  | gap
  deriving DecidableEq

/-- Reads a byte of an embedded version 4 address; there are no superfluous zeros. -/
def embeddedByte? (text : List Char) : Option Nat := do
  let value ← Decimal.ofDigits? 10 text
  if text.isEmpty || 3 < text.length || 255 < value || Decimal.digits value != text then none
  else some value

/-- Reads an embedded version 4 address as two pieces. -/
def embeddedIpv4? (text : List Char) : Option (List Ipv6Field) := do
  match ← (text.splitOn '.').mapM embeddedByte? with
  | [a, b, c, d] => some [.piece (a * 256 + b), .piece (c * 256 + d)]
  | _ => none

/-- Reads the fields of an address, of which `count` were read before; `gapSeen` tells whether
one of those was a gap. -/
def readFields? (count : Nat) (gapSeen : Bool) (text : List Char) :
    Option (List Ipv6Field) :=
  match text with
  | [] => some []
  | ':' :: rest =>
      if count = 8 ∨ gapSeen then none
      else (readFields? (count + 1) true rest).map (.gap :: ·)
  | c :: rest =>
      let written := (c :: rest).take 4 |>.takeWhile fun c => (hexValue? c).isSome
      match (Decimal.ofDigits? 16 written), (c :: rest).drop written.length with
      | none, _ => none
      | some value, tail =>
          if count = 8 ∨ written.isEmpty then none
          else
            match tail with
            | [] => some [.piece value]
            | '.' :: _ => if 6 < count then none else embeddedIpv4? (c :: rest)
            | ':' :: [] => none
            | ':' :: next :: more =>
                if (next :: more).length < (c :: rest).length then
                  (readFields? (count + 1) gapSeen (next :: more)).map (.piece value :: ·)
                else none
            | _ => none
  termination_by text.length
  decreasing_by all_goals simp_all

/-- The numbers of some fields, with zeros for a gap. -/
def expandFields (fields : List Ipv6Field) : List Nat :=
  fields.flatMap fun field =>
    match field with
    | .piece value => [value]
    | .gap => List.replicate (9 - fields.length) 0

def readIpv6? (text : List Char) : Option (List Nat) := do
  let fields ←
    match text with
    | ':' :: ':' :: rest => (readFields? 1 true rest).map (.gap :: ·)
    | ':' :: _ => none
    | [_] => none
    | _ => readFields? 0 false text
  let pieces := expandFields fields
  if pieces.length = 8 then some pieces else none

def leadingZeros (pieces : List Nat) : Nat :=
  (pieces.takeWhile (· == 0)).length

/-- Where the longest group of zeros begins and how long it is; the first of equally long
ones. -/
def longestZeros (position : Nat) : List Nat → Nat × Nat
  | [] => (position, 0)
  | piece :: rest =>
      let here := leadingZeros (piece :: rest)
      let later := longestZeros (position + 1) rest
      if later.2 ≤ here then (position, here) else later

/-- Pieces in base sixteen, separated by colons. -/
def piecesText (pieces : List Nat) : List Char :=
  ((pieces.map (Nat.toDigits 16)).intersperse [':']).flatten

/-- A version 6 address; the longest group of at least two zeros is left out. -/
def ipv6Text (pieces : List Nat) : List Char :=
  let (start, length) := longestZeros 0 pieces
  if length < 2 then piecesText pieces
  else piecesText (pieces.take start) ++ ':' :: ':' :: piecesText (pieces.drop (start + length))

end TypedEnv.Url
