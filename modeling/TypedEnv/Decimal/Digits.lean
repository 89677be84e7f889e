/-!
# Digits

Positional digits of natural numbers.  `ofDigits?` reads a digit string in a
radix of at most 36, and `digits` writes a natural number in base ten.
-/

namespace TypedEnv.Decimal

/-- The value of a digit in a radix, letters of either case counting from ten. -/
def digitValue? (radix : Nat) (c : Char) : Option Nat :=
  let value? :=
    if c.isDigit then some (c.toNat - 48)
    else if 'a' ≤ c && c ≤ 'z' then some (c.toNat - 87)
    else if 'A' ≤ c && c ≤ 'Z' then some (c.toNat - 55)
    else none
  value?.filter (· < radix)

/-- The number that a digit string denotes, or nothing when a character is no
digit of the radix.  The empty string denotes zero. -/
def ofDigits? (radix : Nat) (text : List Char) : Option Nat :=
  text.foldlM (fun value c => (digitValue? radix c).map (value * radix + ·)) 0

/-- The decimal digits of a natural number, without leading zeros. -/
def digits (n : Nat) : List Char :=
  Nat.toDigits 10 n

/-- How many decimal digits a natural number has; zero has one. -/
def digitCount (n : Nat) : Nat :=
  (digits n).length

def natText (n : Nat) : String :=
  String.ofList (digits n)

def intText (n : Int) : String :=
  if n < 0 then "-" ++ natText n.natAbs else natText n.natAbs

end TypedEnv.Decimal
