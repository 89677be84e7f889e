import TypedEnv.Decimal.Digits

/-!
# Integer literals

An integer literal is an optional single sign, an optional radix mark (`0x`,
`0o` or `0b` in either letter case) and at least one digit of that radix.
`int64?` and `uint64?` read the literals whose value fits.
-/

namespace TypedEnv.Decimal

/-- A leading sign and the text after it; the first part says whether it was a minus sign. -/
def splitSign : List Char → Bool × List Char
  | '-' :: rest => (true, rest)
  | '+' :: rest => (false, rest)
  | text => (false, text)

/-- The radix that a leading mark chooses and the digits after it; ten without a mark. -/
def splitRadix : List Char → Nat × List Char
  | '0' :: mark :: rest =>
      match mark with
      | 'x' | 'X' => (16, rest)
      | 'o' | 'O' => (8, rest)
      | 'b' | 'B' => (2, rest)
      | _ => (10, '0' :: mark :: rest)
  | text => (10, text)

def magnitude? (text : List Char) : Option Nat :=
  let (radix, body) := splitRadix text
  if body.isEmpty then none else ofDigits? radix body

def literal? (text : List Char) : Option Int :=
  let (negative, rest) := splitSign text
  (magnitude? rest).map fun value => if negative then -(value : Int) else value

/-- Reads an integer literal whose value is at least `-2^63` and below `2^63`. -/
def int64? (text : List Char) : Option Int64 :=
  (literal? text).bind fun value =>
    if Int64.minValue.toInt ≤ value ∧ value ≤ Int64.maxValue.toInt then
      some (Int64.ofInt value)
    else none

/-- Reads an integer literal without a minus sign whose value is below `2^64`. -/
def uint64? (text : List Char) : Option UInt64 :=
  let (negative, rest) := splitSign text
  if negative then none
  else (magnitude? rest).bind fun value =>
    if value < UInt64.size then some (UInt64.ofNat value) else none

end TypedEnv.Decimal
