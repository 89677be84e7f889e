import TypedEnv.Decimal.Digits

/-!
# Binary floating point numbers

`Binary64` is the value set of the 64-bit binary format: one NaN, two
infinities, and the finite numbers `significand * 2^(exponent - 1074)`, each
written in exactly one way.  `ofRatio` rounds a positive ratio of natural
numbers to the nearest value, and `ofDecimal` does the same for a decimal
number, so reading is correctly rounded by construction.
-/

namespace TypedEnv.Decimal

/-- The significand and exponent pairs that write a finite magnitude: a
significand of 53 bits, or a smaller one at the least exponent. -/
def Canonical (significand exponent : Nat) : Prop :=
  significand < Nat.pow 2 53 ∧ (Nat.pow 2 52 ≤ significand ∨ exponent = 0) ∧ exponent ≤ 2045

instance (significand exponent : Nat) : Decidable (Canonical significand exponent) :=
  inferInstanceAs (Decidable (_ ∧ _ ∧ _))

/-- A 64-bit binary floating point value; NaNs are not told apart. -/
inductive Binary64 where
  | nan
  | infinite (negative : Bool)
  | finite (negative : Bool) (significand exponent : Nat)
      (canonical : Canonical significand exponent)
  deriving DecidableEq

namespace Binary64

def zero (negative : Bool) : Binary64 :=
  .finite negative 0 0 (by decide)

def isZero : Binary64 → Bool
  | .finite _ significand _ _ => significand == 0
  | _ => false

/-- The quotient of two natural numbers rounded to the nearest integer, a tie going to
the even neighbour. -/
def roundHalfEven (numerator denominator : Nat) : Nat :=
  let quotient := numerator / denominator
  let twice := 2 * (numerator % denominator)
  if denominator < twice ∨ (twice = denominator ∧ quotient % 2 = 1) then quotient + 1
  else quotient

/-- The value with a given significand and exponent; one that is too large is infinite.  A
significand that was rounded up to `2^53` carries into the exponent. -/
def assemble (negative : Bool) (significand exponent : Nat) : Binary64 :=
  let (significand, exponent) :=
    if significand = Nat.pow 2 53 then (Nat.pow 2 52, exponent + 1) else (significand, exponent)
  if canonical : Canonical significand exponent then
    .finite negative significand exponent canonical
  else .infinite negative

/-- The value nearest to a ratio of natural numbers with a positive denominator. -/
def ofRatio (negative : Bool) (numerator denominator : Nat) : Binary64 :=
  let scaled := numerator * Nat.pow 2 1074
  let exponent := (scaled / denominator).log2 - 52
  assemble negative (roundHalfEven scaled (denominator * Nat.pow 2 exponent)) exponent

/-- The value nearest to `coefficient * 10^exponent`.  Magnitudes far outside the format are
recognised by their digit count, so that no huge power is computed for them. -/
def ofDecimal (negative : Bool) (coefficient : Nat) (exponent : Int) : Binary64 :=
  let leading := (digitCount coefficient : Int) + exponent
  if coefficient = 0 ∨ leading < -400 then zero negative
  else if 400 < leading then .infinite negative
  else if 0 ≤ exponent then ofRatio negative (coefficient * Nat.pow 10 exponent.toNat) 1
  else ofRatio negative coefficient (Nat.pow 10 exponent.natAbs)

/-- The words for the values that are not finite, in any letter case. -/
def ofWord? (negative : Bool) (text : List Char) : Option Binary64 :=
  let lowered := text.map Char.toLower
  if lowered = "inf".toList ∨ lowered = "infinity".toList then some (.infinite negative)
  else if lowered = "nan".toList then some .nan
  else none

/-- Reads an optional exponent part, `e` or `E` with an optionally signed digit string. -/
def exponent? : List Char → Option Int
  | [] => some 0
  | mark :: rest =>
      if mark == 'e' || mark == 'E' then
        let (negative, body) :=
          match rest with
          | '-' :: body => (true, body)
          | '+' :: body => (false, body)
          | body => (false, body)
        if body.isEmpty then none
        else (ofDigits? 10 body).map fun value =>
          if negative then -(value : Int) else value
      else none

/-- Reads digits with an optional decimal point and exponent; at least one digit stands
before or after the point. -/
def ofDigits? (negative : Bool) (text : List Char) : Option Binary64 :=
  let whole := text.takeWhile Char.isDigit
  let afterWhole := text.dropWhile Char.isDigit
  let (fraction, tail) :=
    match afterWhole with
    | '.' :: rest => (rest.takeWhile Char.isDigit, rest.dropWhile Char.isDigit)
    | rest => ([], rest)
  if whole.isEmpty && fraction.isEmpty then none
  else do
    let exponent ← exponent? tail
    let coefficient ← Decimal.ofDigits? 10 (whole ++ fraction)
    return ofDecimal negative coefficient (exponent - fraction.length)

/-- Reads a floating point literal: an optional sign, then a number or one of the words
`inf`, `infinity` and `nan`. -/
def ofText? (text : List Char) : Option Binary64 :=
  let (negative, body) :=
    match text with
    | '-' :: rest => (true, rest)
    | '+' :: rest => (false, rest)
    | rest => (false, rest)
  (ofDigits? negative body).or (ofWord? negative body)

end Binary64

end TypedEnv.Decimal
