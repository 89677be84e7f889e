import TypedEnv.Decimal.Binary64

/-!
# Shortest decimals

Every finite magnitude stands in an interval of reals that round to it.
`shortest` finds the fewest digits whose decimal lies in that interval and,
among those, the decimal nearest to the value; of two equally near ones it
takes the greater.  `Style` holds what a printer decides by itself, and
`Binary64.text` writes a value in a style.
-/

namespace TypedEnv.Decimal

/-- The reals that round to a value, as numerators over `denominator`: the value itself and
both ends, which belong to the interval exactly when `closed` holds. -/
structure RoundingInterval where
  low : Nat
  value : Nat
  high : Nat
  denominator : Nat
  closed : Bool

/-- The rounding interval of a finite magnitude.  Below a power of two the spacing halves, so
the lower end is nearer there. -/
def roundingInterval (significand exponent : Nat) : RoundingInterval where
  low :=
    let below := if significand = Nat.pow 2 52 ∧ 0 < exponent then 1 else 2
    (4 * significand - below) * Nat.pow 2 exponent
  value := 4 * significand * Nat.pow 2 exponent
  high := (4 * significand + 2) * Nat.pow 2 exponent
  denominator := Nat.pow 2 1076
  closed := significand % 2 == 0

namespace RoundingInterval

def contains (interval : RoundingInterval) (numerator denominator : Nat) : Bool :=
  let scaled := numerator * interval.denominator
  if interval.closed then
    interval.low * denominator ≤ scaled && scaled ≤ interval.high * denominator
  else
    interval.low * denominator < scaled && scaled < interval.high * denominator

/-- The least `k` for which the value is below `10^k`. -/
def magnitude (interval : RoundingInterval) : Int :=
  if interval.denominator ≤ interval.value then digitCount (interval.value / interval.denominator)
  else
    let inverse := (interval.denominator + interval.value - 1) / interval.value
    1 - (digitCount (inverse - 1) : Int)

/-- The multiple of `10^scale` nearest to the value among those in the interval, if the
interval holds a neighbour of the value on that grid. -/
def onGrid? (interval : RoundingInterval) (scale : Int) : Option Nat :=
  let up := if 0 ≤ scale then Nat.pow 10 scale.toNat else 1
  let down := if 0 ≤ scale then 1 else Nat.pow 10 scale.natAbs
  let numerator := interval.value * down
  let denominator := interval.denominator * up
  let below := numerator / denominator
  let remainder := numerator % denominator
  let belowFits := interval.contains (below * up) down
  let aboveFits := interval.contains ((below + 1) * up) down
  if belowFits && (!aboveFits || 2 * remainder < denominator) then some below
  else if aboveFits then some (below + 1)
  else none

/-- The first of the grids with `count`, `count + 1`, … digits that meets the interval, with
the chosen multiple; seventeen digits are always enough. -/
def firstGrid (interval : RoundingInterval) (count : Nat) (more : Nat) : Nat × Int :=
  let scale := interval.magnitude - count
  match interval.onGrid? scale, more with
  | some chosen, _ => (chosen, scale)
  | none, 0 => (0, scale)
  | none, more + 1 => firstGrid interval (count + 1) more

end RoundingInterval

/-- The digits of a decimal `0.d₁d₂… * 10^point`, without trailing zeros. -/
structure DecimalText where
  digits : List Char
  point : Int

/-- The shortest decimal that rounds to a positive finite magnitude, and the nearest of
those. -/
def shortest (significand exponent : Nat) : DecimalText :=
  let (chosen, scale) := (roundingInterval significand exponent).firstGrid 1 16
  let written := digits chosen
  { digits := (written.reverse.dropWhile (· == '0')).reverse
    point := written.length + scale }

/-- What a printer of floating point numbers decides: for which positions of the point it
writes no exponent. -/
structure Style where
  positional : Int → Bool

namespace Style

/-- Values from `10^-4` to below `10^16` are written without an exponent. -/
def general : Style := ⟨fun point => -3 ≤ point && point ≤ 16⟩

/-- Every value is written without an exponent. -/
def plain : Style := ⟨fun _ => true⟩

end Style

/-- A decimal without an exponent; at least one digit stands on each side of the point. -/
def positionalText (decimal : DecimalText) : List Char :=
  let count : Int := decimal.digits.length
  if decimal.point ≤ 0 then
    '0' :: '.' :: (List.replicate decimal.point.natAbs '0' ++ decimal.digits)
  else if count ≤ decimal.point then
    decimal.digits ++ List.replicate (decimal.point - count).toNat '0' ++ ['.', '0']
  else
    decimal.digits.take decimal.point.toNat ++ '.' :: decimal.digits.drop decimal.point.toNat

/-- A decimal with one digit before the point and an exponent; a point stands only before
further digits. -/
def exponentText (decimal : DecimalText) : List Char :=
  let tail := (intText (decimal.point - 1)).toList
  match decimal.digits with
  | [] => '0' :: 'e' :: tail
  | [digit] => digit :: 'e' :: tail
  | digit :: rest => digit :: '.' :: (rest ++ 'e' :: tail)

namespace Binary64

/-- The text of a magnitude in a style; zero is written as `0.0`. -/
def magnitudeText (style : Style) (significand exponent : Nat) : List Char :=
  if significand = 0 then ['0', '.', '0']
  else
    let decimal := shortest significand exponent
    if style.positional decimal.point then positionalText decimal else exponentText decimal

/-- The text of a value in a style; NaN has no sign. -/
def text (style : Style) : Binary64 → List Char
  | .nan => "NaN".toList
  | .infinite negative => if negative then "-inf".toList else "inf".toList
  | .finite negative significand exponent _ =>
      let written := magnitudeText style significand exponent
      if negative then '-' :: written else written

/-- The text of a value that tells it apart from an integer literal. -/
def render (value : Binary64) : String :=
  String.ofList (value.text .general)

end Binary64

end TypedEnv.Decimal
