/-!
# Punycode

A text over all characters written with ASCII characters alone.  Its ASCII
characters come first; the others follow in the order of their code points as
digit groups, each telling how far to move through all pairs of a code point
and a position.  The digits of a group have thresholds that adapt to the
groups before it.
-/

namespace TypedEnv.Domain.Punycode

/-- The first number that a code point or a sum of a reader must stay below. -/
def limit : Nat := 4294967296

/-- The character of a digit: letters, then figures. -/
def digitChar (digit : Nat) : Char :=
  if digit < 26 then Char.ofNat (97 + digit) else Char.ofNat (22 + digit)

/-- The digit that a character stands for. -/
def digitValue? (c : Char) : Option Nat :=
  if 'a' ≤ c ∧ c ≤ 'z' then some (c.toNat - 97)
  else if 'A' ≤ c ∧ c ≤ 'Z' then some (c.toNat - 65)
  else if c.isDigit then some (c.toNat - 22)
  else none

/-- The threshold of the digit at a position; positions count in steps of 36. -/
def threshold (bias position : Nat) : Nat :=
  if position ≤ bias then 1 else if bias + 26 ≤ position then 26 else position - bias

theorem one_le_threshold (bias position : Nat) : 1 ≤ threshold bias position := by
  unfold threshold
  split
  · omega
  · split <;> omega

/-- Scales a distance down and counts the steps that this takes. -/
def scaleDown (distance position : Nat) : Nat :=
  if 455 < distance then scaleDown (distance / 35) (position + 36)
  else position + 36 * distance / (distance + 38)
  termination_by distance
  decreasing_by exact Nat.div_lt_self (by omega) (by omega)

/-- The bias after a group, from its distance and the number of characters written so far. -/
def adapt (distance written : Nat) (isFirst : Bool) : Nat :=
  let damped := if isFirst then distance / 700 else distance / 2
  scaleDown (damped + damped / written) 0

/-- The digits of a group. -/
def group (bias position distance : Nat) : List Char :=
  let bound := threshold bias position
  if distance < bound then [digitChar distance]
  else
    digitChar (bound + (distance - bound) % (36 - bound)) ::
      group bias (position + 36) ((distance - bound) / (36 - bound))
  termination_by distance
  decreasing_by
    have positive := one_le_threshold bias position
    have smaller := Nat.div_le_self (distance - threshold bias position)
      (36 - threshold bias position)
    omega

/-- What the writer knows: the groups so far, the distance since the last one, the bias and the
number of characters written. -/
structure Writer where
  groups : List Char
  distance : Nat
  bias : Nat
  written : Nat

/-- The writer passes a character of the text while it looks for a code point; `basic` is the
number of ASCII characters. -/
def Writer.pass (basic point : Nat) (writer : Writer) (c : Char) : Writer :=
  if c.toNat < point then { writer with distance := writer.distance + 1 }
  else if c.toNat = point then
    { groups := writer.groups ++ group writer.bias 36 writer.distance
      distance := 0
      bias := adapt writer.distance (writer.written + 1) (writer.written == basic)
      written := writer.written + 1 }
  else writer

/-- Writes the groups of the given ascending code points; `next` is the first code point that
was not looked for yet. -/
def Writer.run (text : List Char) (basic next : Nat) (writer : Writer) : List Nat → List Char
  | [] => writer.groups
  | point :: rest =>
      let moved :=
        { writer with distance := writer.distance + (point - next) * (writer.written + 1) }
      let passed := text.foldl (Writer.pass basic point) moved
      Writer.run text basic (point + 1) { passed with distance := passed.distance + 1 } rest

def encode (text : List Char) : List Char :=
  let basic := text.filter (·.toNat < 128)
  let points := ((text.map Char.toNat).filter (128 ≤ ·)).mergeSort.eraseDups
  let start := if basic.isEmpty then [] else basic ++ ['-']
  start ++ Writer.run text basic.length 128 ⟨[], 0, 72, basic.length⟩ points

/-- Reads the digits of a group and returns its distance and the text after it. -/
def readGroup? (bias position weight distance : Nat) : List Char → Option (Nat × List Char)
  | [] => none
  | c :: rest => do
      let digit ← digitValue? c
      let distance := distance + digit * weight
      if limit ≤ distance then none
      else
        let bound := threshold bias position
        if digit < bound then some (distance, rest)
        else readGroup? bias (position + 36) (weight * (36 - bound)) distance rest

/-- A group has at least one digit. -/
theorem length_lt_of_readGroup? {text rest : List Char}
    {bias position weight distance result : Nat}
    (found : readGroup? bias position weight distance text = some (result, rest)) :
    rest.length < text.length := by
  induction text generalizing position weight distance with
  | nil => simp [readGroup?] at found
  | cons c tail inductionHypothesis =>
      simp only [readGroup?, Option.bind_eq_bind, Option.bind_eq_some_iff] at found
      obtain ⟨digit, _, found⟩ := found
      split at found
      · simp at found
      · split at found
        · simp only [Option.some.injEq, Prod.mk.injEq] at found
          simp [← found.2]
        · have shorter := inductionHypothesis found
          simp only [List.length_cons]
          omega

/-- Reads groups and inserts their characters; `point` and `position` say where the last one
was inserted. -/
def readGroups? (point position bias : Nat) (written text : List Char) : Option (List Char) :=
  match _found : readGroup? bias 36 1 0 text with
  | none => if text.isEmpty then some written else none
  | some (distance, rest) =>
      let count := written.length + 1
      let reached := position + distance
      let target := point + reached / count
      let index := reached % count
      if target.isValidChar then
        let inserted := written.take index ++ Char.ofNat target :: written.drop index
        readGroups? target (index + 1) (adapt distance count (position == 0)) inserted rest
      else none
  termination_by text.length
  decreasing_by exact length_lt_of_readGroup? _found

/-- The text for which some ASCII characters stand: what precedes the last hyphen is taken as it
is, and the groups follow. -/
def decode? (text : List Char) : Option (List Char) :=
  let groups := (text.reverse.takeWhile (· != '-')).reverse
  let basic := (text.take (text.length - groups.length)).dropLast
  if text.all (·.toNat < 128) then readGroups? 128 0 72 basic groups else none

end TypedEnv.Domain.Punycode
