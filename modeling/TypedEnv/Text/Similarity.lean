/-!
# Similar words

Two words are similar when most of their characters agree in about the same
place and order.  `Text.similarity` measures this by a fraction between zero
and one, which is one for equal words that are not empty.
-/

namespace TypedEnv.Text

structure Fraction where
  numerator : Nat
  denominator : Nat
  deriving DecidableEq

def Fraction.exceeds (first second : Fraction) : Bool :=
  second.numerator * first.denominator < first.numerator * second.denominator

/-- Pairs characters, which begin at a position, with equal characters no further away than
`reach`.  Every character takes the first of those in `free` that can be had; the result has the
characters that found one, each with its place in the other word. -/
def pairUp (reach position : Nat) (free : List (Char × Nat)) : List Char → List (Char × Nat)
  | [] => []
  | c :: rest =>
      let near := fun place => position ≤ place + reach && place ≤ position + reach
      match free.find? fun candidate => candidate.1 == c && near candidate.2 with
      | none => pairUp reach (position + 1) free rest
      | some found => found :: pairUp reach (position + 1) (free.erase found) rest

/-- The similarity of two words: the mean of the share of paired characters in the first word,
that in the second, and the share of pairs that keep the order, where two displaced characters
count as one exchange. -/
def similarity (first second : List Char) : Fraction :=
  let reach := max first.length second.length / 2 - 1
  let pairs := pairUp reach 0 second.zipIdx first
  let inOrder := second.zipIdx.filter pairs.contains
  let displaced := (pairs.zip inOrder).countP fun pair => pair.1.1 != pair.2.1
  let count := pairs.length
  if count = 0 then ⟨0, 1⟩
  else
    let (firstLength, secondLength) := (first.length, second.length)
    ⟨count * count * secondLength + count * count * firstLength +
      (count - displaced / 2) * firstLength * secondLength,
      3 * count * firstLength * secondLength⟩

/-- The last of the most similar words, if it is more similar than `bound`. -/
def mostSimilar? {α : Type} (bound : Fraction) (spelling : α → List Char) (word : List Char) :
    List α → Option α
  | [] => none
  | candidate :: rest =>
      let likeness := similarity word (spelling candidate)
      if likeness.exceeds bound then
        (mostSimilar? bound spelling word rest).elim (some candidate) fun better =>
          if likeness.exceeds (similarity word (spelling better)) then some candidate
          else some better
      else mostSimilar? bound spelling word rest

end TypedEnv.Text
