import TypedEnv.Decimal.Integer

/-!
# Character tables

Sets and maps of characters that a standard lists rather than describes.  A
set is kept as the sorted code points at which membership changes, a map as
runs of evenly spaced characters that all move by the same distance, together
with the characters that become several.  Both are written as rows of decimal
numbers, most of them distances from the number before.
-/

namespace TypedEnv.Text

/-- The numbers of some rows, in order. -/
def numbers (rows : List String) : List Int :=
  rows.flatMap fun row =>
    (row.toList.splitOn ' ').map fun word => (Decimal.literal? word).getD 0

/-- A set of characters, as the ascending code points at which membership changes. -/
structure CharSet where
  bounds : List Nat

namespace CharSet

/-- The sums of all leading parts of a list of distances. -/
def totals (start : Nat) : List Int → List Nat
  | [] => []
  | gap :: rest => (start + gap.toNat) :: totals (start + gap.toNat) rest

/-- The set whose bounds lie at the given distances from each other. -/
def ofGaps (rows : List String) : CharSet :=
  ⟨totals 0 (numbers rows)⟩

/-- A character is in the set when an odd number of bounds do not exceed it. -/
def contains (set : CharSet) (c : Char) : Bool :=
  (set.bounds.takeWhile (· ≤ c.toNat)).length % 2 == 1

end CharSet

/-- Characters `first`, `first + stride`, … that all move by the same distance. -/
structure Run where
  first : Nat
  count : Nat
  stride : Nat
  shift : Int

/-- The image of a code point under a run, if the run covers it. -/
def Run.image? (run : Run) (point : Nat) : Option Char :=
  if run.first ≤ point ∧ (point - run.first) % run.stride = 0 ∧
      (point - run.first) / run.stride < run.count then
    some (Char.ofNat (point + run.shift).toNat)
  else none

/-- A map from some characters to texts. -/
structure CharMap where
  runs : List Run
  expansions : List (Nat × List Char)

namespace CharMap

/-- Reads runs, each as the distance from the run before, its length, stride and shift. -/
def readRuns (start : Nat) : List Int → List Run
  | gap :: count :: stride :: shift :: rest =>
      let first := start + gap.toNat
      ⟨first, count.toNat, stride.toNat, shift⟩ :: readRuns first rest
  | _ => []

/-- Reads expansions, each as the distance from the one before, the number of characters and
the characters. -/
def readExpansions (start : Nat) (data : List Int) : List (Nat × List Char) :=
  match data with
  | gap :: count :: rest =>
      let point := start + gap.toNat
      (point, (rest.take count.toNat).map fun target => Char.ofNat target.toNat) ::
        readExpansions point (rest.drop count.toNat)
  | _ => []
  termination_by data.length
  decreasing_by simp only [List.length_drop, List.length_cons]; omega

/-- The map with the given rows of runs and of expansions. -/
def ofRows (runs expansions : List String) : CharMap :=
  ⟨readRuns 0 (numbers runs), readExpansions 0 (numbers expansions)⟩

/-- The image of a character, if the map has one for it. -/
def find? (map : CharMap) (c : Char) : Option (List Char) :=
  ((map.runs.findSome? (·.image? c.toNat)).map fun target => [target]).or
    (map.expansions.lookup c.toNat)

end CharMap

end TypedEnv.Text
