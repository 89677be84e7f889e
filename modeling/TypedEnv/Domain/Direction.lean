import TypedEnv.Text.Table

/-!
# Writing direction

A domain name with a right-to-left character is only accepted when every one
of its labels can be read in one direction: the first character decides the
direction, and the rest of the label must not disturb it.
-/

namespace TypedEnv.Domain

/-- What a character does to the direction of the text around it. -/
inductive Direction where
  | left
  | right
  | arabicLetter
  | arabicNumber
  | europeanNumber
  | europeanSeparator
  | commonSeparator
  | europeanTerminator
  | boundaryNeutral
  | otherNeutral
  | nonspacingMark
  | separator
  deriving DecidableEq

/-- The directions in the order in which the table numbers them. -/
def Direction.ofIndex : Nat → Direction
  | 0 => .left
  | 1 => .right
  | 2 => .arabicLetter
  | 3 => .arabicNumber
  | 4 => .europeanNumber
  | 5 => .europeanSeparator
  | 6 => .commonSeparator
  | 7 => .europeanTerminator
  | 8 => .boundaryNeutral
  | 9 => .otherNeutral
  | 10 => .nonspacingMark
  | _ => .separator

/-- Reads where each direction begins, as the distance from the one before and its number. -/
def readDirections (start : Nat) : List Int → List (Nat × Direction)
  | gap :: index :: rest =>
      let first := start + gap.toNat
      (first, .ofIndex index.toNat) :: readDirections first rest
  | _ => []

/-- The first characters of the blocks of valid characters with one direction. -/
def directionBlocks : List (Nat × Direction) := readDirections 0 <| Text.numbers
  ["0 8 9 11 5 8 14 11 5 9 2 7 3 9 5 5 1 6 1 5 1 6 2 4 10 6 1 9 6 0 26 9 6 0 26 9 4 8 34 9 1",
   "7 4 9 10 7 6 9 41 0 24 9 1 0 449 9 2 0 7 9 14 0 2 9 28 0 1 9 17 10 113 0 4 9 2 0 127 9 2",
   "0 139 10 8 0 255 9 5 7 2 10 45 1 1 10 1 1 1 10 2 1 1 10 2 1 1 10 9 1 54 9 2 2 1 7 2 2 1",
   "6 1 2 1 9 2 10 11 2 48 10 21 3 10 7 1 3 2 2 3 10 1 2 101 10 8 9 1 10 6 2 2 10 2 9 1 10 4",
   "2 2 4 10 2 23 10 1 2 30 10 29 2 89 10 11 2 15 1 43 10 9 1 2 9 4 1 3 10 1 1 24 10 4 1 1",
   "10 9 1 1 10 3 1 1 10 7 1 41 10 5 1 2 2 47 1 9 10 8 2 42 10 57 0 55 10 1 0 1 10 1 0 4 10",
   "8 0 4 10 1 0 3 10 15 0 2 10 2 0 29 10 1 0 58 10 1 0 4 10 6 0 6 10 1 0 20 10 4 0 12 7 2 0",
   "7 7 1 0 2 10 5 0 57 10 2 0 3 10 27 0 20 10 2 0 3 10 1 0 11 10 2 0 57 10 1 0 4 10 8 0 4",
   "10 3 0 18 10 4 0 11 7 8 0 1 10 8 0 58 10 1 0 2 10 1 0 1 10 6 0 6 10 10 0 11 10 4 0 28 10",
   "1 0 61 10 1 0 12 10 3 0 35 9 6 7 1 9 6 10 1 0 3 10 1 0 55 10 1 0 1 10 3 0 5 10 18 0 10",
   "10 4 0 18 9 7 0 2 10 1 0 58 10 1 0 15 10 9 0 13 10 4 0 26 10 2 0 57 10 2 0 4 10 5 0 7 10",
   "1 0 20 10 4 0 27 10 1 0 72 10 5 0 3 10 6 0 89 10 1 0 2 10 11 7 1 0 7 10 8 0 98 10 1 0 2",
   "10 9 0 11 10 8 0 72 10 2 0 27 10 1 0 1 10 1 0 1 10 1 9 4 0 51 10 14 0 1 10 5 0 1 10 2 0",
   "5 10 49 0 8 10 1 0 102 10 4 0 1 10 6 0 1 10 2 0 2 10 2 0 25 10 2 0 4 10 3 0 16 10 4 0 13",
   "10 1 0 2 10 2 0 6 10 1 0 15 10 1 0 703 10 3 0 48 9 16 0 96 9 1 0 666 9 5 0 114 10 3 0 29",
   "10 2 0 30 10 14 0 18 10 14 0 55 10 7 0 8 10 1 0 2 10 11 0 7 7 1 0 1 10 3 0 16 9 32 0 117",
   "10 2 0 34 10 1 0 118 10 3 0 4 10 2 0 9 10 1 0 6 10 7 9 6 0 152 9 34 0 23 10 2 0 2 10 3 0",
   "56 10 1 0 1 10 9 0 1 10 1 0 2 10 8 0 6 10 13 0 48 10 31 0 49 10 4 0 48 10 1 0 1 10 5 0 1",
   "10 1 0 5 10 1 0 40 10 9 0 12 10 2 0 32 10 4 0 2 10 2 0 1 10 3 0 56 10 1 0 1 10 2 0 3 10",
   "1 0 1 10 3 0 58 10 8 0 2 10 5 0 149 10 3 0 1 10 13 0 1 10 7 0 4 10 1 0 6 10 1 0 3 10 2 0",
   "198 10 65 0 523 8 4 9 32 7 5 9 15 6 1 9 91 7 33 0 15 10 52 9 42 7 12 9 20 0 60 9 136 5 1",
   "7 1 9 290 0 69 9 26 0 1 9 145 0 25 9 620 0 1 9 339 0 256 9 662 0 1 9 153 0 181 9 7 0 3",
   "10 4 0 6 9 7 0 127 10 1 0 96 10 32 9 517 0 3 9 25 0 9 10 4 0 2 9 1 0 6 9 4 0 2 9 4 0 88",
   "10 4 0 3 9 1 0 90 9 1 0 196 9 36 0 7132 9 64 0 22160 9 64 0 317 9 3 0 95 10 4 9 1 10 10",
   "9 3 0 29 10 2 0 80 10 2 0 14 9 35 0 101 9 1 0 121 10 1 0 3 10 1 0 4 10 1 0 25 10 2 0 1 9",
   "4 10 4 0 8 7 8 0 52 9 12 0 68 10 10 0 18 10 18 0 13 10 1 0 38 10 8 0 25 10 11 0 46 10 3",
   "0 48 10 1 0 2 10 4 0 2 10 2 0 39 10 1 0 67 10 6 0 2 10 2 0 2 10 11 0 3 10 1 0 8 10 1 0",
   "47 10 1 0 51 10 1 0 1 10 3 0 2 10 2 0 5 10 2 0 1 10 1 0 42 10 2 0 8 10 11 0 105 9 86 0",
   "37 10 1 0 2 10 1 0 4 10 3 0 20270 10 148 2 17 0 379 9 82 0 63 9 81 10 37 9 46 2 397 0",
   "257 9 1 0 62 9 77 0 3 9 64 0 45 10 131 0 96 10 1 4 31 0 118 10 10 0 1152 1 287 9 1 1 225",
   "10 15 1 40 10 8 1 165 10 6 1 78 9 7 1 448 2 36 10 12 3 16 1 288 3 32 1 43 10 2 1 80 10 3",
   "1 48 2 22 10 11 2 31 1 18 10 4 1 122 0 1 10 1 0 54 10 15 0 11 9 20 0 10 10 1 0 2 10 2 0",
   "10 10 3 0 49 10 4 0 2 10 2 0 7 10 14 0 48 10 3 0 36 10 5 0 1 10 9 0 61 10 1 0 12 10 2 0",
   "52 10 9 0 10 10 4 0 2 10 1 0 95 10 3 0 2 10 1 0 1 10 2 0 6 10 1 0 2 10 63 0 95 10 1 0 3",
   "10 13 0 16 10 2 0 57 10 2 0 3 10 1 0 37 10 26 0 184 10 8 0 2 10 3 0 1 10 1 0 23 10 1 0",
   "84 10 6 0 1 10 1 0 4 10 2 0 1 10 2 0 238 10 6 0 4 10 2 0 1 10 2 0 27 10 36 0 51 10 8 0 2",
   "10 1 0 1 10 2 0 31 9 32 0 43 10 1 0 1 10 1 0 2 10 6 0 1 10 1 0 101 10 3 0 2 10 4 0 1 10",
   "9 0 255 10 9 0 1 10 2 0 256 10 2 0 1 10 1 0 4 10 1 0 144 10 8 0 4 10 1 0 32 10 6 0 2 10",
   "2 0 40 10 6 0 2 10 4 0 8 10 9 0 1 10 6 0 2 10 3 0 46 10 13 0 1 10 2 0 406 10 14 0 84 10",
   "23 0 1 10 7 0 1 10 2 0 1 10 75 0 49 10 21 0 1 10 9 0 64 10 3 0 2 10 1 0 1 10 1 0 347 10",
   "2 0 11 10 2 0 52 10 8 0 2 10 1 0 1 10 1 0 146 9 8 7 4 9 30 0 5185 10 1 0 6 10 25 0 13968",
   "10 5 0 59 10 7 0 1048 10 1 0 63 10 4 0 79 9 1 0 1 10 12 0 19629 10 2 0 4705 10 80 0 535",
   "10 3 0 17 10 8 0 2 10 7 0 30 10 4 0 59 9 89 10 3 9 123 0 64 9 96 0 1696 10 55 0 4 10 50",
   "0 8 10 1 0 14 10 1 0 22 10 1125 0 256 10 256 0 48 10 7 0 375 10 18 0 44 10 4 0 15 7 465",
   "0 28 10 4 0 784 1 208 10 82 1 34 10 7 1 806 2 639 9 608 0 29 9 3 0 61 9 57 0 122 9 1144",
   "0 4 9 155 0 4 9 311 0 78 9 340 0 12 9 41 0 7 9 46 0 1 9 7 0 8 9 14 0 4 9 9 0 7 9 219 0"]

def directionOf (c : Char) : Direction :=
  match (directionBlocks.takeWhile (·.1 ≤ c.toNat)).getLast? with
  | some entry => entry.2
  | none => .separator

def isRightToLeft (c : Char) : Bool :=
  match directionOf c with
  | .right | .arabicLetter | .arabicNumber => true
  | _ => false

/-- The directions allowed in a label that is read from left to right. -/
def Direction.fitsLeft : Direction → Bool
  | .right | .arabicLetter | .arabicNumber | .separator => false
  | _ => true

/-- The directions allowed in a label that is read from right to left. -/
def Direction.fitsRight : Direction → Bool
  | .left | .separator => false
  | _ => true

/-- Whether a label can be read in the direction of its first character. -/
def isDirected (label : List Char) : Bool :=
  let directions := label.map directionOf
  let last? := (directions.reverse.dropWhile (· = .nonspacingMark)).head?
  match directions.head? with
  | none => true
  | some .left =>
      directions.all Direction.fitsLeft && (last? == some .left || last? == some .europeanNumber)
  | some .right | some .arabicLetter =>
      directions.all Direction.fitsRight &&
        [some .right, some .arabicLetter, some .europeanNumber,
          some Direction.arabicNumber].contains last? &&
        !(directions.contains .europeanNumber && directions.contains .arabicNumber)
  | some _ => false

end TypedEnv.Domain
