/-!
# Blank characters

Blanks are the characters with the White_Space property of Unicode.  They
separate the parts of a declaration line and of a duration, and are trimmed
from the end of an unquoted value.  A zero-width space is no blank.
-/

namespace TypedEnv.Text

/-- Whether a character has the White_Space property. -/
def isBlank (c : Char) : Bool :=
  let point := c.toNat
  (9 ≤ point && point ≤ 13) || point == 0x20 || point == 0x85 || point == 0xA0 ||
    point == 0x1680 || (0x2000 ≤ point && point ≤ 0x200A) || point == 0x2028 ||
    point == 0x2029 || point == 0x202F || point == 0x205F || point == 0x3000

/-- A text without its leading blanks. -/
def trimStart (text : List Char) : List Char :=
  text.dropWhile isBlank

/-- A text without its trailing blanks. -/
def trimEnd (text : List Char) : List Char :=
  (text.reverse.dropWhile isBlank).reverse

/-- The leading blanks of a text are followed by what `trimStart` keeps. -/
theorem takeWhile_append_trimStart (text : List Char) :
    text.takeWhile isBlank ++ trimStart text = text :=
  List.takeWhile_append_dropWhile

theorem trimStart_length_le (text : List Char) :
    (trimStart text).length ≤ text.length := by
  unfold trimStart
  induction text with
  | nil => simp
  | cons c rest ih =>
      simp only [List.dropWhile_cons]
      split
      · simp only [List.length_cons]; omega
      · simp

end TypedEnv.Text
