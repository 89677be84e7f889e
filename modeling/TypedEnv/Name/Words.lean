import TypedEnv.Text.Alphabet
import TypedEnv.Text.LetterCase

/-!
# Words of a name

A name is cut into words at everything that is neither letter nor number, and
where its letter case shows that a word begins: before an upper case letter
that follows a lower case one, and before the last of several upper case
letters when a lower case one follows.  `HTTPServer` has the words `HTTP` and
`Server`.
-/

namespace TypedEnv.Name

/-- The letter case of the word so far; characters without case do not change it. -/
inductive CaseMode where
  | unknown
  | lower
  | upper
  deriving DecidableEq

def CaseMode.next (mode : CaseMode) (c : Char) : CaseMode :=
  if Text.isLowercase c then .lower else if Text.isUppercase c then .upper else mode

/-- Cuts a text without separators into words; `current` is the word so far, in reverse. -/
def cutWords (mode : CaseMode) (current : List Char) : List Char → List (List Char)
  | [] => []
  | [c] => [(c :: current).reverse]
  | c :: following :: rest =>
      if mode.next c = .lower ∧ Text.isUppercase following then
        (c :: current).reverse :: cutWords .unknown [] (following :: rest)
      else if mode = .upper ∧ Text.isUppercase c ∧ Text.isLowercase following then
        current.reverse :: cutWords .unknown [c] (following :: rest)
      else cutWords (mode.next c) (c :: current) (following :: rest)

def words (name : List Char) : List (List Char) :=
  (name.splitOnP fun c => !Text.isAlphanumeric c).flatMap (cutWords .unknown [])

end TypedEnv.Name
