import TypedEnv.Domain.Mapping
import TypedEnv.Domain.Composition
import TypedEnv.Domain.Direction
import TypedEnv.Domain.Joining
import TypedEnv.Domain.Mark
import TypedEnv.Domain.Punycode

/-!
# Domain names

A domain name in any script is brought into its ASCII form: its characters
are mapped and composed, labels that already are in ASCII form are checked by
decoding them, and labels with other characters are encoded.  Domain names
with no valid ASCII form are refused.
-/

namespace TypedEnv.Domain

/-- What marks a label as the ASCII form of another one. -/
def asciiMark : List Char := "xn--".toList

def isAscii (label : List Char) : Bool :=
  label.all (·.toNat < 128)

/-- Whether a mapped label obeys the rules for single labels. -/
def isLabelValid (label : List Char) : Bool :=
  label.all (fun c => isValid c && !isDenied c && c != '.') &&
    !(label.head?.any isMark) && joinersAllowed [] label

/-- The label for which a label in ASCII form stands, or the label itself; nothing when the
ASCII form is not the one that the label has. -/
def decodeLabel? (label : List Char) : Option (List Char) :=
  if asciiMark.isPrefixOf label then do
    let decoded ← Punycode.decode? (label.drop asciiMark.length)
    if isAscii decoded || compose decoded != decoded then none else some decoded
  else some label

def encodeLabel (label : List Char) : List Char :=
  if isAscii label then label else asciiMark ++ Punycode.encode label

def toAscii? (name : List Char) : Option (List Char) := do
  let mapped ← mapText name
  let labels ← ((compose mapped).splitOn '.').mapM decodeLabel?
  let directed := labels.any (·.any isRightToLeft)
  if labels.all (fun label => isLabelValid label && (!directed || isDirected label)) then
    some ((labels.map encodeLabel).intersperse ['.']).flatten
  else none

end TypedEnv.Domain
