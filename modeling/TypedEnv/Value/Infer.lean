import TypedEnv.Decimal.Integer
import TypedEnv.Text.Quoted
import TypedEnv.Url.Reader
import TypedEnv.Value.Basic

/-!
# Reading values

`parseAs` reads a text by the rule of one kind.  `infer` tries the kinds in a
fixed order and keeps the first that fits: integers before floats, so that
whole numbers stay whole, and addresses only when the text contains `://`, so
that a text such as `12:30` stays a string.
-/

namespace TypedEnv

/-- Why a text has no value of a kind. -/
inductive Mismatch where
  | notInt
  | notUint
  | notFloat
  | notBool
  | notDuration
  | missingScheme
  | badUrl (cause : Url.UrlError)
  deriving DecidableEq

def Mismatch.kind : Mismatch → Kind
  | .notInt => .int
  | .notUint => .uint
  | .notFloat => .float
  | .notBool => .bool
  | .notDuration => .duration
  | .missingScheme => .url
  | .badUrl _ => .url

def Mismatch.message : Mismatch → String
  | .notInt => "not a signed 64-bit integer"
  | .notUint => "not an unsigned 64-bit integer"
  | .notFloat => "not a 64-bit float"
  | .notBool => "not a boolean"
  | .notDuration => "expected spans such as 1h30m or 250ms"
  | .missingScheme => "missing scheme separator \x60://\x60"
  | .badUrl cause => cause.message

/-- A text that could not be read, with the reason. -/
structure InferError where
  text : String
  reason : Mismatch
  deriving DecidableEq

def InferError.message (error : InferError) : String :=
  s!"invalid {error.reason.kind.label} value {Text.quoted error.text}: " ++ error.reason.message

def bool? (text : String) : Option Bool :=
  if ["1", "t", "T", "TRUE", "true", "True"].contains text then some true
  else if ["0", "f", "F", "FALSE", "false", "False"].contains text then some false
  else none

/-- Whether a text contains what separates a scheme from an authority. -/
def hasSchemeMark : List Char → Bool
  | [] => false
  | c :: rest => [':', '/', '/'].isPrefixOf (c :: rest) || hasSchemeMark rest

def parseUrl (text : String) : Except InferError Value :=
  match Url.read text.toList with
  | .ok address => .ok (.url (some address))
  | .error cause => .error ⟨text, .badUrl cause⟩

/-- The value that was found, or an error with the given reason. -/
def valueOr (text : String) (reason : Mismatch) : Option Value → Outcome InferError Value
  | some value => .ok value
  | none => .error (.error ⟨text, reason⟩)

def parseAs (kind : Kind) (text : String) : Outcome InferError Value :=
  match kind with
  | .int => valueOr text .notInt ((Decimal.int64? text.toList).map .int)
  | .uint => valueOr text .notUint ((Decimal.uint64? text.toList).map .uint)
  | .float => valueOr text .notFloat ((Decimal.Binary64.ofText? text.toList).map .float)
  | .bool => valueOr text .notBool ((bool? text).map .bool)
  | .duration => do
      let span? ← Outcome.ofAbort (Duration.read? text.toList)
      valueOr text .notDuration (span?.map .duration)
  | .url =>
      if text.isEmpty then .ok (.url none)
      else if hasSchemeMark text.toList then .ofError (parseUrl text)
      else .error (.error ⟨text, .missingScheme⟩)
  | .string => .ok (.string text)
  | .stringList => .ok (.stringList ((text.toList.splitOn ',').map String.ofList))

/-- The value of the first kind before durations that fits a text. -/
def inferNumber? (text : String) : Option Value :=
  (((Decimal.int64? text.toList).map Value.int).or
    ((Decimal.uint64? text.toList).map .uint)).or
      (((Decimal.Binary64.ofText? text.toList).map .float).or ((bool? text).map .bool))

/-- The value of the first kind that fits a text; the empty text is a string. -/
def infer (text : String) : Outcome InferError Value :=
  if text.isEmpty then .ok (.string text)
  else
    match inferNumber? text with
    | some value => .ok value
    | none =>
        match Duration.read? text.toList with
        | .error reason => .error (.abort reason)
        | .ok (some span) => .ok (.duration span)
        | .ok none =>
            if hasSchemeMark text.toList then .ofError (parseUrl text)
            else .ok (.string text)

end TypedEnv
