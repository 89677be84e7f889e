import TypedEnv.Decimal.Shortest
import TypedEnv.Duration.Render
import TypedEnv.Url.Basic

/-!
# Values

A variable holds a value of one of eight kinds.  `Value.render` writes a value
as text, and `Value.isEmpty` tells whether it is the one that counts as not
set.
-/

namespace TypedEnv

/-- The kinds of values. -/
inductive Kind where
  | int
  | uint
  | float
  | bool
  | duration
  | url
  | string
  | stringList
  deriving DecidableEq

def Kind.label : Kind → String
  | .int => "int"
  | .uint => "uint"
  | .float => "float"
  | .bool => "bool"
  | .duration => "duration"
  | .url => "url"
  | .string => "string"
  | .stringList => "string list"

/-- A value; an address may be missing. -/
inductive Value where
  | int (number : Int64)
  | uint (number : UInt64)
  | float (number : Decimal.Binary64)
  | bool (truth : Bool)
  | duration (span : Duration)
  | url (address : Option Url)
  | string (text : String)
  | stringList (items : List String)
  deriving DecidableEq

namespace Value

def kind : Value → Kind
  | .int _ => .int
  | .uint _ => .uint
  | .float _ => .float
  | .bool _ => .bool
  | .duration _ => .duration
  | .url _ => .url
  | .string _ => .string
  | .stringList _ => .stringList

/-- Whether a value counts as not set; a truth value never does. -/
def isEmpty : Value → Bool
  | .int number => number == 0
  | .uint number => number == 0
  | .float number => number.isZero
  | .bool _ => false
  | .duration span => span.isZero
  | .url address => address.isNone
  | .string text => text.isEmpty
  | .stringList items => items.isEmpty

def boolText (truth : Bool) : String :=
  if truth then "true" else "false"

/-- A value as text.  A float always shows that it is none of the integers. -/
def render : Value → String
  | .int number => Decimal.intText number.toInt
  | .uint number => Decimal.natText number.toNat
  | .float number => number.render
  | .bool truth => boolText truth
  | .duration span => span.render
  | .url none => ""
  | .url (some address) => address.render
  | .string text => text
  | .stringList items => String.intercalate "," items

def int? : Value → Option Int64
  | .int number => some number
  | _ => none

/-- The number of an unsigned value, or of a signed one that is not negative. -/
def uint? : Value → Option UInt64
  | .uint number => some number
  | .int number => if 0 ≤ number then some number.toUInt64 else none
  | _ => none

def float? : Value → Option Decimal.Binary64
  | .float number => some number
  | _ => none

def bool? : Value → Option Bool
  | .bool truth => some truth
  | _ => none

def duration? : Value → Option Duration
  | .duration span => some span
  | _ => none

/-- The address of a value, if it has one. -/
def url? : Value → Option Url
  | .url address => address
  | _ => none

def string? : Value → Option String
  | .string text => some text
  | _ => none

end Value

end TypedEnv
