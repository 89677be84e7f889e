import TypedEnv.Name.Case

/-!
# Names for the parts of a configuration

The segments of a variable name become a field name each; sections also get
the name of a type, and variables the name of a constant.
-/

namespace TypedEnv.Name

/-- Why a segment has no field name. -/
inductive NameProblem where
  | noCharacters
  | leadingDigit (field : String)
  | notIdentifier (field : String)
  | reserved (field : String)
  deriving DecidableEq

def NameProblem.message : NameProblem → String
  | .noCharacters => "segment has no identifier characters"
  | .leadingDigit field => s!"\x60{field}\x60 starts with a digit"
  | .notIdentifier field => s!"\x60{field}\x60 is not a valid identifier"
  | .reserved field => s!"\x60{field}\x60 is a reserved word"

/-- The words that no spelling turns into an identifier. -/
def reservedWords : List String :=
  ["crate", "self", "Self", "super", "_"]

def problem? (field : List Char) : Option NameProblem :=
  let text := String.ofList field
  match field with
  | [] => some .noCharacters
  | first :: rest =>
      if first.isDigit then some (.leadingDigit text)
      else if !(first == '_' || Text.isAlphabetic first) then some (.notIdentifier text)
      else if !rest.all fun c => c == '_' || Text.isAlphanumeric c then some (.notIdentifier text)
      else if reservedWords.contains text then some (.reserved text)
      else none

def fieldName (segment : String) : Except NameProblem String :=
  let field := snake segment.toList
  match problem? field with
  | some problem => .error problem
  | none => .ok (String.ofList field)

/-- The name of the type of the section that is reached through some segments. -/
def typeName (segments : List String) : String :=
  String.ofList (segments.flatMap fun segment => camel segment.toList)

/-- The name of the constant for the variable at a path of fields. -/
def constName (path : List String) : String :=
  String.ofList (shouting (String.intercalate "_" path).toList) ++ "_ENV_NAME"

end TypedEnv.Name
