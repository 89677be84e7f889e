import TypedEnv.Name.Words

/-!
# Spellings of a name

The words of a name can be written in lower case with underscores, in upper
case with underscores, or joined with a capital each.  `normalize` is another
spelling, which looks only at underscores.
-/

namespace TypedEnv.Name

/-- A word in lower case; a sigma at its end has a form of its own. -/
def lowerWord : List Char → List Char
  | [] => []
  | ['Σ'] => ['ς']
  | c :: rest => Text.toLowercase c ++ lowerWord rest

def upperWord (word : List Char) : List Char :=
  word.flatMap Text.toUppercase

def capitalWord : List Char → List Char
  | [] => []
  | c :: rest => Text.toUppercase c ++ lowerWord rest

/-- A name in lower case, its words joined by underscores. -/
def snake (name : List Char) : List Char :=
  (((words name).map lowerWord).intersperse ['_']).flatten

/-- A name in upper case, its words joined by underscores. -/
def shouting (name : List Char) : List Char :=
  (((words name).map upperWord).intersperse ['_']).flatten

/-- A name with its words joined and a capital on each. -/
def camel (name : List Char) : List Char :=
  (words name).flatMap capitalWord

/-- A name without its underscores and in lower case, except for a capital after each
underscore and, when `capital` is set, at the beginning. -/
def normalizeChars (capital : Bool) : List Char → List Char
  | [] => []
  | c :: rest =>
      if c == '_' then normalizeChars true rest
      else
        (if capital then Text.toUppercase c else Text.toLowercase c) ++ normalizeChars false rest

def normalize (capital : Bool) (name : String) : String :=
  String.ofList (normalizeChars capital name.toList)

end TypedEnv.Name
