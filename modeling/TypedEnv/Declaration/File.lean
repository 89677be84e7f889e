import TypedEnv.Declaration.Line
import TypedEnv.Diagnostic
import TypedEnv.Registry.Basic

/-!
# Declaration files

A declaration file declares at most one variable a line, and none twice.
`readRaw` keeps the texts of the values, `readTyped` infers their values;
`Registry.registerAll` declares the variables in a registry.
-/

namespace TypedEnv

/-- A declared variable with the line that declares it. -/
structure Declaration where
  name : String
  raw : String
  value : Value
  line : Nat
  deriving DecidableEq

namespace Declaration

/-- A line that a line break ends, without the carriage return that belongs to the break. -/
def closedLine (line : List Char) : List Char :=
  if line.getLast? = some '\r' then line.dropLast else line

/-- The lines of a text.  A line break at the end of the text begins no further line, and without
one the last line keeps a carriage return. -/
def lines (text : List Char) : List (List Char) :=
  let parts := text.splitOn '\n'
  parts.dropLast.map closedLine ++ parts.getLast?.toList.filter (!·.isEmpty)

/-- What a single line declares: a name and the text of its value, or nothing. -/
def readLine (line : String) : Except Diagnostic (Option (String × String)) :=
  match LineContent.read line.toList with
  | .declares name value => .ok (some (String.ofList name, String.ofList value))
  | .nothing => .ok none
  | .malformed => .error (.ofCause (.format line))

/-- A name and the text of its value, with the number of the line. -/
structure RawDeclaration where
  name : String
  raw : String
  line : Nat
  deriving DecidableEq

/-- Reads lines from a given number on.  The names in `seen` were declared before, and `accept`
says what is made of a declaration. -/
def readLines {α : Type} (accept : RawDeclaration → Outcome Diagnostic α) (seen : List String)
    (number : Nat) : List (List Char) → Outcome Diagnostic (List α)
  | [] => .ok []
  | line :: rest =>
      match LineContent.read line with
      | .nothing => readLines accept seen (number + 1) rest
      | .malformed => .error (.error (.atLine number (.format (String.ofList line))))
      | .declares name value =>
          let name := String.ofList name
          if seen.contains name then .error (.error (.atLine number (.duplicate name)))
          else do
            let accepted ← accept ⟨name, String.ofList value, number⟩
            let others ← readLines accept (name :: seen) (number + 1) rest
            return accepted :: others

def ofRaw (declaration : RawDeclaration) : Outcome Diagnostic Declaration :=
  ((infer declaration.raw).mapCause fun error =>
      .atLine declaration.line (.infer error)).map fun value =>
    ⟨declaration.name, declaration.raw, value, declaration.line⟩

def readTyped (text : String) : Outcome Diagnostic (List Declaration) :=
  readLines ofRaw [] 1 (lines text.toList)

def readRaw (text : String) : Outcome Diagnostic (List RawDeclaration) :=
  readLines (fun declaration => .ok declaration) [] 1 (lines text.toList)

end Declaration

namespace Registry

/-- Declares variables in order, up to the first whose name is taken. -/
def registerAll (registry : Registry) :
    List Declaration → Registry × Except Abort (List Handle)
  | [] => (registry, .ok [])
  | declaration :: rest =>
      match registry.declare declaration.name declaration.value with
      | .error reason => (registry, .error reason)
      | .ok registry =>
          let (registry, handles) := registerAll registry rest
          (registry, handles.map (⟨declaration.name, .any⟩ :: ·))

end Registry

end TypedEnv
