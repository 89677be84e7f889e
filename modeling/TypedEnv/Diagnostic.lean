import TypedEnv.Decimal.Digits
import TypedEnv.Name.Segment
import TypedEnv.Source.Path
import TypedEnv.Value.Infer

/-!
# Diagnostics

What is wrong with a declaration file or with the module made from it, and
where: a diagnostic has a cause and may name a source and a line.
-/

namespace TypedEnv

/-- Why a file cannot be read or written. -/
inductive FileError where
  | missing
  | directory
  | notDirectory
  | notText
  | other (description : String)
  deriving DecidableEq

def FileError.message : FileError → String
  | .missing => "No such file or directory (os error 2)"
  | .directory => "Is a directory (os error 21)"
  | .notDirectory => "Not a directory (os error 20)"
  | .notText => "stream did not contain valid UTF-8"
  | .other description => description

/-- Why a name cannot be used. -/
inductive InvalidName where
  | emptySegment
  | badSegment (problem : Name.NameProblem)
  | notPath (problem : Source.SyntaxProblem)
  | notTypeName (problem : Source.SyntaxProblem)
  deriving DecidableEq

def InvalidName.message : InvalidName → String
  | .emptySegment => "empty name segment"
  | .badSegment problem => problem.message
  | .notPath problem => s!"not a crate path: {problem.message}"
  | .notTypeName problem => s!"not a struct name: {problem.message}"

/-- Why two names cannot be used together. -/
inductive Clash where
  /-- Two variables would share a constant. -/
  | constant (taken owner : String)
  /-- Two sections, given by their paths, would share a type. -/
  | sectionType (path owner typeName : String)
  /-- A section is a variable already. -/
  | variableAtPath (path owner : String)
  | field (taken owner : String)
  /-- A variable is a section already. -/
  | sectionField (taken : String)
  /-- The type of the whole configuration hides an imported name. -/
  | rootImport
  /-- The type of a section is the type of the whole configuration or an imported name. -/
  | reservedType (typeName : String)
  deriving DecidableEq

def Clash.message : Clash → String
  | .constant taken owner => s!"constant {taken} is already used by {owner}"
  | .sectionType path owner typeName =>
      s!"section \x60{path}\x60 and section \x60{owner}\x60 both map to struct {typeName}"
  | .variableAtPath path owner => s!"\x60{path}\x60 is already a variable ({owner})"
  | .field taken owner => s!"field \x60{taken}\x60 is already declared by {owner}"
  | .sectionField taken => s!"\x60{taken}\x60 is already a section"
  | .rootImport => "root struct shadows a runtime import"
  | .reservedType typeName =>
      s!"section struct {typeName} clashes with the root struct or a runtime import"

/-- The cause of a diagnostic. -/
inductive Cause where
  | format (line : String)
  | duplicate (name : String)
  | infer (error : InferError)
  | invalidName (name : String) (reason : InvalidName)
  | conflict (name : String) (clash : Clash)
  | render (problem : Source.SyntaxProblem) (raw : String)
  | io (error : FileError)
  deriving DecidableEq

namespace Cause

def message : Cause → String
  | .format line => s!"line \x60{line}\x60 doesn't match format"
  | .duplicate name => s!"variable {name} is declared more than once"
  | .infer error => error.message
  | .invalidName name reason => s!"invalid variable name {name}: {reason.message}"
  | .conflict name clash => s!"{name} conflicts with another declaration: {clash.message}"
  | .render problem _ => s!"generated code is not valid Rust: {problem.message}"
  | .io error => s!"io error: {error.message}"

/-- The description of the error behind a cause, if there is one. -/
def inner? : Cause → Option String
  | .infer error => some error.message
  | .io error => some error.message
  | _ => none

def raw? : Cause → Option String
  | .render _ raw => some raw
  | _ => none

end Cause

/-- A cause with the place where it was found. -/
structure Diagnostic where
  source : Option String
  line : Option Nat
  cause : Cause
  deriving DecidableEq

namespace Diagnostic

def ofCause (cause : Cause) : Diagnostic :=
  ⟨none, none, cause⟩

def atLine (line : Nat) (cause : Cause) : Diagnostic :=
  ⟨none, some line, cause⟩

def inSource (source : String) (diagnostic : Diagnostic) : Diagnostic :=
  { diagnostic with source := some source }

/-- The place of a diagnostic as it begins its text. -/
def head (diagnostic : Diagnostic) : String :=
  match diagnostic.source, diagnostic.line with
  | some source, some line => s!"{source}:{Decimal.natText line}: "
  | some source, none => s!"{source}: "
  | none, some line => s!"line {Decimal.natText line}: "
  | none, none => ""

def message (diagnostic : Diagnostic) : String :=
  diagnostic.head ++ diagnostic.cause.message

end Diagnostic

end TypedEnv
