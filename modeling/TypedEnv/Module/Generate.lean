import TypedEnv.Module.Items
import TypedEnv.Module.Synthesis
import TypedEnv.Storage

/-!
# From declarations to the text of a module

`Module.generate` makes the text of the module for some declarations, and
`Module.generateFile` that for a declaration file in a storage.
-/

namespace TypedEnv.Module

def ofDeclarations (declarations : List Declaration) (front : Option String)
    (options : Options) : Outcome Diagnostic Module := do
  let forest ← .ofError (Config.Forest.build declarations front)
  synthesize forest options

/-- The text of the module for some declarations. -/
def generate (declarations : List Declaration) (front : Option String) (options : Options) :
    Outcome Diagnostic String := do
  let module ← ofDeclarations declarations front options
  .ofError module.render

/-- The text of the module for a declaration file, from its path and its text, if that could be
read. -/
def generateFrom (path : String) (text : Except FileError String) (front : Option String)
    (options : Options) : Outcome Diagnostic String := do
  let declarations ← Declaration.readFile path text Declaration.readTyped
  (generate declarations front options).mapCause (·.inSource path)

def generateFile (storage : Storage) (path : String) (front : Option String)
    (options : Options) : Outcome Diagnostic String :=
  generateFrom path (storage.readText path) front options

end TypedEnv.Module
