import TypedEnv.Source.Path

/-!
# Source syntax

The types, expressions, statements and items of which configuration modules
are made.
-/

namespace TypedEnv.Source

/-- A type: a path, of which the last segment may have types as arguments, a reference, or any
type with a given trait. -/
inductive TypeExpr where
  | path (path : Path) (arguments : List TypeExpr)
  | reference (mutable : Bool) (target : TypeExpr)
  | dynamic (bound : TypeExpr)

inductive Expr where
  | path (path : Path)
  | literal (text : String)
  | negative (operand : Expr)
  | reference (mutable : Bool) (target : Expr)
  | call (function : Expr) (arguments : List Expr)
  | method (receiver : Expr) (name : Identifier) (arguments : List Expr)
  | field (base : Expr) (name : Identifier)
  /-- The value of an operation, or the end of the function with its error. -/
  | attempt (operation : Expr)
  | equal (left right : Expr)
  | record (name : Identifier) (fields : List (Identifier × Expr))
  /-- A list made by the macro at a path from calls of one function with a literal each. -/
  | list (maker : Path) (function : Path) (items : List String)

inductive Stmt where
  | bind (name : Identifier) (value : Expr)
  | perform (value : Expr)
  | return (value : Expr)
  /-- An expression that is the value of the block it ends. -/
  | result (value : Expr)
  | when (condition : Expr) (body : List Stmt)

inductive Item where
  | imports (visible : Bool) (path : Path) (names : List Identifier)
  | constant (visible : Bool) (name : Identifier) (type : TypeExpr) (value : Expr)
  | record (derives : List String) (visible : Bool) (name : Identifier)
      (fields : List (Bool × Identifier × TypeExpr))
  /-- A structure that has no fields and no place for any. -/
  | unit (derives : List String) (visible : Bool) (name : Identifier)
  | function (documentation : List String) (visible : Bool) (name : Identifier)
      (parameters : List (Identifier × TypeExpr)) (result : Option TypeExpr) (body : List Stmt)

/-- A path of identifiers without arguments. -/
def Path.ofNames (absolute : Bool) (names : List String) : Path :=
  ⟨absolute, names.map fun name => ⟨.plain name, []⟩⟩

def Path.extend (path : Path) (names : List String) : Path :=
  { path with segments := path.segments ++ names.map fun name => ⟨.plain name, []⟩ }

/-- A type without arguments. -/
def TypeExpr.named (name : Identifier) : TypeExpr :=
  .path ⟨false, [⟨name, []⟩]⟩ []

def Expr.name (name : Identifier) : Expr :=
  .path ⟨false, [⟨name, []⟩]⟩

end TypedEnv.Source
