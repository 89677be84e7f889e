import TypedEnv.Diagnostic
import TypedEnv.Module.Basic
import TypedEnv.Source.Layout
import TypedEnv.Source.Spelling

/-!
# The source text of a configuration module

A module as items of source syntax, and from there as lexemes and as a text
that is laid out on lines.
-/

namespace TypedEnv.Module

open Source (Expr Identifier Item Path Stmt TypeExpr)

/-- A name of the standard library that no other name can hide. -/
def libraryPath (names : List String) : Path :=
  .ofNames true names

def textType : TypeExpr :=
  .path (libraryPath ["std", "string", "String"]) []

def kindType (runtime : Path) : Kind → TypeExpr
  | .int => .named (.plain "i64")
  | .uint => .named (.plain "u64")
  | .float => .named (.plain "f64")
  | .bool => .named (.plain "bool")
  | .duration => .path (libraryPath ["std", "time", "Duration"]) []
  | .url =>
      .path (libraryPath ["core", "option", "Option"]) [.path (runtime.extend ["url", "Url"]) []]
  | .string => textType
  | .stringList => .path (libraryPath ["std", "vec", "Vec"]) [textType]

def FieldType.expr (runtime : Path) : FieldType → TypeExpr
  | .value kind => kindType runtime kind
  | .structure name => .named name

def signed (negative : Bool) (digits : List Char) : Expr :=
  let magnitude := Expr.literal (String.ofList digits)
  if negative then .negative magnitude else magnitude

def DefaultExpr.expr (runtime : Path) : DefaultExpr → Expr
  | .integer negative magnitude => signed negative (Decimal.digits magnitude)
  | .decimal negative digits => signed negative digits
  | .notNumber => .path (.ofNames false ["f64", "NAN"])
  | .infinity negative =>
      .path (.ofNames false ["f64", if negative then "NEG_INFINITY" else "INFINITY"])
  | .truth value => .literal (Value.boolText value)
  | .seconds count =>
      .call (.path (libraryPath ["std", "time", "Duration", "from_secs"]))
        [.literal (Decimal.natText count)]
  | .duration whole part =>
      .call (.path (libraryPath ["std", "time", "Duration", "new"]))
        [.literal (Decimal.natText whole), .literal (Decimal.natText part)]
  | .address content =>
      .method
        (.call (.path (runtime.extend ["url", "Url", "parse"])) [.literal (Text.literal content)])
        (.plain "ok") []
  | .noAddress => .path (libraryPath ["core", "option", "Option", "None"])
  | .text content => .literal (Text.literal content)
  | .items parts =>
      .list (libraryPath ["std", "vec"]) (libraryPath ["std", "string", "String", "from"])
        (parts.map Text.literal)

/-- The method that registers a variable of a kind. -/
def registrar : Kind → String
  | .int => "int_var"
  | .uint => "uint_var"
  | .float => "float_var"
  | .bool => "bool_var"
  | .duration => "duration_var"
  | .url => "url_var"
  | .string => "string_var"
  | .stringList => "strings_var"

def localName (name : String) : Expr :=
  .name (.plain name)

def Registration.stmt (runtime : Path) (registration : Registration) : Stmt :=
  .bind registration.handle <|
    .method (localName "registry") (.plain (registrar registration.kind))
      [.name registration.constant, registration.default.expr runtime]

mutual

def Assembly.expr : Assembly → Expr
  | .read handle =>
      .attempt (.method (localName "registry") (.plain "get") [.reference false (.name handle)])
  | .record name fields => .record name (Assembly.fieldExprs fields)

def Assembly.fieldExprs : List (Identifier × Assembly) → List (Identifier × Expr)
  | [] => []
  | (name, assembly) :: rest => (name, assembly.expr) :: Assembly.fieldExprs rest

end

def EmptyTest.expr (value : Expr) : EmptyTest → Expr
  | .isZeroInteger => .equal value (.literal "0")
  | .isZeroFloat => .equal value (.literal "0.0")
  | .isZeroDuration => .method value (.plain "is_zero") []
  | .isMissing => .method value (.plain "is_none") []
  | .isEmptyText => .method value (.plain "is_empty") []

def resultPath (name : String) : Expr :=
  .path (libraryPath ["core", "result", "Result", name])

def Validation.stmt (validation : Validation) : Stmt :=
  let failure :=
    Expr.call (.path (.ofNames false ["EnvError", "empty"])) [.name validation.constant]
  .when (validation.test.expr (validation.path.foldl Expr.field (localName "cfg")))
    [.return (.call (resultPath "Err") [failure])]

def ConstantDecl.item (constant : ConstantDecl) : Item :=
  .constant true constant.name (.reference false (.named (.plain "str")))
    (.literal (Text.literal constant.value))

def StructureDecl.item (runtime : Path) (declaration : StructureDecl) : Item :=
  .record ["Debug", "Clone", "PartialEq"] true declaration.name <|
    declaration.fields.map fun field => (true, field.name, field.type.expr runtime)

/-- The type of the outcome of both functions of a module. -/
def outcomeType (root : Identifier) : TypeExpr :=
  .path (libraryPath ["core", "result", "Result"]) [.named root, .named (.plain "EnvError")]

def importedIdentifiers : List Identifier :=
  ["EnvError", "EnvSource", "ProcessEnv", "Registry"].map Identifier.plain

/-- The function that uses the environment of the process. -/
def processFunction (root : Identifier) : Item :=
  .function [" Parse the configuration from the process environment into the global registry."]
    true (.plain "parse") [] (some (outcomeType root))
    [.result <|
      .call (localName "parse_from")
        [.reference true (.call (.path (.ofNames false ["Registry", "global"])) []),
         .reference false (localName "ProcessEnv")]]

/-- The function that uses a given registry and a given environment. -/
def mainFunction (module : Module) : Item :=
  .function
    [" Register every variable in \x60registry\x60, apply overrides from \x60env\x60 and",
     " check that no non-bool field is left empty."]
    true (.plain "parse_from")
    [(.plain "registry", .reference true (.named (.plain "Registry"))),
     (.plain "env", .reference false (.dynamic (.named (.plain "EnvSource"))))]
    (some (outcomeType module.root))
    (module.registrations.map (Registration.stmt module.runtime) ++
      [.perform (.attempt (.method (localName "registry") (.plain "parse_with")
        [localName "env"])),
       .bind (.plain "cfg") module.assembly.expr] ++
      module.validations.map Validation.stmt ++
      [.result (.call (resultPath "Ok") [localName "cfg"])])

def items (module : Module) : List Item :=
  .imports false module.runtime importedIdentifiers ::
    (module.constants.map ConstantDecl.item ++
      module.structures.map (StructureDecl.item module.runtime) ++
      [processFunction module.root, mainFunction module])

/-- A module as lexemes with spaces between them. -/
def spell (module : Module) : String :=
  Source.spell module.items

/-- The line above every module. -/
def header : String :=
  "// @generated by envgen. Do not edit.\n"

/-- A module as a text that is laid out on lines. -/
def render (module : Module) : Except Diagnostic String :=
  match module.runtime.importProblem? with
  | some problem => .error (.ofCause (.render problem module.spell))
  | none => .ok (header ++ "\n" ++ Source.format module.items)

end TypedEnv.Module
