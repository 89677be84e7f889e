import TypedEnv.CommandLine.Parameter

/-!
# How the command is used

The texts that explain the command, and those that refuse arguments and then
recall how the command is used.
-/

namespace TypedEnv.CommandLine

/-- The line about all uses of the command. -/
def fullUsage : String :=
  "Usage: envgen [OPTIONS] <FILE> [PREFIX]"

/-- The line about the uses of the command that begin with the given parameters. -/
def usageWith (used : List Parameter) : String :=
  let options := (used.filter Parameter.options.contains).eraseDups
  let front := if used.contains .front then Parameter.front.spelling else "[PREFIX]"
  String.intercalate " "
    ("Usage: envgen" :: options.map Parameter.spelling ++ [Parameter.file.spelling, front])

/-- The line about the uses of the command that go with the parameters that were given. -/
def usageFor (used : List Parameter) : String :=
  if used.isEmpty then fullUsage else usageWith used

def helpText : String :=
  "Generate a typed configuration module from an env declaration file\n\n" ++
  fullUsage ++ "\n\n" ++
  "Arguments:\n" ++
  "  <FILE>    Declaration file to read\n" ++
  "  [PREFIX]  Prefix stripped from variable names before splitting on \x60__\x60\n\n" ++
  "Options:\n" ++
  "  -o, --output <OUTPUT>                Write the module here instead of stdout\n" ++
  "      --runtime-crate <RUNTIME_CRATE>  Path of the runtime crate used by the generated code " ++
  "[default: envgen_runtime]\n" ++
  "      --root-struct <ROOT_STRUCT>      Name of the generated top-level struct " ++
  "[default: Config]\n" ++
  "  -v, --verbose                        Enable debug logging\n" ++
  "  -h, --help                           Print help\n" ++
  "  -V, --version                        Print version\n"

def versionText : String :=
  "envgen 0.1.0\n"

/-- Why arguments are refused.  Some reasons recall the parameters that were given before. -/
inductive Refusal where
  | missingFile (used : List Parameter)
  | surplus (argument : String)
  | unknownWord (word : String) (similar : Option Parameter) (used : List Parameter)
  | unknownLetter (letter : Char)
  | missingValue (parameter : Parameter)
  | repeated (parameter : Parameter)
  /-- A parameter that takes no value is given with one. -/
  | unneededValue (parameter : Parameter) (value : String) (used : List Parameter)
  deriving DecidableEq

/-- The advice on an argument that may have been meant as text. -/
def asTextTip (argument : String) : String :=
  s!"\n\n  tip: to pass '{argument}' as a value, use '-- {argument}'"

namespace Refusal

/-- What is wrong, with advice, and the use that is recalled. -/
def parts : Refusal → String × Option String
  | .missingFile used =>
      (s!"the following required arguments were not provided:\n  {Parameter.file.spelling}",
        some (usageWith used))
  | .surplus argument => (s!"unexpected argument '{argument}' found", some fullUsage)
  | .unknownWord word none used =>
      (s!"unexpected argument '--{word}' found" ++ asTextTip ("--" ++ word),
        some (usageFor used))
  | .unknownWord word (some similar) used =>
      (s!"unexpected argument '--{word}' found" ++
        s!"\n\n  tip: a similar argument exists: '--{similar.word}'",
        some (usageFor (used ++ [similar])))
  | .unknownLetter letter =>
      (s!"unexpected argument '-{letter}' found" ++ asTextTip ("-" ++ letter.toString),
        some fullUsage)
  | .missingValue parameter =>
      (s!"a value is required for '{parameter.spelling}' but none was supplied", none)
  | .repeated parameter =>
      (s!"the argument '{parameter.spelling}' cannot be used multiple times", some fullUsage)
  | .unneededValue parameter value used =>
      (s!"unexpected value '{value}' for '{parameter.spelling}' found; no more were expected",
        some (usageFor (used ++ [parameter])))

def message (refusal : Refusal) : String :=
  let (problem, usage?) := refusal.parts
  let usage := usage?.elim "" fun usage => "\n\n" ++ usage
  s!"error: {problem}{usage}\n\nFor more information, try '--help'.\n"

end Refusal

end TypedEnv.CommandLine
