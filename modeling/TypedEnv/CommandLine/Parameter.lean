/-!
# Parameters of the command

The command takes a declaration file, a text to remove from the front of
names, and some options, which are given by words or by single letters.
-/

namespace TypedEnv.CommandLine

/-- What the command can be told. -/
inductive Parameter where
  | file
  /-- The text to remove from the front of names. -/
  | front
  | output
  /-- Where the module finds what it imports. -/
  | runtime
  /-- The name of the structure of the whole configuration. -/
  | root
  | verbose
  | help
  | version
  deriving DecidableEq

namespace Parameter

def options : List Parameter :=
  [.output, .runtime, .root, .verbose, .help, .version]

def positional : List Parameter :=
  [.file, .front]

def word : Parameter → String
  | .file => "file"
  | .front => "prefix"
  | .output => "output"
  | .runtime => "runtime-crate"
  | .root => "root-struct"
  | .verbose => "verbose"
  | .help => "help"
  | .version => "version"

def letter? : Parameter → Option Char
  | .output => some 'o'
  | .verbose => some 'v'
  | .help => some 'h'
  | .version => some 'V'
  | _ => none

def ofWord? (word : String) : Option Parameter :=
  options.find? fun parameter => parameter.word == word

def ofLetter? (letter : Char) : Option Parameter :=
  options.find? fun parameter => parameter.letter? == some letter

def takesValue : Parameter → Bool
  | .file | .front | .output | .runtime | .root => true
  | .verbose | .help | .version => false

/-- Whether the value of a parameter names a file, and so must not be empty. -/
def namesFile : Parameter → Bool
  | .file | .output => true
  | _ => false

def spelling : Parameter → String
  | .file => "<FILE>"
  | .front => "<PREFIX>"
  | .output => "--output <OUTPUT>"
  | .runtime => "--runtime-crate <RUNTIME_CRATE>"
  | .root => "--root-struct <ROOT_STRUCT>"
  | .verbose => "--verbose"
  | .help => "--help"
  | .version => "--version"

end Parameter

end TypedEnv.CommandLine
