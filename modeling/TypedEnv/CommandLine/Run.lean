import TypedEnv.CommandLine.Request
import TypedEnv.Exit
import TypedEnv.Module.Generate

/-!
# Running the command

The command generates the module for a declaration file and prints it or
writes it to another file.  `run` does this in a storage; its steps are kept
apart so that files can also be read and written elsewhere.
-/

namespace TypedEnv.CommandLine

def Ending.exit : Ending → Exit
  | .help => .success helpText
  | .version => .success versionText
  | .refused refusal => .failure 2 refusal.message

/-- The end of the command when a module cannot be generated.  A text that could not be formatted
is shown first, and the error behind the diagnostic last. -/
def diagnosticExit (diagnostic : Diagnostic) : Exit :=
  let raw := diagnostic.cause.raw?.elim "" (· ++ "\n")
  let inner := diagnostic.cause.inner?.elim "" (": " ++ ·)
  .failure 1 s!"{raw}envgen: {diagnostic.message}{inner}\n"

def writeExit (path : String) (error : FileError) : Exit :=
  .failure 1 s!"envgen: failed to write {path}: {error.message}\n"

/-- The text of the module that a request asks for, from the text of the declaration file, if
that could be read. -/
def Request.moduleText (request : Request) (text : Except FileError String) :
    Except Exit String :=
  match Module.generateFrom request.file text request.front request.options with
  | .ok generated => .ok generated
  | .error (.error diagnostic) => .error (diagnosticExit diagnostic)
  | .error (.abort reason) => .error (.failure 101 (reason.message ++ "\n"))

def Request.run (request : Request) (storage : Storage) : Exit × Storage :=
  match request.moduleText (storage.readText request.file), request.output with
  | .error exit, _ => (exit, storage)
  | .ok generated, none => (.success generated, storage)
  | .ok generated, some path =>
      match storage.writeText path generated with
      | .error error => (writeExit path error, storage)
      | .ok changed => (.success "", changed)

/-- Runs the command with some arguments in a storage. -/
def run (arguments : List String) (storage : Storage) : Exit × Storage :=
  match Request.read arguments with
  | .error ending => (ending.exit, storage)
  | .ok request => request.run storage

end TypedEnv.CommandLine
