import TypedEnv.CommandLine.Run

/-!
# The command

Reads and writes files and prints what the command has to say; what it does is
said elsewhere.
-/

namespace TypedEnv.CommandLine

/-- The numbers, of either sign, by which the system tells that a file is a directory. -/
def directoryCodes : List UInt32 := [21, -21]

/-- The reason for which the system refuses to read or write a file. -/
def fileError : IO.Error → FileError
  | .noFileOrDirectory _ _ _ => .missing
  | .inappropriateType _ code _ =>
      if directoryCodes.contains code then .directory else .notDirectory
  | error => .other (toString error)

def readFileText (path : String) : IO (Except FileError String) := do
  try
    let content ← IO.FS.readBinFile path
    match String.fromUTF8? content with
    | some text => return .ok text
    | none => return .error .notText
  catch error => return .error (fileError error)

def writeFileText (path text : String) : IO (Except FileError Unit) := do
  try
    IO.FS.writeFile path text
    return .ok ()
  catch error => return .error (fileError error)

def Request.perform (request : Request) : IO Exit := do
  let text ← readFileText request.file
  match request.moduleText text, request.output with
  | .error exit, _ => return exit
  | .ok generated, none => return .success generated
  | .ok generated, some path =>
      match ← writeFileText path generated with
      | .error error => return writeExit path error
      | .ok () => return .success ""

end TypedEnv.CommandLine

/-- Runs the command with the arguments of the program. -/
def main (arguments : List String) : IO UInt32 := do
  let exit ←
    match TypedEnv.CommandLine.Request.read arguments with
    | .error ending => pure ending.exit
    | .ok request => request.perform
  IO.print exit.output
  IO.eprint exit.messages
  return exit.code.toUInt32
