import TypedEnv.Outcome
import TypedEnv.Diagnostic

/-!
# Files

A storage is a directory with some files below it.  Files are found by paths
that are relative to the directory; an empty path names nothing.
-/

namespace TypedEnv

/-- A directory with the files below it; each is named by the directories above it and its own
name. -/
structure Storage where
  files : List (List String × ByteArray)

namespace Storage

/-- The names in a path, and whether the path can only name a directory. -/
def components (path : String) : List String × Bool :=
  let parts := (path.toList.splitOn '/').map String.ofList
  (parts.filter fun part => part != "" && part != ".",
    parts.getLast? = some "" || parts.getLast? = some ".")

/-- What a path names. -/
inductive Entry where
  | file (content : ByteArray)
  | directory
  | missing
  | throughFile

/-- Whether some file lies below the directory of the given names. -/
def hasDirectory (storage : Storage) (names : List String) : Bool :=
  storage.files.any fun entry => names.isPrefixOf entry.1 && names.length < entry.1.length

/-- Finds the entry of the given names; the names in `above` were passed as directories. -/
def findFrom (storage : Storage) (above : List String) (onlyDirectory : Bool) :
    List String → Entry
  | [] => .directory
  | name :: rest =>
      let here := above ++ [name]
      match storage.files.find? fun entry => entry.1 == here with
      | some entry => if rest.isEmpty && !onlyDirectory then .file entry.2 else .throughFile
      | none =>
          if storage.hasDirectory here then storage.findFrom here onlyDirectory rest else .missing

/-- The entry of a path. -/
def entry (storage : Storage) (path : String) : Entry :=
  let (names, onlyDirectory) := components path
  if path.isEmpty then .missing
  else if path.toList.head? = some '/' then if names.isEmpty then .directory else .missing
  else storage.findFrom [] onlyDirectory names

def readText (storage : Storage) (path : String) : Except FileError String :=
  match storage.entry path with
  | .missing => .error .missing
  | .throughFile => .error .notDirectory
  | .directory => .error .directory
  | .file content =>
      match String.fromUTF8? content with
      | some text => .ok text
      | none => .error .notText

/-- Writes a text to a file, which is made when its directory is there. -/
def writeText (storage : Storage) (path text : String) : Except FileError Storage :=
  let (names, onlyDirectory) := components path
  let parent := names.dropLast
  match storage.entry path with
  | .throughFile => .error .notDirectory
  | .directory => .error .directory
  | .file _ =>
      let changed := fun entry : List String × ByteArray =>
        if entry.1 == names then (names, text.toUTF8) else entry
      .ok ⟨storage.files.map changed⟩
  | .missing =>
      if path.isEmpty || path.toList.head? = some '/' then .error .missing
      else if onlyDirectory then .error .directory
      else if parent.isEmpty || storage.hasDirectory parent then
        .ok ⟨storage.files ++ [(names, text.toUTF8)]⟩
      else .error .missing

end Storage

/-- Reads a declaration file from its path and its text, if that could be read. -/
def Declaration.readFile {α : Type} (path : String) (text : Except FileError String)
    (read : String → Outcome Diagnostic α) : Outcome Diagnostic α :=
  match text with
  | .error error => .error (.error ((Diagnostic.ofCause (.io error)).inSource path))
  | .ok text => (read text).mapCause (·.inSource path)

def Declaration.load {α : Type} (storage : Storage) (path : String)
    (read : String → Outcome Diagnostic α) : Outcome Diagnostic α :=
  Declaration.readFile path (storage.readText path) read

end TypedEnv
