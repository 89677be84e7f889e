import TypedEnv.Url.Percent
import TypedEnv.Url.Scheme

/-!
# Paths

A path is read segment by segment.  A segment `.` stands for the place where
it is found and `..` for the place above; both may be written with percent
signs.  A drive letter such as `C:` is never left by `..`, and as the first
segment of a file address it takes the place of the host.
-/

namespace TypedEnv.Url

/-- Whether a segment is a letter with a colon or a vertical bar. -/
def isDriveLetter : List Char → Bool
  | [letter, mark] => letter.isAlpha && (mark == ':' || mark == '|')
  | _ => false

/-- Whether a segment cannot be left: a drive letter, alone or before a backslash. -/
def staysBefore (segment : List Char) : Bool :=
  isDriveLetter (segment.take 2) && (segment.drop 2 == [] || segment[2]? == some '\\')

/-- A segment with its percent signs for points resolved. -/
def resolveDots : List Char → List Char
  | '%' :: '2' :: digit :: rest =>
      if digit == 'e' || digit == 'E' then '.' :: resolveDots rest
      else '%' :: '2' :: digit :: rest
  | '.' :: rest => '.' :: resolveDots rest
  | text => text

/-- Whether a segment names the place where it is found. -/
def isSingleDot (segment : List Char) : Bool :=
  resolveDots segment == ['.']

/-- Whether a segment names the place above. -/
def isDoubleDot (segment : List Char) : Bool :=
  resolveDots segment == ['.', '.']

/-- The segments that were read so far, and whether a drive letter took the place of the
host. -/
structure PathReader where
  segments : List (List Char)
  hostDropped : Bool

namespace PathReader

/-- Goes to the place above, unless that would leave a drive letter. -/
def ascend (reader : PathReader) : PathReader :=
  match reader.segments.getLast? with
  | none => reader
  | some last =>
      if staysBefore last then reader
      else { reader with segments := reader.segments.dropLast }

def push (reader : PathReader) (segments : List (List Char)) : PathReader :=
  { reader with segments := reader.segments ++ segments }

/-- Reads one encoded segment; `isLast` tells that no separator follows it. -/
def step (isFile isLast : Bool) (reader : PathReader) (segment : List Char) : PathReader :=
  let closing := if isLast then [[]] else []
  if isDoubleDot segment then reader.ascend.push closing
  else if isSingleDot segment then reader.push closing
  else if isFile && reader.segments.isEmpty && isDriveLetter segment then
    { segments := [segment.take 1 ++ [':']], hostDropped := true }
  else reader.push [segment]

/-- Reads encoded segments up to the last one. -/
def readAll (isFile : Bool) (reader : PathReader) : List (List Char) → PathReader
  | [] => reader
  | [segment] => reader.step isFile true segment
  | segment :: rest => readAll isFile (reader.step isFile false segment) rest

end PathReader

/-- Cuts a path text at its separators. -/
def splitPath (type : SchemeType) (text : List Char) : List (List Char) :=
  (text.map fun c => if type.isSpecial && c == '\\' then '/' else c).splitOn '/'

/-- A file path without the empty segments at its beginning. -/
def trimSegments (segments : List (List Char)) : List (List Char) :=
  match segments.dropWhile List.isEmpty with
  | [] => [[]]
  | rest => rest

/-- Reads the path that follows a leading separator. -/
def readPath (type : SchemeType) (text : List Char) : PathReader :=
  let isFile := type == .file
  let segments := (splitPath type text).map (percentEncode isPathEncoded)
  let reader := PathReader.readAll isFile ⟨[], false⟩ segments
  if isFile then { reader with segments := trimSegments reader.segments } else reader

end TypedEnv.Url
