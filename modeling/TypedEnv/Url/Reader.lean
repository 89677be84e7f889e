import TypedEnv.Url.Basic

/-!
# Reading addresses

`Url.read` reads an absolute address.  Control characters and blanks around
it and line breaks and tabs inside it are ignored, letter case and the usual
port are normalised, and the parts are encoded.  What may stand before the
path depends on the scheme: special schemes accept any number of slashes and
require a host, `file` has rules of its own, and under all other schemes an
authority follows exactly two slashes.
-/

namespace TypedEnv.Url

/-- The characters that matter: no line breaks and tabs, and no control characters and blanks
around the text. -/
def significant (text : List Char) : List Char :=
  let isOuter := fun c : Char => c.toNat ≤ 32
  let trimmed := ((text.dropWhile isOuter).reverse.dropWhile isOuter).reverse
  trimmed.filter fun c => c != '\t' && c != '\n' && c != '\r'

def endsAuthority (type : SchemeType) (c : Char) : Bool :=
  c == '/' || c == '?' || c == '#' || (type.isSpecial && c == '\\')

/-- Splits off the user and the password up to the last at sign of the authority; nothing when
an at sign stands before no host at all. -/
def readCredentials (type : SchemeType) (text : List Char) :
    Except UrlError ((List Char × List Char) × List Char) :=
  let authority := text.takeWhile fun c => !endsAuthority type c
  let beforeAt := authority.reverse.dropWhile (· != '@')
  match beforeAt with
  | [] => .ok (([], []), text)
  | _ :: reversed =>
      let credentials := reversed.reverse
      let rest := text.drop beforeAt.length
      if credentials.isEmpty && rest.head?.any (endsAuthority type) then .error .emptyHost
      else
        let user := credentials.takeWhile (· != ':')
        let password := (credentials.dropWhile (· != ':')).drop 1
        .ok ((percentEncode isUserEncoded user, percentEncode isUserEncoded password), rest)

/-- Splits off a host: up to a colon outside brackets or the end of the authority. -/
def splitHost (type : SchemeType) (inBrackets : Bool) : List Char → List Char × List Char
  | [] => ([], [])
  | c :: rest =>
      if endsAuthority type c || (c == ':' && !inBrackets) then ([], c :: rest)
      else
        let inBrackets := if c == '[' then true else if c == ']' then false else inBrackets
        let (host, rest) := splitHost type inBrackets rest
        (c :: host, rest)

/-- Reads a port after its colon; the usual port of the scheme is left out. -/
def readPort (scheme text : List Char) : Except UrlError (Option Nat × List Char) :=
  let written := text.takeWhile Char.isDigit
  let rest := text.dropWhile Char.isDigit
  let value := (Decimal.ofDigits? 10 written).getD 0
  if 65535 < value then .error .badPort
  else if rest.head?.any fun c => !(c == '/' || c == '\\' || c == '?' || c == '#') then
    .error .badPort
  else if written.isEmpty || usualPort? scheme == some value then .ok (none, rest)
  else .ok (some value, rest)

/-- Reads the query and the fragment that end an address. -/
def finish (type : SchemeType) (scheme : List Char) (authority : Option Authority) (path : Path)
    (text : List Char) : Url :=
  let beforeFragment := text.takeWhile (· != '#')
  let query :=
    match beforeFragment with
    | '?' :: query => some (percentEncode (isQueryEncoded type.isSpecial) query)
    | _ => none
  let fragment :=
    match text.dropWhile (· != '#') with
    | [] => none
    | _ :: fragment => some (percentEncode isFragmentEncoded fragment)
  { scheme, authority, path, query, fragment }

/-- Splits a text before its query and fragment. -/
def splitPathText (text : List Char) : List Char × List Char :=
  let inPath := fun c : Char => c != '?' && c != '#'
  (text.takeWhile inPath, text.dropWhile inPath)

/-- A text without the separator with which it may begin. -/
def dropSeparator (type : SchemeType) : List Char → List Char
  | [] => []
  | c :: rest => if c == '/' || (type.isSpecial && c == '\\') then rest else c :: rest

/-- Reads what follows the slashes before an authority. -/
def readAuthority (type : SchemeType) (scheme text : List Char) : Except UrlError Url := do
  let ((user, password), afterUser) ← readCredentials type text
  let (hostText, afterHost) := splitHost type false afterUser
  if type.isSpecial && hostText.isEmpty then throw .emptyHost
  let host ← Host.read type hostText
  let hasColon := afterHost.head? == some ':'
  if host.isEmpty && hasColon then throw .emptyHost
  let (port, afterPort) ←
    if hasColon then readPort scheme (afterHost.drop 1) else pure (none, afterHost)
  if host.isEmpty && !(user.isEmpty && password.isEmpty) then throw .emptyHost
  let (pathText, tail) := splitPathText afterPort
  let segments :=
    if pathText.isEmpty && !type.isSpecial then []
    else (readPath type (dropSeparator type pathText)).segments
  return finish type scheme (some { user, password, host, port }) (.rooted segments) tail

/-- Reads what follows an ordinary scheme. -/
def readOrdinary (scheme text : List Char) : Except UrlError Url :=
  match text with
  | '/' :: '/' :: rest => readAuthority .ordinary scheme rest
  | '/' :: rest =>
      let (pathText, tail) := splitPathText rest
      .ok (finish .ordinary scheme none (.rooted (readPath .ordinary pathText).segments) tail)
  | _ =>
      let (pathText, tail) := splitPathText text
      .ok (finish .ordinary scheme none (.plain (percentEncode isControl pathText)) tail)

/-- The authority of a file address, which has nothing but a host. -/
def fileAuthority (host : Host) : Authority :=
  { user := [], password := [], host, port := none }

/-- Finishes a file address whose path begins with the given text; a drive letter at its
beginning drops the host. -/
def finishFile (host : Host) (text : List Char) : Url :=
  let (pathText, tail) := splitPathText text
  let reader := readPath .file pathText
  let host := if reader.hostDropped then .name [] else host
  finish .file "file".toList (some (fileAuthority host)) (.rooted reader.segments) tail

/-- Reads the host of a file address and what follows it.  A drive letter is no host, and the
local host is not written. -/
def readFileHost (text : List Char) : Except UrlError Url := do
  let isHostEnd := fun c : Char => c == '/' || c == '\\' || c == '?' || c == '#'
  let hostText := text.takeWhile fun c => !isHostEnd c
  let rest := text.dropWhile fun c => !isHostEnd c
  if isDriveLetter hostText then return finishFile (.name []) text
  else if hostText.isEmpty then return finishFile (.name []) rest
  else
    let host ← Host.read .file hostText
    if host = .name "localhost".toList then return finishFile (.name []) rest
    else return finishFile host (dropSeparator .file rest)

def isSlash (c : Char) : Bool :=
  c == '/' || c == '\\'

def readFile (text : List Char) : Except UrlError Url :=
  match text with
  | first :: second :: rest =>
      if isSlash first && isSlash second then readFileHost rest
      else .ok (finishFile (.name []) (dropSeparator .file text))
  | _ => .ok (finishFile (.name []) (dropSeparator .file text))

def read (text : List Char) : Except UrlError Url :=
  match readScheme? (significant text) with
  | none => .error .relative
  | some (scheme, rest) =>
      match SchemeType.ofScheme scheme with
      | .file => readFile rest
      | .special => readAuthority .special scheme (rest.dropWhile isSlash)
      | .ordinary => readOrdinary scheme rest

end TypedEnv.Url
