import TypedEnv.Url.Host
import TypedEnv.Url.Path

/-!
# Addresses

An address has a scheme, then an authority or none, a path, and an optional
query and fragment.  `Url.text` writes an address; the parts are kept in the
encoded form in which they are written.
-/

namespace TypedEnv

namespace Url

/-- Who serves an address: an optional user with an optional password, a host, and a port other
than the usual one. -/
structure Authority where
  user : List Char
  password : List Char
  host : Host
  port : Option Nat
  deriving DecidableEq

/-- The path of an address: segments that each follow a slash, or a text without any
structure. -/
inductive Path where
  | rooted (segments : List (List Char))
  | plain (text : List Char)
  deriving DecidableEq

def Path.text : Path → List Char
  | .rooted segments => segments.flatMap ('/' :: ·)
  | .plain text => text

def Authority.text (authority : Authority) : List Char :=
  let password := if authority.password.isEmpty then [] else ':' :: authority.password
  let credentials := authority.user ++ password
  let port :=
    match authority.port with
    | none => []
    | some port => ':' :: Decimal.digits port
  (if credentials.isEmpty then [] else credentials ++ ['@']) ++ authority.host.text ++ port

end Url

/-- An address with its parts in encoded form. -/
structure Url where
  scheme : List Char
  authority : Option Url.Authority
  path : Url.Path
  query : Option (List Char)
  fragment : Option (List Char)
  deriving DecidableEq

namespace Url

/-- The authority with its two slashes.  Without an authority, a path that begins with two
slashes is kept from being read as one. -/
def authorityText (url : Url) : List Char :=
  match url.authority with
  | some authority => '/' :: '/' :: authority.text
  | none => if ['/', '/'].isPrefixOf url.path.text then ['/', '.'] else []

def text (url : Url) : List Char :=
  let query :=
    match url.query with
    | none => []
    | some query => '?' :: query
  let fragment :=
    match url.fragment with
    | none => []
    | some fragment => '#' :: fragment
  url.scheme ++ ':' :: (url.authorityText ++ url.path.text ++ query ++ fragment)

def render (url : Url) : String :=
  String.ofList url.text

end Url

end TypedEnv
