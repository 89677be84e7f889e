import TypedEnv.Domain.Name
import TypedEnv.Url.Ipv4
import TypedEnv.Url.Ipv6
import TypedEnv.Url.Scheme

/-!
# Hosts

The host of an address is a name, a version 4 address or a version 6 address
between brackets.  Under a special scheme a name is a domain name in ASCII
form; under any other scheme it is an encoded text.
-/

namespace TypedEnv.Url

/-- Why a text is no address. -/
inductive UrlError where
  | relative
  | emptyHost
  | badDomain
  | badDomainCharacter
  | badIpv4
  | badIpv6
  | badPort
  deriving DecidableEq

def UrlError.message : UrlError → String
  | .relative => "relative URL without a base"
  | .emptyHost => "empty host"
  | .badDomain => "invalid international domain name"
  | .badDomainCharacter => "invalid domain character"
  | .badIpv4 => "invalid IPv4 address"
  | .badIpv6 => "invalid IPv6 address"
  | .badPort => "invalid port number"

/-- A host; the name may be empty. -/
inductive Host where
  | name (text : List Char)
  | ipv4 (value : Nat)
  | ipv6 (pieces : List Nat)
  deriving DecidableEq

namespace Host

def text : Host → List Char
  | .name text => text
  | .ipv4 value => ipv4Text value
  | .ipv6 pieces => '[' :: (ipv6Text pieces ++ [']'])

def isEmpty : Host → Bool
  | .name text => text.isEmpty
  | _ => false

/-- Reads a host that begins with a bracket. -/
def readBracketed (text : List Char) : Except UrlError Host :=
  if text.getLast? = some ']' then
    match readIpv6? (text.drop 1).dropLast with
    | some pieces => .ok (.ipv6 pieces)
    | none => .error .badIpv6
  else .error .badIpv6

/-- Reads a domain name from its bytes in percent encoding. -/
def readDomain (text : List Char) : Except UrlError Host :=
  let decoded? := String.fromUTF8? ⟨(percentDecode text).toArray⟩
  match decoded?.bind fun decoded => Domain.toAscii? decoded.toList with
  | none => .error .badDomain
  | some [] => .error .emptyHost
  | some domain =>
      if endsInNumber domain then
        match readIpv4? domain with
        | some value => .ok (.ipv4 value)
        | none => .error .badIpv4
      else .ok (.name domain)

/-- Whether a character may not stand in a host under an ordinary scheme. -/
def isForbidden (c : Char) : Bool :=
  "\x00\t\n\r #/:<>?@[\\]^|".toList.contains c

/-- Reads the host of an address with a scheme of the given type. -/
def read (type : SchemeType) (text : List Char) : Except UrlError Host :=
  if text.head? = some '[' then readBracketed text
  else if type.isSpecial then readDomain text
  else if text.any isForbidden then .error .badDomainCharacter
  else .ok (.name (percentEncode isControl text))

end Host

end TypedEnv.Url
