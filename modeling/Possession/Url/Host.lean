import Possession.Text.Ascii
import Possession.Url.Domain
import Possession.Url.Ipv4
import Possession.Url.Ipv6
import Possession.Url.Percent

/-!
# Hosts

What a URL names as its host: a domain name in ASCII form, or an address. In URLs of schemes without
rules of their own a host is any text, kept as it is but for percent encoding.
-/

namespace Possession
namespace Url

/-- Why a text is no URL. -/
inductive Fault where
  | emptyHost
  | invalidPort
  | invalidDomain
  | invalidHostCharacter
  | invalidIpv4
  | invalidIpv6
  /-- A text without a scheme. -/
  | relative
  deriving DecidableEq, Repr

def Fault.message : Fault → String
  | .emptyHost => "empty host"
  | .invalidPort => "invalid port number"
  | .invalidDomain => "invalid international domain name"
  | .invalidHostCharacter => "invalid domain character"
  | .invalidIpv4 => "invalid IPv4 address"
  | .invalidIpv6 => "invalid IPv6 address"
  | .relative => "relative URL without a base"

/-- A host. -/
inductive Host where
  | domain (name : List Char)
  | ipv4 (address : Nat)
  | ipv6 (groups : List Nat)
  deriving DecidableEq, Repr

namespace Host

def parseBracketed (chars : List Char) : Except Fault Host :=
  match chars.getLast? with
  | some ']' =>
    match Ipv6.parse? (chars.drop 1).dropLast with
    | some groups => .ok (.ipv6 groups)
    | none => .error .invalidIpv6
  | _ => .error .invalidIpv6

/-- Reads the host of a URL whose scheme has rules of its own. -/
def parse (chars : List Char) : Except Fault Host :=
  if chars.head? = some '[' then parseBracketed chars
  else
    match Utf8.decodeChars? (Percent.decode (Utf8.encodeChars chars)) with
    | none => .error .invalidDomain
    | some decoded =>
      match Domain.toAscii? decoded with
      | none => .error .invalidDomain
      | some [] => .error .emptyHost
      | some name =>
        if Ipv4.endsInNumber name then
          match Ipv4.parse? name with
          | some address => .ok (.ipv4 address)
          | none => .error .invalidIpv4
        else .ok (.domain name)

/-- Characters that no host may hold as they are. -/
def isForbidden (c : Char) : Bool :=
  c == '\x00' || c == '\t' || c == '\n' || c == '\r' || " #/:<>?@[\\]^|".toList.contains c

/-- Reads the host of a URL of any other scheme; it may be empty. -/
def parseOpaque (chars : List Char) : Except Fault Host :=
  if chars.head? = some '[' then parseBracketed chars
  else if chars.any isForbidden then .error .invalidHostCharacter
  else .ok (.domain (Percent.encode chars))

def isEmpty : Host → Bool
  | .domain name => name.isEmpty
  | _ => false

end Host

end Url
end Possession
