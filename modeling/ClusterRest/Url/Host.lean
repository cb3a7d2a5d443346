import ClusterRest.DomainName.Ascii
import ClusterRest.Url.Address
import ClusterRest.Url.Percent

/-! Hosts of URLs. -/

namespace ClusterRest

inductive UrlError where
  | emptyHost
  | invalidDomainName
  | invalidPort
  | invalidIpv4
  | invalidIpv6
  | invalidDomainCharacter
  | relativeWithoutBase
  deriving DecidableEq, Repr

def UrlError.message : UrlError → String
  | .emptyHost => "empty host"
  | .invalidDomainName => "invalid international domain name"
  | .invalidPort => "invalid port number"
  | .invalidIpv4 => "invalid IPv4 address"
  | .invalidIpv6 => "invalid IPv6 address"
  | .invalidDomainCharacter => "invalid domain character"
  | .relativeWithoutBase => "relative URL without a base"

namespace Url

inductive Host where
  | name (text : String)
  | ipv4 (address : Nat)
  | ipv6 (pieces : List Nat)
  deriving DecidableEq, Repr

namespace Host

def toText : Host → String
  | .name text => text
  | .ipv4 address => ipv4Text address
  | .ipv6 pieces => "[" ++ ipv6Text pieces ++ "]"

def isEmpty : Host → Bool
  | .name text => text.isEmpty
  | _ => false

def readBracketed (inner : List Char) : Except UrlError Host :=
  if inner.getLast? == some ']' then
    match ipv6? inner.dropLast with
    | some pieces => .ok (.ipv6 pieces)
    | none => .error .invalidIpv6
  else .error .invalidIpv6

/-- The host of a URL whose scheme has known rules: a domain name or an address. -/
def readSpecial (text : List Char) : Except UrlError Host :=
  match text with
  | '[' :: inner => readBracketed inner
  | _ =>
    let decoded := Bytes.toStringLossy (percentDecode (Bytes.ofChars text))
    match DomainName.toAscii? decoded.toList with
    | none => .error .invalidDomainName
    | some [] => .error .emptyHost
    | some domain =>
      if endsInNumber domain then
        match ipv4? domain with
        | some address => .ok (.ipv4 address)
        | none => .error .invalidIpv4
      else .ok (.name (String.ofList domain))

/-- Characters that no host may hold, not even one that is otherwise free text. -/
def isForbidden (character : Char) : Bool :=
  "\x00\t\n\r #/:<>?@[\\]^|".toList.contains character

/-- The host of a URL of any other scheme: free text. -/
def readOpaque (text : List Char) : Except UrlError Host :=
  match text with
  | '[' :: inner => readBracketed inner
  | _ =>
    if text.any isForbidden then .error .invalidDomainCharacter
    else .ok (.name (String.ofList (percentEncode controlSet text)))

end Host

end Url

end ClusterRest
