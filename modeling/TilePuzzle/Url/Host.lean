import TilePuzzle.Url.Idna
import TilePuzzle.Url.Ipv6

namespace TilePuzzle

inductive UrlError
  | emptyHost
  | invalidPort
  | invalidIpv4
  | invalidIpv6
  | invalidName
  | invalidHostCharacter
  | relativeWithoutBase
  | relativeWithPlainBase
  deriving Repr, DecidableEq

def UrlError.message : UrlError → String
  | .emptyHost => "empty host"
  | .invalidPort => "invalid port number"
  | .invalidIpv4 => "invalid IPv4 address"
  | .invalidIpv6 => "invalid IPv6 address"
  | .invalidName => "invalid international domain name"
  | .invalidHostCharacter => "invalid domain character"
  | .relativeWithoutBase => "relative URL without a base"
  | .relativeWithPlainBase => "relative URL with a cannot-be-a-base base"

namespace Url

inductive Host
  | domain (cs : List Char)
  | ipv4 (address : Nat)
  | ipv6 (pieces : List Nat)
  deriving Repr, DecidableEq

namespace Host

def isEmpty (h : Host) : Bool :=
  h = .domain []

def render : Host → List Char
  | domain cs => cs
  | ipv4 address => Ipv4.render address
  | ipv6 pieces => '[' :: Ipv6.render pieces ++ [']']

def bracketed (cs : List Char) : Except UrlError Host :=
  if cs.getLast? = some ']' then
    match Ipv6.parse? (cs.dropLast.drop 1) with
    | some pieces => .ok (.ipv6 pieces)
    | none => .error .invalidIpv6
  else .error .invalidIpv6

def parseSpecial (cs : List Char) : Except UrlError Host :=
  if cs.head? = some '[' then bracketed cs
  else match Idna.toAscii? (Utf8.decodeLossy (Percent.decode cs)) with
    | none => .error .invalidName
    | some name =>
      if name = [] then .error .emptyHost
      else if Ipv4.endsInNumber name then
        match Ipv4.parse? name with
        | some address => .ok (.ipv4 address)
        | none => .error .invalidIpv4
      else .ok (.domain name)

def isDelimiter (c : Char) : Bool :=
  c.toNat = 0 || c ∈ ['\t', '\n', '\r', ' ', '#', '/', ':', '<', '>', '?', '@', '[', '\\', ']',
    '^', '|']

def parseOther (cs : List Char) : Except UrlError Host :=
  if cs.head? = some '[' then bracketed cs
  else if cs.any isDelimiter then .error .invalidHostCharacter
  else .ok (.domain (Percent.encode Percent.isControl cs))

end Host

end Url

end TilePuzzle
