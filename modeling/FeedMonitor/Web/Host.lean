import FeedMonitor.Web.Address
import FeedMonitor.Web.Domain
import FeedMonitor.Web.Percent

/-!
Hosts of URLs.
-/

namespace FeedMonitor.Web

/-- Why a text is no URL. -/
inductive Fault
  | relative
  | emptyHost
  | invalidPort
  | invalidIpv4
  | invalidIpv6
  | invalidDomain
  | invalidCharacter
deriving DecidableEq

def Fault.message : Fault → String
  | relative => "relative URL without a base"
  | emptyHost => "empty host"
  | invalidPort => "invalid port number"
  | invalidIpv4 => "invalid IPv4 address"
  | invalidIpv6 => "invalid IPv6 address"
  | invalidDomain => "invalid international domain name"
  | invalidCharacter => "invalid domain character"

inductive Host
  | domain (name : String)
  | ipv4 (address : Nat)
  | ipv6 (groups : List Nat)

namespace Host

/-- An address in brackets. -/
def parseBracketed (cs : List Char) : Except Fault Host :=
  match cs.getLast?, ipv6? (cs.drop 1).dropLast with
  | some ']', some groups => .ok (.ipv6 groups)
  | _, _ => .error .invalidIpv6

/-- The host of a special scheme: an address or a domain name. -/
def parse (cs : List Char) : Except Fault Host :=
  if cs.head? == some '[' then parseBracketed cs
  else
    match Domain.ofBytes? (percentDecode cs) with
    | none => .error .invalidDomain
    | some [] => .error .emptyHost
    | some name =>
      if endsInNumber name then
        match ipv4? name with
        | some address => .ok (.ipv4 address)
        | none => .error .invalidIpv4
      else .ok (.domain (String.ofList name))

def isForbidden (c : Char) : Bool :=
  "\x00\t\n\r #/:<>?@[\\]^|".toList.contains c

/-- The host of another scheme, which is not looked into. -/
def parseOpaque (cs : List Char) : Except Fault Host :=
  if cs.head? == some '[' then parseBracketed cs
  else if cs.any isForbidden then .error .invalidCharacter
  else .ok (.domain (String.ofList (percentEncode (fun _ => false) cs)))

end Host

end FeedMonitor.Web
