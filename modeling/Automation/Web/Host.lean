import Automation.Web.Domain.Name
import Automation.Web.Percent

/-!
# Hosts

The host of a URL: a domain name, an address, or an opaque text. Special schemes know only names
and addresses; other schemes keep any text that has no character with a meaning of its own.
-/

namespace Automation.Web

/-- Why a text is no URL. -/
inductive UrlError where
  | emptyHost
  | invalidName
  | invalidPort
  | invalidIpv4
  | invalidIpv6
  | invalidCharacter
  | relative
  deriving Repr, DecidableEq

/-- The wording of a reason. -/
def UrlError.message : UrlError → String
  | emptyHost => "empty host"
  | invalidName => "invalid international domain name"
  | invalidPort => "invalid port number"
  | invalidIpv4 => "invalid IPv4 address"
  | invalidIpv6 => "invalid IPv6 address"
  | invalidCharacter => "invalid domain character"
  | relative => "relative URL without a base"

/-- A host. -/
inductive Host where
  | name (text : String)
  | ipv4 (address : Nat)
  | ipv6 (pieces : List Nat)
  deriving Repr, DecidableEq

namespace Host

/-- The text of a host. -/
def text : Host → String
  | name s => s
  | ipv4 n => Ipv4.write n
  | ipv6 ps => "[" ++ Ipv6.write ps ++ "]"

/-- Whether the host says nothing. -/
def isEmpty : Host → Bool
  | name s => s.isEmpty
  | _ => false

/-- The address between brackets, if the text opens one. -/
def bracketed? (text : List Char) : Option (Except UrlError Host) :=
  match text with
  | '[' :: rest =>
    some
      (match rest.getLast?, Ipv6.read? rest.dropLast with
        | some ']', some ps => .ok (ipv6 ps)
        | _, _ => .error .invalidIpv6)
  | _ => none

/-- Reads the host of a special scheme. -/
def read (text : List Char) : Except UrlError Host :=
  match bracketed? text with
  | some host => host
  | none =>
    match (Percent.text? (Percent.decode text)).bind fun s =>
        Domain.toAscii? (s.toList.map Char.toNat) with
    | none => .error .invalidName
    | some ascii =>
      if ascii.isEmpty then .error .emptyHost
      else if Ipv4.endsInNumber ascii.toList then
        match Ipv4.read? ascii.toList with
        | some n => .ok (ipv4 n)
        | none => .error .invalidIpv4
      else .ok (name ascii)

/-- Whether an opaque host must not hold a character. -/
def isReserved (c : Char) : Bool :=
  c.toNat == 0 || "\t\n\r #/:<>?@[\\]^|".toList.contains c

/-- Reads the host of any other scheme. -/
def readOpaque (text : List Char) : Except UrlError Host :=
  match bracketed? text with
  | some host => host
  | none =>
    if text.any isReserved then .error .invalidCharacter
    else .ok (name (Percent.encode Percent.controls text))

end Host

end Automation.Web
