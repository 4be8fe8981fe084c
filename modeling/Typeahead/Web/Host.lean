import Typeahead.Web.Idna
import Typeahead.Web.Ip
import Typeahead.Web.Percent

/-!
# Hosts

A host is a domain name, an internet address, or, with a scheme that says nothing about hosts, a
name taken as it stands.
-/

namespace Typeahead.Web
open Text

/-- Why an address is refused. -/
inductive Error where
  | emptyHost
  | invalidDomain
  | invalidPort
  | invalidIpv4
  | invalidIpv6
  | invalidHostCharacter
  | relative
  deriving DecidableEq, Repr

def Error.message : Error → String
  | emptyHost => "empty host"
  | invalidDomain => "invalid international domain name"
  | invalidPort => "invalid port number"
  | invalidIpv4 => "invalid IPv4 address"
  | invalidIpv6 => "invalid IPv6 address"
  | invalidHostCharacter => "invalid domain character"
  | relative => "relative URL without a base"

/-- A host. -/
inductive Host where
  | name (s : String)
  | ipv4 (n : Nat)
  | ipv6 (groups : List Nat)
  deriving DecidableEq, Repr

namespace Host

def text : Host → String
  | name s => s
  | ipv4 n => Ipv4.text n
  | ipv6 gs => "[" ++ Ipv6.text gs ++ "]"

/-- An address in brackets, if the host begins with one. -/
def bracketed? : List Char → Option (Except Error Host)
  | '[' :: s =>
    some <|
      if s.getLast? = some ']' then
        match Ipv6.parse? s.dropLast with
        | some gs => .ok (ipv6 gs)
        | none => .error .invalidIpv6
      else .error .invalidIpv6
  | _ => none

/-- A host that has to be a domain name or an address. -/
def domain (s : List Char) : Except Error Host :=
  match bracketed? s with
  | some r => r
  | none =>
    match String.fromUTF8? ⟨(percentDecode s).toArray⟩ with
    | none => .error .invalidDomain
    | some decoded =>
      match Idna.toAscii? decoded.toList with
      | none => .error .invalidDomain
      | some [] => .error .emptyHost
      | some d =>
        if Ipv4.endsInNumber d then
          match Ipv4.parse? d with
          | some n => .ok (ipv4 n)
          | none => .error .invalidIpv4
        else .ok (name (String.ofList d))

/-- Characters that no host may hold. -/
def isForbidden (c : Char) : Bool :=
  c.toNat = 0
    || c ∈ ['\t', '\n', '\r', ' ', '#', '/', ':', '<', '>', '?', '@', '[', '\\', ']', '^', '|']

/-- A host whose name says nothing to us. -/
def opaqueName (s : List Char) : Except Error Host :=
  match bracketed? s with
  | some r => r
  | none =>
    if s.any isForbidden then .error .invalidHostCharacter
    else .ok (name (String.ofList (percentEncode (fun _ => false) s)))

end Host

end Typeahead.Web
