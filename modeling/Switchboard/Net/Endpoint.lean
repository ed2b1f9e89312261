import Switchboard.Net.Ip

/-!
# Endpoints

An endpoint is where a socket can be reached: an address, a port and, for the long family, a scope.
Two endpoints that differ in their scope alone are different, though their addresses are equal.
-/

namespace Switchboard.Net

open Text

/-- An address with a port; the long family adds a scope, where zero stands for none. -/
inductive Endpoint where
  | v4 (address : Ipv4) (port : UInt16)
  | v6 (address : Ipv6) (port : UInt16) (scope : UInt32)
  deriving Repr, DecidableEq

namespace Endpoint

/-- The address without port and scope. -/
def address : Endpoint → IpAddress
  | .v4 i _ => .v4 i
  | .v6 i _ _ => .v6 i

/-- The port. -/
def port : Endpoint → UInt16
  | .v4 _ p => p
  | .v6 _ p _ => p

/-- The endpoint of an address and a port, without a scope. -/
def of : IpAddress → UInt16 → Endpoint
  | .v4 i, p => .v4 i p
  | .v6 i, p => .v6 i p 0

/-- The same endpoint with another port. -/
def withPort : Endpoint → UInt16 → Endpoint
  | .v4 i _, p => .v4 i p
  | .v6 i _ s, p => .v6 i p s

/-- The scope as it stands after an address; nothing for none. -/
def renderScope (scope : UInt32) : List Char :=
  if scope = 0 then [] else '%' :: decimal scope.toNat

/-- The host part of the text of an endpoint; the long family stands in brackets. -/
def renderHost : Endpoint → List Char
  | .v4 i _ => i.render
  | .v6 i _ s => '[' :: i.render ++ renderScope s ++ [']']

/-- **The text of an endpoint.** -/
def render (e : Endpoint) : List Char :=
  e.renderHost ++ ':' :: decimal e.port.toNat

/-- Cuts a text at the last occurrence of a character, which goes to neither side. -/
def cutLast? (c : Char) (cs : List Char) : Option (List Char × List Char) :=
  let tail := cs.reverse.takeWhile (· != c)
  match cs.reverse.dropWhile (· != c) with
  | [] => none
  | _ :: front => some (front.reverse, tail.reverse)

/-- Reads an address of the long family with an optional scope in decimal digits. -/
def readScoped? (cs : List Char) : Option (Ipv6 × UInt32) :=
  match cutLast? '%' cs with
  | none => (Ipv6.read? cs).map fun i => (i, 0)
  | some (a, s) => do
    let i ← Ipv6.read? a
    let n ← digits? 10 0xFFFFFFFF s
    return (i, .ofNat n)

/-- **Reads an endpoint:** a short address or a bracketed long one, a colon and a port. -/
def read? (cs : List Char) : Option Endpoint := do
  let (host, port) ← cutLast? ':' cs
  let p ← digits? 10 0xFFFF port
  match host with
  | '[' :: inner =>
    if inner.getLast? = some ']' then
      let (i, s) ← readScoped? inner.dropLast
      return .v6 i (.ofNat p) s
    else none
  | _ =>
    let i ← Ipv4.read? host
    return .v4 i (.ofNat p)

end Endpoint

end Switchboard.Net
