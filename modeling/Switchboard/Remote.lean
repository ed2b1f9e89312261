import Switchboard.Error
import Switchboard.Net.HostName
import Switchboard.Text.Blank

/-!
# Remotes

A remote is the far end of a channel: one concrete endpoint, or a mask in which the host, the port
or both are left open.

* `Remote.read` and `Remote.ofParts` read the written forms.
* `Remote.render` writes them.
* `Remote.tier?` says whether a sender matches, and how closely.
-/

namespace Switchboard

open Net Text

/-- The far end of a channel.  In a mask, what is `none` matches everything. -/
inductive Remote where
  | endpoint (e : Endpoint)
  | mask (host : Option IpAddress) (port : Option UInt16)
  deriving Repr, DecidableEq

/-- How closely a sender matched a remote, the closest first. -/
inductive Tier where
  | exact
  | anyHost
  | anyPort
  | any
  deriving Repr, DecidableEq

namespace Tier

/-- The place of a tier in the order of preference. -/
def rank : Tier → Nat
  | .exact => 0
  | .anyHost => 1
  | .anyPort => 2
  | .any => 3

end Tier

namespace Remote

/-- Is host or port left open? -/
def isMask : Remote → Bool
  | .endpoint _ => false
  | .mask _ _ => true

/-- The concrete endpoint, unless the remote is a mask. -/
def endpoint? : Remote → Option Endpoint
  | .endpoint e => some e
  | .mask _ _ => none

/-- The host, unless it is left open. -/
def host? : Remote → Option IpAddress
  | .endpoint e => some e.address
  | .mask host _ => host

/-- The port, unless it is left open. -/
def port? : Remote → Option UInt16
  | .endpoint e => some e.port
  | .mask _ port => port

/-! ### Matching -/

/-- **How closely a sender matches.**  A concrete remote matches its own endpoint only; a mask
compares the parts it has. -/
def tier? (r : Remote) (sender : Endpoint) : Option Tier :=
  match r with
  | .endpoint e => if e = sender then some .exact else none
  | .mask none (some p) => if p = sender.port then some .anyHost else none
  | .mask (some h) none => if h = sender.address then some .anyPort else none
  | .mask none none => some .any
  | .mask (some h) (some p) =>
    if h = sender.address ∧ p = sender.port then some .exact else none

/-! ### Texts -/

/-- The text of the host of a mask; an address of the long family stands in brackets. -/
def renderHost : Option IpAddress → List Char
  | none => ['*']
  | some (.v4 i) => i.render
  | some (.v6 i) => '[' :: i.render ++ [']']

/-- The text of the port of a mask. -/
def renderPort : Option UInt16 → List Char
  | none => ['*']
  | some p => decimal p.toNat

/-- The characters of the text of a remote. -/
def renderChars : Remote → List Char
  | .endpoint e => e.render
  | .mask host port => renderHost host ++ ':' :: renderPort port

/-- **The text of a remote.** -/
def render (r : Remote) : String :=
  String.ofList r.renderChars

/-- The port of a written remote: a star, or a number of 16 bits. -/
def port (cs : List Char) : Option (Option UInt16) :=
  if cs = ['*'] then some none
  else (natural? 0xFFFF cs).map fun n => some (.ofNat n)

/-- The remote of a host and a port text without blanks around them. -/
def ofTrimmed? (host portText : List Char) : Option Remote := do
  let p ← port portText
  if host = ['*'] then
    return .mask none p
  else
    match p with
    | some n => return .endpoint (← HostName.endpoint? host n)
    | none =>
      let e ← HostName.endpoint? host 0
      return .mask (some e.address) none

/-- **Builds a remote from the texts of its host and its port,** either of which may be a star.
Blanks around them do not count. -/
def ofParts (host portText : List Char) : Except Error Remote :=
  match ofTrimmed? (trim host) (trim portText) with
  | some r => .ok r
  | none => .error (.invalidAddress (String.ofList (trim host ++ ':' :: trim portText)))

/-- A host without the brackets around it, if it has both. -/
def unbracket (host : List Char) : List Char :=
  match host with
  | '[' :: inner => if inner.getLast? = some ']' then inner.dropLast else host
  | _ => host

/-- **Reads a remote:** a host, perhaps in brackets, and a port after the last colon. -/
def read (text : String) : Except Error Remote :=
  match Endpoint.cutLast? ':' (trim text.toList) with
  | some (host, portText) => ofParts (unbracket host) portText
  | none => .error (.invalidAddress text)

end Remote

end Switchboard
