import Switchboard.Settings.Configuration
import Switchboard.Sharing

/-!
# The profile of an exchange

The settings that an exchange works by, and how they are read from a configuration: every key is
looked up under the name of the exchange first, then at the root, and has a default.  A key that
nobody reads is refused, so that a slip of the pen does not pass for a default.
-/

namespace Switchboard.Settings

open Net

/-- How sockets talk: datagrams or connections. -/
inductive Transport where
  | datagram
  | stream
  deriving Repr, DecidableEq

/-- The word for a transport. -/
def Transport.name : Transport → String
  | .datagram => "udp"
  | .stream => "tcp"

/-- The transport of a word. -/
def Transport.read (word : String) : Except Error Transport :=
  if word = "udp" then .ok .datagram
  else if word = "tcp" then .ok .stream
  else .error (.unknownTransport word)

/-- **The settings of an exchange.** -/
structure Profile where
  transport : Transport := .datagram
  /-- The most bytes that one read takes. -/
  bufferSize : Nat := 1024
  /-- The seconds before a failed socket is tried again. -/
  retryInterval : Nat := 5
  listenerAddress : IpAddress := .v4 .unspecified
  /-- The port of the listener; zero takes a free one. -/
  port : UInt16 := 25002
  /-- The milliseconds between two polls. -/
  pollInterval : Nat := 10
  /-- The most sockets that one poll serves. -/
  pollCapacity : Nat := 256
  sharing : Sharing := {}
  deriving Repr, DecidableEq

/-- Where the listener is to be reached. -/
def Profile.listenerEndpoint (p : Profile) : Endpoint :=
  .of p.listenerAddress p.port

namespace Profile

/-- The keys that somebody reads. -/
def knownKeys : List String := [
  "transport_type", "buffersize", "retryinterval", "port", "listener_address", "poll_interval",
  "poll_capacity", "itemsharedconnections", "bindingsharedconnections",
  "directionssharedconnections", "addressmask", "protocol", "timeout", "blocking", "preamble",
  "postamble", "updatewithresponse"]

/-- The first key of a table that nobody reads.  At the root a table is the namespace of somebody
else and is let pass. -/
def unknownKey? (atRoot : Bool) (t : Table) : Option String :=
  (List.find? (fun e => !knownKeys.contains e.1 && !(atRoot && e.2.isTable)) t).map (·.1)

/-- Refuses a key that nobody reads, in the namespace or, without a name, at the root. -/
def checkKeys (c : Configuration) (name : String) : Except Error Unit := do
  let entries ←
    if name = "" then .ok c.root.entries
    else
      match c.entriesOf name with
      | .ok es => .ok es
      | .error (.missing _) => .ok []
      | .error e => .error (.lookup e)
  match unknownKey? (name = "") entries with
  | some key => .error (.unknownKey key)
  | none => .ok ()

/-- The transport, or its default. -/
def readTransport (c : Configuration) (name : String) : Except Error Transport := do
  match ← c.string? name "transport_type" with
  | some word => Transport.read word
  | none => return ({} : Profile).transport

/-- The buffer size, which is not zero. -/
def readBufferSize (c : Configuration) (name : String) : Except Error Nat := do
  match (← c.natural? name "buffersize").getD ({} : Profile).bufferSize with
  | 0 => throw (.invalidValue "buffersize" "0")
  | n + 1 => return n + 1

/-- The port, a number of 16 bits. -/
def readPort (c : Configuration) (name : String) : Except Error UInt16 := do
  match ← c.natural? name "port" with
  | none => return ({} : Profile).port
  | some n =>
    if n < 0x10000 then return .ofNat n
    else throw (.invalidValue "port" (String.ofList (Text.decimal n)))

/-- The address of the listener. -/
def readListenerAddress (c : Configuration) (name : String) : Except Error IpAddress := do
  match ← c.string? name "listener_address" with
  | none => return ({} : Profile).listenerAddress
  | some s =>
    match IpAddress.read? s.toList with
    | some i => return i
    | none => throw (.invalidValue "listener_address" s)

/-- The sharing flags, which do not contradict each other. -/
def readSharing (c : Configuration) (name : String) : Except Error Sharing := do
  let d : Sharing := {}
  let item ← c.flag? name "itemsharedconnections"
  let binding ← c.flag? name "bindingsharedconnections"
  let directions ← c.flag? name "directionssharedconnections"
  let masks ← c.flag? name "addressmask"
  let s : Sharing :=
    ⟨item.getD d.item, binding.getD d.binding, directions.getD d.directions, masks.getD d.masks⟩
  s.check
  return s

/-- **Reads a profile,** with the keys under `name` before those at the root. -/
def read (c : Configuration) (name : String) : Except Error Profile := do
  checkKeys c name
  let d : Profile := {}
  let transport ← readTransport c name
  let bufferSize ← readBufferSize c name
  let retryInterval ← c.natural? name "retryinterval"
  let port ← readPort c name
  let listenerAddress ← readListenerAddress c name
  let pollInterval ← c.natural? name "poll_interval"
  let pollCapacity ← c.natural? name "poll_capacity"
  let sharing ← readSharing c name
  return {
    transport, bufferSize, port, listenerAddress, sharing
    retryInterval := retryInterval.getD d.retryInterval
    pollInterval := pollInterval.getD d.pollInterval
    pollCapacity := max 1 (pollCapacity.getD d.pollCapacity) }

end Profile

end Switchboard.Settings
