import Switchboard.Protocol.Catalogue
import Switchboard.Simulation.Peer
import Switchboard.Simulation.Step

/-!
# Sessions

A station on a host with some peers.  This file holds the state of a session and sets it up; the
modules beside it hold the steps that its host and its peers take.

* `Session.start` binds the peers and makes the protocol and the exchange.
-/

namespace Switchboard.Simulation

open Net Settings

/-! ### The state -/

/-- A call in the background. -/
inductive Background where
  | over (a : Answer)
  | writing (c : Channel) (generation : Nat)
  | commanding (w : CommandWaiting Event)

/-- A call in the background, with the notes it has led to. -/
structure Call where
  name : String
  state : Background
  notes : List Event := []

/-- **A session.** -/
structure Session where
  station : Station Host Event
  peers : List Peer := []
  /-- Every channel that was ever given out. -/
  handles : List Channel := []
  calls : List Call := []
  /-- Does somebody poll all the time? -/
  isTicking : Bool := false

namespace Session

/-- The exchange of a session. -/
def exchange (s : Session) : Exchange Host :=
  s.station.exchange

/-- The host of a session. -/
def host (s : Session) : Host :=
  s.exchange.network

/-- Changes the exchange. -/
def withExchange (x : Exchange Host) (s : Session) : Session :=
  { s with station := { s.station with exchange := x } }

/-- Changes the host. -/
def withHost (h : Host) (s : Session) : Session :=
  s.withExchange { s.exchange with network := h }

/-- Changes the station. -/
def withStation (st : Station Host Event) (s : Session) : Session :=
  { s with station := st }

/-- The handle of a channel. -/
def handle? (s : Session) (id : ChannelId) : Option Channel :=
  s.handles.find? (·.id == id)

/-- Keeps the handles of some channels. -/
def remember (cs : List Channel) (s : Session) : Session :=
  { s with handles := s.handles ++ cs.filter fun c => !s.handles.contains c }

/-- The peer of a name. -/
def peer? (s : Session) (name : String) : Option Peer :=
  s.peers.find? (·.name == name)

/-- Changes a peer. -/
def withPeer (p : Peer) (s : Session) : Session :=
  { s with peers := s.peers.map fun q => if q.name = p.name then p else q }

/-! ### Setting up -/

/-- Why a session could not be set up. -/
inductive SetupError where
  | refused (e : Error)
  /-- A peer could not be bound. -/
  | noPeer (cause : SocketError)

/-- What lies below every configuration: a free port of the loopback address. -/
def baseDefaults : List (String × Value) :=
  [("port", .text "0"), ("listener_address", .text "127.0.0.1")]

/-- The configuration of a source. -/
def configure (source : Source) : Except Error Configuration :=
  match Configuration.build (baseDefaults ++ source.defaults) source.overrides with
  | .ok c => .ok c
  | .error e => .error (.lookup e)

/-- How the protocol of a session is chosen. -/
inductive Speech where
  /-- Commands go out as they are; with a number of milliseconds, replies are waited for. -/
  | plain (timeout : Option Nat)
  /-- The configuration says which protocol it is. -/
  | configured

/-- The protocol of a session, before the notes. -/
def speaker (speech : Speech) (c : Configuration) (name : String) : Except Error Speaker :=
  match speech with
  | .plain timeout => .ok (.plain timeout)
  | .configured => (Catalogue.builtin Speaker.line).createConfigured c name

/-- What a session starts from. -/
structure Setup where
  name : String
  source : Source
  speech : Speech
  greeting : Option String
  echo : Option String
  peers : List Peer
  /-- A host starts with its loopback interface down. -/
  isUp : Bool := false

/-- **Sets a session up:** the peers, then the protocol, then the exchange. -/
def start (setup : Setup) : Except SetupError Session :=
  match Peer.bindAll setup.peers { isUp := setup.isUp } with
  | (.error e, _) => .error (.noPeer e)
  | (.ok (), host) =>
    let made : Except Error Session := do
      let c ← configure setup.source
      let speaker ← speaker setup.speech c setup.name
      let profile ← Profile.read c setup.name
      let exchange ← Exchange.create setup.name profile host
      let observer : Observer := { speaker, greeting := setup.greeting, echo := setup.echo }
      return {
        station := { exchange := { exchange with clock := 1000 }, protocol := observer.toProtocol }
        peers := setup.peers }
    match made with
    | .error e => .error (.refused e)
    | .ok s => .ok s

end Session

end Switchboard.Simulation
