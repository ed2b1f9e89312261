import Switchboard.Simulation.Session.Basic

/-!
# The steps of the peers

What the peers of a session do: they send, receive, accept, connect, hang up, leave and come back.
-/

namespace Switchboard.Simulation

open Net Settings

namespace Session

/-- The endpoint of a socket of the exchange. -/
def endpointOf? (s : Session) (t : Target) : Option Endpoint :=
  let id := match t with
    | .listener => s.exchange.listener
    | .channel id => s.exchange.directory.socketOf id
    | .socket id => some id
  id.bind fun id => (s.exchange.sockets.find? id).map (·.ownEnd)

/-- Which socket of the exchange has an endpoint. -/
def originOf (s : Session) (e : Endpoint) : Origin :=
  match (s.exchange.sockets.idsWhere fun _ k => k.ownEnd.port == e.port).head? with
  | some id => if s.exchange.isListener id then .listener else .socket id
  | none => .gone

/-- A peer sends a datagram. -/
def sendDatagram (p : Peer) (target : Option Target) (data : Bytes) (s : Session) :
    Answer × Session :=
  if p.isThere = false then (.misstep .badStep, s)
  else
    match target.bind s.endpointOf? with
    | none => (.misstep .nowhere, s)
    | some e =>
      match s.host.sendDatagram (.peer p.name) (some e) data with
      | (.took _, h) => (.flag true, s.withHost h)
      | (_, h) => (.flag false, s.withHost h)

/-- A peer sends over a connection. -/
def sendOver (p : Peer) (data : Bytes) (connection : Option Nat) (s : Session) :
    Answer × Session :=
  match p.place? connection with
  | none => (.misstep .badStep, s)
  | some place =>
    match s.host.sendOver place data with
    | (.took _, h) => (.flag true, s.withHost h)
    | (_, h) => (.flag false, s.withHost h)

/-- A peer takes the datagrams that are there. -/
def receiveDatagrams (p : Peer) (s : Session) : Answer × Session :=
  match s.host.datagram? (.peer p.name) with
  | none => (.misstep .badStep, s)
  | some k =>
    (.datagrams (k.inbox.map fun a => (s.originOf a.sender, a.data)),
      s.withHost (s.host.modifyDatagram (.peer p.name) ({ · with inbox := [] })))

/-- A peer reads what is there on a connection. -/
def receiveData (p : Peer) (connection : Option Nat) (s : Session) : Answer × Session :=
  match p.place? connection with
  | none => (.misstep .badStep, s)
  | some place =>
    let (inflow, h) := s.host.readEnd place
    (.data (inflow.arrivals.flatMap (·.data)), s.withHost h)

/-- A peer takes in the connections that wait, at most `limit`; gives where they come from. -/
def accept (p : Peer) (limit : Option Nat) (s : Session) : List Origin × Session :=
  let (es, p, h) := p.accept limit s.host
  (es.map s.originOf, (s.withPeer p).withHost h)

/-- A peer takes in one connection. -/
def acceptOne (p : Peer) (s : Session) : Answer × Session :=
  if p.canAccept = false then (.misstep .badStep, s)
  else
    match s.accept p (some 1) with
    | (o :: _, s) => (.origin o, s)
    | ([], s) => (.misstep .nobody, s)

/-- A peer takes in all connections that wait. -/
def acceptAll (p : Peer) (s : Session) : Answer × Session :=
  if p.canAccept = false then (.misstep .badStep, s)
  else
    let (os, s) := s.accept p none
    (.origins os, s)

/-- A peer connects to the listener. -/
def connect (p : Peer) (s : Session) : Answer × Session :=
  if p.kind ≠ .client then (.misstep .badStep, s)
  else
    match s.endpointOf? .listener with
    | none => (.misstep .nowhere, s)
    | some e =>
      match p.connect e s.host with
      | (.ok p, h) => (.ok, (s.withPeer p).withHost h)
      | (.error cause, h) => (.unconnected cause, s.withHost h)

/-- A peer waits for the end of a connection. -/
def receiveEnd (p : Peer) (connection : Option Nat) (s : Session) : Answer × Session :=
  match (p.place? connection).bind s.host.end? with
  | none => (.misstep .badStep, s)
  | some e => (if e.otherGone.isSome then .closed else .nothing, s)

/-- A peer closes a connection and forgets it. -/
def hangUp (p : Peer) (reset : Bool) (connection : Option Nat) (s : Session) : Answer × Session :=
  match p.place? connection with
  | none => (.misstep .badStep, s)
  | some place => (.nothing, (s.withPeer (p.forget place)).withHost (s.host.closeEnd place reset))

/-- A peer comes back. -/
def comeBack (p : Peer) (s : Session) : Answer × Session :=
  match p.comeBack s.host with
  | (.ok p, h) => (.ok, (s.withPeer p).withHost h)
  | (.error e, h) => (.refused (.socket e), s.withHost h)

/-- What a peer of a name does, if there is one. -/
def asPeer (name : String) (f : Peer → Session → Answer × Session) (s : Session) :
    Answer × List Event × Session :=
  match s.peer? name with
  | none => (.misstep .noPeer, [], s)
  | some p =>
    let (a, s) := f p s
    (a, [], s)

end Session

end Switchboard.Simulation
