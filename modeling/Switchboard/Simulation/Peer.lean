import Switchboard.Simulation.Host

/-!
# Peers

The parties on a host that an exchange talks to: sockets for datagrams, acceptors of connections, and
clients that connect to the listener.  A peer that cannot do what it is asked for says so.
-/

namespace Switchboard.Simulation

open Net

/-- What kind of party it is. -/
inductive PeerKind where
  | datagram
  | acceptor
  | client
  /-- Nobody is at the endpoint. -/
  | absent
  deriving Repr, DecidableEq

/-- **A party on the host.** -/
structure Peer where
  name : String
  kind : PeerKind
  own : Endpoint
  isThere : Bool := true
  /-- Its ends of connections, in the order in which it got them. -/
  places : List Host.Place := []
  deriving Repr, DecidableEq

namespace Peer

/-- Does the peer talk in datagrams? -/
def isDatagram (p : Peer) : Bool :=
  p.kind == .datagram

/-- Can the peer take connections in? -/
def canAccept (p : Peer) : Bool :=
  p.kind == .acceptor && p.isThere

/-- Binds the socket of a peer; a client and an absent party have none. -/
def bind (p : Peer) (h : Host) : Except SocketError Unit × Host :=
  match p.kind with
  | .datagram =>
    match h.claim .datagram p.own with
    | (.error e, h) => (.error e, h)
    | (.ok own, h) =>
      (.ok (), { h with datagrams := h.datagrams ++ [{ holder := .peer p.name, own }] })
  | .acceptor =>
    match h.claim .stream p.own with
    | (.error e, h) => (.error e, h)
    | (.ok own, h) =>
      (.ok (), { h with acceptors := h.acceptors ++ [{ holder := .peer p.name, own }] })
  | _ => (.ok (), h)

/-- Binds some peers, one after the other. -/
def bindAll : List Peer → Host → Except SocketError Unit × Host
  | [], h => (.ok (), h)
  | p :: ps, h =>
    match p.bind h with
    | (.error e, h) => (.error e, h)
    | (.ok (), h) => bindAll ps h

/-- The end of a connection by its index; the last one if there is no index. -/
def place? (p : Peer) (index : Option Nat) : Option Host.Place :=
  match index with
  | some i => p.places[i]?
  | none => p.places.getLast?

/-- The peer without an end of a connection. -/
def forget (p : Peer) (place : Host.Place) : Peer :=
  { p with places := p.places.erase place }

/-- Takes in the connections that wait, at most `limit`; gives the endpoints they come from. -/
def accept (limit : Option Nat) (p : Peer) (h : Host) : List Endpoint × Peer × Host :=
  let (ns, h) := h.takeWaiting (.peer p.name)
  let taken := ns.take (limit.getD ns.length)
  let left := ns.drop (limit.getD ns.length)
  let h := { h with acceptors := h.acceptors.map fun a =>
    if a.holder = .peer p.name then { a with waiting := left ++ a.waiting } else a }
  let h := taken.foldl (fun h n => h.give n (.peer p.name)) h
  (taken.filterMap fun n => (h.end? ⟨n, true⟩).map (·.own),
    { p with places := p.places ++ taken.map fun n => ⟨n, false⟩ }, h)

/-- Why a peer could not connect. -/
def connectFailure (h : Host) (target : Endpoint) : SocketError :=
  if h.isReachable .stream target = true then .refused else .unreachable

/-- Connects to an endpoint. -/
def connect (target : Endpoint) (p : Peer) (h : Host) : Except SocketError Peer × Host :=
  if h.isReachable .stream target = false then (.error (connectFailure h target), h)
  else if h.connections.any fun c => c.caller.holder == some (.peer p.name) then
    (.error .addressInUse, h)
  else
    match h.call (.peer p.name) p.own target with
    | (some n, h) => (.ok { p with places := p.places ++ [⟨n, true⟩] }, h)
    | (none, h) => (.error (connectFailure h target), h)

/-- Stops being there.  Connections stay open. -/
def leave (p : Peer) (h : Host) : Peer × Host :=
  ({ p with isThere := false }, h.unbind (.peer p.name))

/-- Starts being there again, with no connections. -/
def comeBack (p : Peer) (h : Host) : Except SocketError Peer × Host :=
  let h := p.places.foldl (fun h place => h.closeEnd place false) h
  let p := { p with isThere := true, places := [] }
  match p.bind h with
  | (.error e, h) => (.error e, h)
  | (.ok (), h) => (.ok p, h)

end Peer

end Switchboard.Simulation
