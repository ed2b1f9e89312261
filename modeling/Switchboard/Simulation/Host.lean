import Switchboard.Net.Network

/-!
# A host in memory

One host with its loopback interface, as a network for an exchange and for the peers that the exchange
talks to.  Delivery is immediate, in order and without loss.

* A datagram goes to the socket that is bound to its destination; a socket that is tied to a remote
  end hears from that end alone.  A datagram to nobody comes back as a refusal, which the next call
  on a tied socket shows.
* A connection to an acceptor stands at once, whether it was taken in or not.  What was sent before
  several reads is read together, and the end of the other side shows after the data, unless it was
  broken off.
* While the interface is down, nothing on the host reaches anything.  The host then does not know its
  own addresses either: any short address can be bound, and no long one but the unspecified.
-/

namespace Switchboard.Simulation

open Net Settings

/-! ### The state -/

/-- Who has a socket. -/
inductive Holder where
  | exchange (id : SocketId)
  | peer (name : String)
  deriving Repr, DecidableEq

/-- A socket for datagrams. -/
structure DatagramSocket where
  holder : Holder
  own : Endpoint
  /-- The remote end that the socket is tied to. -/
  far : Option Endpoint := none
  inbox : List Arrival := []
  /-- A datagram that was sent before has come back. -/
  refused : Bool := false
  deriving Repr, DecidableEq

/-- A socket that takes connections in. -/
structure Acceptor where
  holder : Holder
  own : Endpoint
  /-- The connections that were not taken in yet. -/
  waiting : List Nat := []
  deriving Repr, DecidableEq

/-- How the other side of a connection has gone. -/
inductive Gone where
  | closed
  | reset
  deriving Repr, DecidableEq

/-- One end of a connection. -/
structure ConnectionEnd where
  own : Endpoint
  /-- Nobody has the end before it is taken in and after it is closed. -/
  holder : Option Holder := none
  unread : Bytes := []
  /-- Whether and how the other side has gone. -/
  otherGone : Option Gone := none
  deriving Repr, DecidableEq

/-- A connection, with the end that called and the end that was called. -/
structure Connection where
  number : Nat
  caller : ConnectionEnd
  callee : ConnectionEnd
  deriving Repr, DecidableEq

/-- **A host.** -/
structure Host where
  /-- Is the loopback interface up? -/
  isUp : Bool := false
  datagrams : List DatagramSocket := []
  acceptors : List Acceptor := []
  connections : List Connection := []
  /-- The connections of the exchange that nobody answered. -/
  refused : List SocketId := []
  /-- The ports that the host has given out by itself. -/
  drawn : List UInt16 := []
  nextConnection : Nat := 0
  /-- The sockets that were reported ready while there was no room for all. -/
  turn : List SocketId := []
  deriving Repr, DecidableEq

namespace Host

/-! ### Addresses -/

/-- Is it an address of the loopback interface? -/
def isLoopback : IpAddress → Bool
  | .v4 i => i.a == 127
  | .v6 i => i.toList == [0, 0, 0, 0, 0, 0, 0, 1]

/-- Can a socket be bound to the address? -/
def isBindable (h : Host) (i : IpAddress) : Bool :=
  i.isUnspecified ||
    if h.isUp then isLoopback i
    else match i with
      | .v4 _ => true
      | .v6 _ => false

/-- Do sockets bound to the two addresses hear the same?  The unspecified address of the long family
stands for those of the short one, too. -/
def overlap (i j : IpAddress) : Bool :=
  i == j ||
    match i, j with
    | .v4 a, .v4 b => a == .unspecified || b == .unspecified
    | .v6 a, .v6 b => a == .unspecified || b == .unspecified
    | .v6 a, .v4 _ => a == .unspecified
    | .v4 _, .v6 b => b == .unspecified

/-- Do the endpoints of two sockets collide? -/
def collide (e f : Endpoint) : Bool :=
  e.port == f.port && overlap e.address f.address

/-- The endpoint under which a socket is seen from the host itself. -/
def seenAs : Endpoint → Endpoint
  | .v4 i p => .v4 (if i = .unspecified then .loopback else i) p
  | .v6 i p s => .v6 (if i = .unspecified then ⟨⟨#[0, 0, 0, 0, 0, 0, 0, 1], rfl⟩⟩ else i) p s

/-- Is it the address of a group of hosts?  Datagrams go to it, though nobody here is in a group. -/
def isGroup : IpAddress → Bool
  | .v4 i => 224 ≤ i.a && i.a ≤ 239
  | .v6 _ => false

/-- Can the endpoint be reached over the transport? -/
def isReachable (h : Host) (t : Transport) (e : Endpoint) : Bool :=
  h.isUp && (isLoopback (seenAs e).address || t == .datagram && isGroup e.address)

/-- The endpoints that are taken for a transport. -/
def taken (h : Host) : Transport → List Endpoint
  | .datagram => h.datagrams.map (·.own)
  | .stream => h.acceptors.map (·.own)

/-- A port that was never given out before. -/
def freePort (h : Host) : UInt16 :=
  (((List.range 4000).map fun n => UInt16.ofNat (61000 + n)).find? fun p =>
    !h.drawn.contains p).getD 61000

/-- The endpoint with a port of its own in the place of port zero. -/
def settlePort (h : Host) (e : Endpoint) : Endpoint × Host :=
  if e.port = 0 then (e.withPort h.freePort, { h with drawn := h.freePort :: h.drawn }) else (e, h)

/-- The endpoint of a new socket, if it can be bound. -/
def claim (t : Transport) (e : Endpoint) (h : Host) : Except SocketError Endpoint × Host :=
  if h.isBindable e.address = false then (.error .addressNotAvailable, h)
  else
    let (own, h') := h.settlePort e
    if (h.taken t).any (collide own) = true then (.error .addressInUse, h) else (.ok own, h')

/-! ### Datagrams -/

/-- Does the socket hear what comes from `sender` to `target`? -/
def hears (s : DatagramSocket) (sender target : Endpoint) : Bool :=
  s.own.port == target.port && overlap s.own.address target.address && s.far.all (· == sender)

/-- The socket with one more datagram. -/
def withArrival (a : Arrival) (s : DatagramSocket) : DatagramSocket :=
  { s with inbox := s.inbox ++ [a] }

/-- Changes the sockets of a holder. -/
def modifyDatagram (who : Holder) (f : DatagramSocket → DatagramSocket) (h : Host) : Host :=
  { h with datagrams := h.datagrams.map fun s => if s.holder = who then f s else s }

/-- The datagram socket of a holder. -/
def datagram? (h : Host) (who : Holder) : Option DatagramSocket :=
  h.datagrams.find? (·.holder == who)

/-- Brings a datagram to the socket that hears it, or a refusal back to a tied sender. -/
def carry (s : DatagramSocket) (target : Endpoint) (data : Bytes) (h : Host) : Host :=
  let sender := seenAs s.own
  let target := seenAs target
  match h.datagrams.find? fun r => hears r sender target with
  | some r => h.modifyDatagram r.holder (withArrival ⟨data, sender⟩)
  | none =>
    if s.far.isSome && !isGroup target.address then
      h.modifyDatagram s.holder ({ · with refused := true })
    else h

/-- Are the endpoints of one family? -/
def sameFamily : Endpoint → Endpoint → Bool
  | .v4 .., .v4 .. => true
  | .v6 .., .v6 .. => true
  | _, _ => false

/-- The most bytes of a datagram. -/
def largestDatagram : Nat :=
  65507

/-- Sends a datagram from the socket of a holder. -/
def sendDatagram (who : Holder) (target : Option Endpoint) (data : Bytes) (h : Host) : Sent × Host :=
  match h.datagram? who with
  | none => (.failed .unreachable, h)
  | some s =>
    if s.refused = true then
      (.failed .refused, h.modifyDatagram who ({ · with refused := false }))
    else
      match target <|> s.far with
      | none => (.failed .unreachable, h)
      | some e =>
        if h.isReachable .datagram e = false ∨ sameFamily s.own e = false then (.failed .unreachable, h)
        else if largestDatagram < data.length then (.failed .tooLarge, h)
        else (.took data.length, h.carry s e data)

/-! ### Connections -/

/-- Changes one connection. -/
def modifyConnection (n : Nat) (f : Connection → Connection) (h : Host) : Host :=
  { h with connections := h.connections.map fun c => if c.number = n then f c else c }

/-- A place at one end of a connection: its number, and whether it is the calling end. -/
structure Place where
  number : Nat
  isCaller : Bool
  deriving Repr, DecidableEq

/-- The end of a connection at a place. -/
def endAt (p : Place) (c : Connection) : ConnectionEnd :=
  if p.isCaller then c.caller else c.callee

/-- The two ends of a connection, changed: first the one at the place, then the other. -/
def modifyAt (p : Place) (near far : ConnectionEnd → ConnectionEnd) (c : Connection) :
    Connection :=
  if p.isCaller then { c with caller := near c.caller, callee := far c.callee }
  else { c with caller := far c.caller, callee := near c.callee }

/-- Changes the two ends of the connection at a place. -/
def modifyEnds (p : Place) (near far : ConnectionEnd → ConnectionEnd) (h : Host) : Host :=
  h.modifyConnection p.number (modifyAt p near far)

/-- The end at a place. -/
def end? (h : Host) (p : Place) : Option ConnectionEnd :=
  (h.connections.find? (·.number == p.number)).map (endAt p)

/-- The places of the ends that a holder has. -/
def placesOf (h : Host) (who : Holder) : List Place :=
  h.connections.flatMap fun c =>
    (if c.caller.holder = some who then [⟨c.number, true⟩] else []) ++
      if c.callee.holder = some who then [⟨c.number, false⟩] else []

/-- Calls an acceptor.  The connection stands at once. -/
def call (who : Holder) (own target : Endpoint) (h : Host) : Option Nat × Host :=
  match h.acceptors.find? fun a => collide a.own (seenAs target) with
  | none => (none, h)
  | some a =>
    let c : Connection :=
      ⟨h.nextConnection, { own := seenAs own, holder := some who }, { own := seenAs target }⟩
    (some c.number,
      { h with
        connections := h.connections ++ [c]
        nextConnection := h.nextConnection + 1
        acceptors := h.acceptors.map fun b =>
          if b = a then { b with waiting := b.waiting ++ [c.number] } else b })

/-- Takes in the connections that wait at the acceptor of a holder; they have no holder yet. -/
def takeWaiting (who : Holder) (h : Host) : List Nat × Host :=
  match h.acceptors.find? (·.holder == who) with
  | none => ([], h)
  | some a =>
    (a.waiting, { h with acceptors := h.acceptors.map fun b =>
      if b.holder = who then { b with waiting := [] } else b })

/-- Gives the called end of a connection to a holder. -/
def give (n : Nat) (who : Holder) (h : Host) : Host :=
  h.modifyEnds ⟨n, false⟩ ({ · with holder := some who }) id

/-- Sends over a connection. -/
def sendOver (p : Place) (data : Bytes) (h : Host) : Sent × Host :=
  match h.end? p with
  | none => (.failed .brokenPipe, h)
  | some e =>
    if e.otherGone.isSome = true then (.failed .brokenPipe, h)
    else (.took data.length, h.modifyEnds p id fun f => { f with unread := f.unread ++ data })

/-- Reads all that is there at an end. -/
def readEnd (p : Place) (h : Host) : Inflow × Host :=
  match h.end? p with
  | none => (⟨[], .failed .reset⟩, h)
  | some e =>
    if e.otherGone = some .reset then (⟨[], .failed .reset⟩, h)
    else
      (⟨if e.unread = [] then [] else [⟨e.unread, e.own⟩],
        if e.otherGone.isSome = true then .closed else .dry⟩,
        h.modifyEnds p ({ · with unread := [] }) id)

/-- Closes an end.  The other side sees the connection broken off if that is asked for, or if not
all was read that it had sent. -/
def closeEnd (p : Place) (reset : Bool) (h : Host) : Host :=
  match h.end? p with
  | none => h
  | some e =>
    let how := if reset = true ∨ e.unread ≠ [] then Gone.reset else .closed
    h.modifyEnds p ({ · with holder := none, unread := [] }) ({ · with otherGone := some how })

/-- Lets go of all that a holder has, connections aside. -/
def unbind (who : Holder) (h : Host) : Host :=
  let waiting := (h.acceptors.filter (·.holder == who)).flatMap (·.waiting)
  waiting.foldl (fun h n => h.closeEnd ⟨n, false⟩ true)
    { h with
      datagrams := h.datagrams.filter (·.holder != who)
      acceptors := h.acceptors.filter (·.holder != who) }

/-! ### The calls of an exchange -/

/-- Opens the listener of the exchange. -/
def listen (t : Transport) (id : SocketId) (e : Endpoint) (h : Host) :
    Except SocketError Endpoint × Host :=
  match h.claim t e with
  | (.error err, h) => (.error err, h)
  | (.ok own, h) =>
    match t with
    | .datagram =>
      (.ok own, { h with datagrams := h.datagrams ++ [{ holder := .exchange id, own }] })
    | .stream =>
      (.ok own, { h with acceptors := h.acceptors ++ [{ holder := .exchange id, own }] })

/-- Opens a socket of the exchange to a remote end. -/
def connect (t : Transport) (id : SocketId) (remote : Endpoint) (h : Host) :
    Except SocketError Endpoint × Host :=
  if h.isReachable t remote = false then (.error .unreachable, h)
  else
    let (own, h) := h.settlePort (seenAs (.of remote.address.unspecifiedLike 0))
    match t with
    | .datagram =>
      (.ok own, { h with datagrams := h.datagrams ++
        [{ holder := .exchange id, own, far := some (seenAs remote) }] })
    | .stream =>
      match h.call (.exchange id) own remote with
      | (some _, h) => (.ok own, h)
      | (none, h) => (.ok own, { h with refused := id :: h.refused })

/-- Whether a socket has something to read, can be written, and has failed. -/
def state (h : Host) (id : SocketId) : Bool × Bool × Bool :=
  match h.datagram? (.exchange id) with
  | some s => (s.inbox ≠ [], true, s.refused)
  | none =>
    match h.acceptors.find? (·.holder == .exchange id) with
    | some a => (a.waiting ≠ [], false, false)
    | none =>
      if h.refused.contains id then (true, true, true)
      else
        match (h.placesOf (.exchange id)).head?.bind h.end? with
        | some e => (e.unread ≠ [] || e.otherGone.isSome, true, e.otherGone == some .reset)
        | none => (false, false, false)

/-- What a poll tells about a socket, if there is anything to tell. -/
def readiness? (h : Host) (id : SocketId) (interest : Interest) : Option Readiness :=
  let (readable, writable, failed) := h.state id
  let r : Readiness := ⟨id, readable && interest.read || failed, writable && interest.write || failed⟩
  if r.readable || r.writable then some r else none

/-- Polls the sockets of the exchange.  Where there is no room for all that are ready, those that had
no turn yet come first. -/
def poll (sockets : List (SocketId × Interest)) (capacity : Nat) (h : Host) :
    List Readiness × Host :=
  let ready := sockets.filterMap fun (id, i) => h.readiness? id i
  let (had, fresh) := ready.partition fun r => h.turn.contains r.socket
  let reported := (fresh ++ had).take capacity
  let turn :=
    if ready.length ≤ capacity then []
    else (if fresh = [] then [] else h.turn) ++ reported.map (·.socket)
  (reported, { h with turn })

/-- Reads a socket of the exchange. -/
def receive (id : SocketId) (h : Host) : Inflow × Host :=
  match h.datagram? (.exchange id) with
  | some s =>
    if s.refused = true then
      (⟨[], .failed .refused⟩, h.modifyDatagram (.exchange id) ({ · with refused := false }))
    else (⟨s.inbox, .dry⟩, h.modifyDatagram (.exchange id) ({ · with inbox := [] }))
  | none =>
    match h.placesOf (.exchange id) with
    | p :: _ => h.readEnd p
    | [] => (⟨[], .failed .reset⟩, h)

/-- Writes to a socket of the exchange. -/
def send (id : SocketId) (target : Option Endpoint) (data : Bytes) (h : Host) : Sent × Host :=
  match h.datagram? (.exchange id) with
  | some _ => h.sendDatagram (.exchange id) target data
  | none =>
    match h.placesOf (.exchange id) with
    | p :: _ => h.sendOver p data
    | [] => (.failed .brokenPipe, h)

/-- Closes a socket of the exchange. -/
def close (id : SocketId) (h : Host) : Host :=
  let h := (h.placesOf (.exchange id)).foldl (fun h p => h.closeEnd p false) h
  unbind (.exchange id) { h with refused := h.refused.filter (· != id) }

/-- **The host as the network of an exchange.** -/
instance : Network Host where
  listen := listen
  connect := connect
  poll := poll
  accept id h :=
    let (ns, h) := h.takeWaiting (.exchange id)
    (ns.filterMap fun n => (h.end? ⟨n, true⟩).map fun e => (n, e.own), h)
  adopt n id h :=
    match h.end? ⟨n, false⟩ with
    | some e => (.ok e.own, h.give n (.exchange id))
    | none => (.error .reset, h)
  failure? id h := (if h.refused.contains id then some .refused else none, h)
  receive := receive
  send := send
  close := close

end Host

end Switchboard.Simulation
