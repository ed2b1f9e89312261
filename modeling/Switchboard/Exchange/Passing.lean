import Switchboard.Exchange.Replacement

/-!
# Passing data on

One pass over the sockets that are ready: reading what has arrived, handing it to those it is for,
and sending the writes that wait, without ever blocking.

* `route` hands one buffer to the caller who waits for it, or else to the protocol.
* `readSocket` reads a socket until it has nothing more.
* `writeSocket` sends the writes of a socket, the oldest first, until nothing may go any more.
* `poll` serves every socket that is ready.
-/

namespace Switchboard.Exchange

open Net Settings

variable {ν : Type} [Network ν]

/-! ### Taking connections in -/

/-- Makes a socket of one connection, or lets it go. -/
def takeIn (x : Exchange ν) (connection : Nat × Endpoint) : Exchange ν :=
  match Network.adopt connection.1 x.nextSocket x.network with
  | (.error _, network) => { x with network }
  | (.ok ownEnd, network) => track (Socket.taken ownEnd connection.2) { x with network }

/-- Takes in every connection that waits at the listener. -/
def acceptConnections (id : SocketId) (x : Exchange ν) : Exchange ν :=
  let (waiting, network) := Network.accept id x.network
  waiting.foldl takeIn { x with network }

/-- Completes a connection that was being established; says whether it stands. -/
def finishConnect (id : SocketId) (x : Exchange ν) : Bool × Exchange ν :=
  match (x.sockets.find? id).map Socket.medium with
  | some .connection =>
    match Network.failure? id x.network with
    | (none, network) =>
      let y := { x with network }.modifySocket id fun s =>
        { s with phase := .active, interest := ⟨true, true⟩ }
      (true, y.announceAll id (y.directory.onSocket id))
    | (some _, network) => (false, (reportFault id { x with network }).2)
  | _ => (false, x)

/-! ### Reading -/

/-- The channels that a buffer read on a socket may be for. -/
def audience (id : SocketId) (role : Role) (sender : Option Endpoint) (x : Exchange ν) :
    List Channel :=
  match role with
  | .outbound => x.directory.onSocket id
  | _ =>
    match x.listener, sender with
    | some l, some e => x.directory.recipients l e
    | _, _ => []

/-- Hands a buffer to the protocol for one channel.  A channel with a mask remembers the sender. -/
def deliver (sender : Option Endpoint) (data : Bytes) (x : Exchange ν) (c : Channel) :
    Exchange ν :=
  let y := match sender with
    | some e =>
      if c.remote.isMask = true then
        x.onDirectory (·.modifyStatus c fun s => { s with lastSender := some e })
      else x
    | none => x
  { y with inbox := y.inbox ++ [⟨c, data⟩] }

/-- **Hands a buffer on:** to the caller who waits for it on one of the channels that it may be for,
or else to the protocol for every one of them. -/
def route (id : SocketId) (role : Role) (sender : Option Endpoint) (data : Bytes)
    (x : Exchange ν) : Exchange ν :=
  let cs := x.audience id role sender
  match cs.find? x.directory.isAwaiting with
  | some c =>
    (x.onDirectory (·.modifyCall c fun b => (b.fulfil data).2)).record
      (.received id sender data (.caller c))
  | none =>
    (cs.foldl (deliver sender data) x).record (.received id sender data (.protocol cs))

/-- The reads that take a run of bytes: at most `size` bytes each.  `fuel` bounds their number. -/
def pieces (size : Nat) : Nat → Bytes → List Bytes
  | 0, _ => []
  | _ + 1, [] => []
  | fuel + 1, bs => bs.take size :: pieces size fuel (bs.drop size)

/-- The buffers that the reads of one arrival give.  What a datagram has beyond the size of the
buffer is lost, and one that leaves nothing in the buffer is ignored; a connection goes on with the
rest. -/
def buffers (medium : Medium) (size : Nat) (data : Bytes) : List Bytes :=
  match medium with
  | .connection => pieces size data.length data
  | _ => if data.take size = [] then [] else [data.take size]

/-- What the reads of an inflow come upon.  A read of a connection that has no room for a byte gets
none though some are there, and that looks like the end of the connection. -/
def readable (medium : Medium) (size : Nat) (inflow : Inflow) : Inflow :=
  if medium = .connection ∧ size = 0 ∧ inflow.arrivals.any (·.data != []) = true then ⟨[], .closed⟩
  else inflow

/-- Hands on what one arrival brought. -/
def take (id : SocketId) (s : Socket) (x : Exchange ν) (a : Arrival) : Exchange ν :=
  let sender := if s.role = .listener then some a.sender else s.farEnd
  (buffers s.medium x.profile.bufferSize a.data).foldl (fun x data => x.route id s.role sender data) x

/-- The most bytes that fit into the address space. -/
def largestBuffer : Nat :=
  0x7FFFFFFFFFFFFFFF

/-- **Reads a socket until it has nothing more;** says whether it is still usable.  A failure of the
listener is passed over. -/
def readSocket (id : SocketId) (x : Exchange ν) : Bool × Exchange ν :=
  match x.sockets.find? id with
  | none => (false, x)
  | some s =>
    if s.medium = .acceptor then (true, x)
    else
      let x := if largestBuffer < x.profile.bufferSize then x.exceed .buffer else x
      let (inflow, network) := Network.receive id x.network
      let inflow := readable s.medium x.profile.bufferSize inflow
      let y := inflow.arrivals.foldl (take id s) { x with network }
      match inflow.ending with
      | .dry => (true, y)
      | .closed => (false, (y.reportFault id).2)
      | .failed _ => if s.role = .listener then (true, y) else (false, (y.reportFault id).2)

/-! ### Writing -/

/-- What a single attempt to send comes to. -/
inductive Attempt (ν : Type) where
  /-- There may be more to send. -/
  | again (x : Exchange ν)
  /-- Nothing may be sent now. -/
  | rest (x : Exchange ν)
  /-- The socket takes nothing, or failed. -/
  | stop (x : Exchange ν)

/-- The place of the oldest write that goes through a socket, and the address it goes to. -/
def nextWrite? (id : SocketId) (x : Exchange ν) : Option (Nat × Write × Option Endpoint) :=
  (x.outbox.position? fun w => (x.target? w.channel).any (·.1 == id)).bind fun i =>
    (x.outbox.writes[i]?).map fun w => (i, w, (x.target? w.channel).bind (·.2))

/-- Notes that bytes of a write have gone.  A write of which nothing is left goes from the queue,
and so does any datagram; whoever waits for its reply may get it from now on. -/
def settle (s : Socket) (i : Nat) (w : Write) (count : Nat) (x : Exchange ν) : Exchange ν :=
  let w' := w.advance count
  if w'.remaining = [] ∨ s.medium ≠ .connection then
    let y := { x with outbox := x.outbox.remove i }
    match w.call with
    | some g => y.onDirectory (·.modifyCall w.channel (·.markSent g))
    | none => y
  else { x with outbox := x.outbox.advance i count }

/-- Attempts to send the oldest write of a socket, unless the socket is held. -/
def attempt (id : SocketId) (x : Exchange ν) : Attempt ν :=
  if x.isHeld id = true then .rest x
  else
    match x.nextWrite? id with
    | none => .rest x
    | some (i, w, target) =>
      match x.sockets.find? id with
      | none => .stop x
      | some s =>
        if s.medium = .acceptor then .stop x
        else
          match Network.send id (if s.medium = .datagram then target else none) w.remaining x.network with
          | (.wouldBlock, network) => .stop { x with network }
          | (.failed _, network) => .stop (reportFault id { x with network }).2
          | (.took count, network) =>
            if count = 0 ∧ w.remaining ≠ [] then .stop { x with network }
            else
              .again ((settle s i w count { x with network }).record
                (.sent id (target <|> s.farEnd) w (min count w.remaining.length)))

/-- Attempts again and again, at most `fuel` times. -/
def sendAll (id : SocketId) : Nat → Exchange ν → Exchange ν
  | 0, x => x
  | fuel + 1, x =>
    match x.attempt id with
    | .again y => sendAll id fuel y
    | .rest y => y.disarm id
    | .stop y => y

/-- **Sends the writes of a socket,** until nothing may go any more.  Each attempt that goes on
leaves less work, so as many attempts as there is work are enough. -/
def writeSocket (id : SocketId) (x : Exchange ν) : Exchange ν :=
  sendAll id (x.outbox.work + 1) x

/-! ### The pass -/

/-- Reads a socket if it can be read, and then sends if it can be written and still can be used. -/
def exchangeData (id : SocketId) (readable writable : Bool) (x : Exchange ν) : Exchange ν :=
  if readable = true then
    match x.readSocket id with
    | (true, y) => if writable = true then y.writeSocket id else y
    | (false, y) => y
  else if writable = true then x.writeSocket id
  else x

/-- Serves a socket that is ready.  A socket that is gone or has failed is passed over. -/
def serve (x : Exchange ν) (r : Readiness) : Exchange ν :=
  match x.sockets.find? r.socket with
  | none => x
  | some s =>
    if s.isLive = false then x
    else if s.medium = .acceptor then x.acceptConnections r.socket
    else if s.phase = .connecting then
      if r.writable = false then x
      else
        match x.finishConnect r.socket with
        | (true, y) => y.exchangeData r.socket r.readable true
        | (false, y) => y
    else x.exchangeData r.socket r.readable r.writable

/-- The most bytes of a list of readiness events, and the bytes of one of them. -/
def eventsFit (capacity : Nat) : Bool :=
  capacity * 12 ≤ largestBuffer

/-- What a poll asks the network: the sockets that are tracked, and what they wait for. -/
def watched (x : Exchange ν) : List (SocketId × Interest) :=
  x.sockets.map fun (id, s) => (id, s.interest)

/-- **One pass over the sockets that are ready.**  Gives the buffers for the protocol, in the order
in which they were read. -/
def poll (x : Exchange ν) : Except Error (List Delivery) × Exchange ν :=
  if x.isOpen = false then (.error .notActive, x)
  else
    let x := if eventsFit x.profile.pollCapacity then x else x.exceed .events
    let (ready, network) := Network.poll x.watched x.profile.pollCapacity x.network
    let y := (ready.foldl serve { x with network }).armPending
    (.ok y.inbox, { y with inbox := [] })

end Switchboard.Exchange
