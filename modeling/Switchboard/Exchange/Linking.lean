import Switchboard.Exchange.Basic

/-!
# Sockets for channels

How channels come by their sockets.

* `openListener` and `rebindListener` set the listener up and move it.
* `attachInbound` and `attachOutbound` find a socket for a channel: one that it may share, the
  listener, or a new one.  `ensureSocket` does so for a channel that has none.
* `target?` says through which socket a write of a channel goes, and where to.
* `armPending` asks to be told when the sockets that have writes to send can take them.
-/

namespace Switchboard.Exchange

open Net Settings

variable {ν : Type} [Network ν]

/-! ### The listener -/

/-- Opens a listener by the profile in effect, and makes it the listener. -/
def openListener (x : Exchange ν) : Except Error SocketId × Exchange ν :=
  match Network.listen x.profile.transport x.nextSocket x.profile.listenerEndpoint x.network with
  | (.error e, network) => (.error (.socket e), { x with network })
  | (.ok ownEnd, network) =>
    (.ok x.nextSocket,
      { track (Socket.listening x.profile.transport ownEnd) { x with network } with
        listener := some x.nextSocket })

/-- Opens a new listener and moves the channels of the old one to it.  The old one stays if that
fails. -/
def rebindListener (x : Exchange ν) : Except Error Unit × Exchange ν :=
  match x.openListener with
  | (.error e, x) => (.error e, x)
  | (.ok new, y) =>
    match x.listener with
    | none => (.ok (), y)
    | some old => (.ok (), (y.closeSocket old).onDirectory (·.relink old new))

/-! ### Giving a socket to a channel -/

/-- Links a channel and its siblings to a socket.  Those who come new to a socket that is active are
to be told; the others will be when the socket becomes active. -/
def join (c : Channel) (id : SocketId) (x : Exchange ν) : Exchange ν :=
  let before := x.directory.onSocket id
  let y := x.onDirectory (·.link c.id id x.profile.sharing x.listener)
  let isActive := !x.isListener id && (x.sockets.find? id).any (·.phase == .active)
  if isActive then
    y.announceAll id ((y.directory.onSocket id).filter fun c => !before.contains c)
  else y

/-- Gives an inbound channel a socket that it may share, or else the listener. -/
def attachInbound (c : Channel) (x : Exchange ν) : Except Error SocketId × Exchange ν :=
  match x.directory.sharedSocket? c x.profile.sharing x.listener <|> x.listener with
  | none => (.error .notActive, x)
  | some id => (.ok id, x.join c id)

/-- Gives an outbound channel a socket that it may share, or else a new one to its remote end. -/
def attachOutbound (c : Channel) (x : Exchange ν) : Except Error SocketId × Exchange ν :=
  match x.directory.sharedSocket? c x.profile.sharing x.listener with
  | some id => (.ok id, x.join c id)
  | none =>
    match c.remote.endpoint? with
    | none => (.error (.maskedOutbound c.item c.remote.render), x)
    | some remote =>
      match Network.connect x.profile.transport x.nextSocket remote x.network with
      | (.error e, network) => (.error (.socket e), { x with network })
      | (.ok ownEnd, network) =>
        let y := track (Socket.outgoing x.profile.transport ownEnd remote) { x with network }
        (.ok x.nextSocket, y.join c x.nextSocket)

/-- **The socket that serves a channel,** which gets one if it has none. -/
def ensureSocket (c : Channel) (x : Exchange ν) : Except Error SocketId × Exchange ν :=
  if x.isOpen = false then (.error .notActive, x)
  else if x.directory.knows c = false then (.error (.unknownChannel c.id), x)
  else
    match x.directory.socketOf c.id with
    | some id => (.ok id, x)
    | none =>
      match c.direction with
      | .inbound => x.attachInbound c
      | .outbound => x.attachOutbound c

/-- Gives every inbound channel without a socket one, as far as that goes. -/
def attachWaiting : List Channel → Exchange ν → Except Error Unit × Exchange ν
  | [], x => (.ok (), x)
  | c :: cs, x =>
    if c.direction = .inbound ∧ x.directory.socketOf c.id = none then
      match x.attachInbound c with
      | (.error e, y) => (.error e, y)
      | (.ok _, y) => attachWaiting cs y
    else attachWaiting cs x

/-! ### Letting sockets go -/

/-- Closes some sockets and strikes them off the schedule. -/
def discard (ids : List SocketId) (x : Exchange ν) : Exchange ν :=
  ids.foldl (fun x id => { x with schedule := x.schedule.cancel id }.closeSocket id) x

/-- Closes the outbound sockets that no channel is linked to. -/
def closeOrphans (x : Exchange ν) : Exchange ν :=
  x.discard (x.sockets.idsWhere fun id s =>
    s.role == .outbound && !x.directory.linkedSockets.contains id)

/-- Closes every socket but the listener, after a change of the transport. -/
def closeOutbound (x : Exchange ν) : Exchange ν :=
  let ids := x.sockets.idsWhere fun _ s => s.role != .listener
  (ids.foldl (fun x id => x.onDirectory (·.unlink id)) x).discard ids

/-! ### Where writes go -/

/-- The accepted connection to an endpoint.  Of several to one endpoint any would do; the oldest is
taken. -/
def connectionTo? (x : Exchange ν) (far : Endpoint) : Option SocketId :=
  (x.sockets.idsWhere fun _ s => s.role == .accepted && s.farEnd == some far).head?

/-- **Through which socket a write of a channel goes,** and to which endpoint where the socket does
not say.  On the listener an inbound channel answers its concrete remote or, with a mask, the last
sender; over connections that is the one that was taken in from there. -/
def target? (x : Exchange ν) (c : Channel) : Option (SocketId × Option Endpoint) :=
  match x.directory.socketOf c.id with
  | none => none
  | some id =>
    if x.isListener id = false then some (id, none)
    else
      match c.remote.endpoint? <|> (x.directory.status c).lastSender with
      | none => none
      | some far =>
        match (x.sockets.find? id).map Socket.medium with
        | some .datagram => some (id, some far)
        | some .acceptor => (x.connectionTo? far).map fun i => (i, none)
        | _ => none

/-- The socket whose channels decide whether a socket is held: accepted connections belong to the
listener. -/
def owner? (x : Exchange ν) (id : SocketId) : Option SocketId :=
  match x.sockets.find? id with
  | some s => if s.role = .accepted then x.listener else some id
  | none => some id

/-- Does a blocking write that was sent through the socket still wait for its reply? -/
def isHeld (x : Exchange ν) (id : SocketId) : Bool :=
  match x.owner? id with
  | some o => (x.directory.awaiting? o).isSome
  | none => false

/-- Asks to be told when the socket can be written, if it is live. -/
def arm (id : SocketId) (x : Exchange ν) : Exchange ν :=
  x.modifySocket id fun s =>
    if s.isLive = true then { s with interest := { s.interest with write := true } } else s

/-- Asks no longer to be told when the socket can be written, if it is live. -/
def disarm (id : SocketId) (x : Exchange ν) : Exchange ν :=
  x.modifySocket id fun s => if s.isLive = true then { s with interest := ⟨true, false⟩ } else s

/-- Arms a socket unless it is held. -/
def armUnlessHeld (id : SocketId) (x : Exchange ν) : Exchange ν :=
  if x.isHeld id = true then x else x.arm id

/-- Arms the sockets of some writes, except those that are held. -/
def armTargets (ws : List Write) (x : Exchange ν) : Exchange ν :=
  ws.foldl (fun x w =>
    match x.target? w.channel with
    | some (id, _) => x.armUnlessHeld id
    | none => x) x

/-- **Arms every socket that has writes to send and is not held.**  Writes that can no longer reach
anyone are dropped. -/
def armPending (x : Exchange ν) : Exchange ν :=
  let outbox := x.outbox.keep fun w => (x.target? w.channel).isSome
  armTargets outbox.writes { x with outbox }

end Switchboard.Exchange
