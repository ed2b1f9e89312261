import Switchboard.Exchange.Linking

/-!
# Replacing failed sockets

A socket that failed keeps its channels and is replaced by a new one after a while.

* `reportFault` notes a failure.  An accepted connection is closed instead, and the listener is left
  alone.
* `runDueRetries` makes every attempt that is due.  A new socket takes the place of the old one for
  all its channels; where the attempt fails, the next one is noted.
-/

namespace Switchboard.Exchange

open Net Settings

variable {ν : Type} [Network ν]

/-- The last second that the clock can show. -/
def latestSecond : Nat :=
  0x7FFFFFFFFFFFFFFF

/-- Notes that a socket is to be replaced after some seconds. -/
def scheduleRetry (id : SocketId) (delay : Nat) (x : Exchange ν) : Exchange ν :=
  if x.schedule.any (·.socket == id) then x
  else
    let y := { x with schedule := x.schedule.add id x.clock delay }
    if latestSecond < x.clock / 1000 + delay then y.exceed .instant else y

/-- **Notes that a socket failed;** says whether an attempt to replace it was noted.  It is not when
the socket is unknown, is waiting for an attempt already, or is not an outbound one. -/
def reportFault (id : SocketId) (x : Exchange ν) : Bool × Exchange ν :=
  match x.sockets.find? id with
  | none => (false, x)
  | some s =>
    match s.role with
    | .listener => (false, x)
    | .accepted => (false, x.closeSocket id)
    | .outbound =>
      if s.isLive = false then (false, x)
      else
        (true, ((x.modifySocket id fun s => { s with phase := .retryScheduled }).scheduleRetry id
          x.profile.retryInterval).onDirectory (·.setReconnecting id true))

/-- Puts a new socket in the place of a failed one: its channels move over, their calls end, and
they are told at once if the new socket is active at once. -/
def substitute (old : SocketId) (fresh : Socket) (x : Exchange ν) : Exchange ν :=
  let new := x.nextSocket
  let y := (track fresh (x.closeSocket old)).onDirectory fun d =>
    let d := (d.relink old new).setReconnecting new false
    d.cancelCalls (d.onSocket new)
  if fresh.phase = .active then y.announceAll new (y.directory.onSocket new) else y

/-- Makes one attempt to replace a socket. -/
def retry (r : Retry) (x : Exchange ν) : Exchange ν :=
  if x.isOpen = false then x
  else
    match x.sockets.find? r.socket with
    | none => x
    | some s =>
      match s.farEnd with
      | none => x
      | some remote =>
        let y := x.modifySocket r.socket fun s => { s with phase := .retrying }
        match Network.connect y.profile.transport y.nextSocket remote y.network with
        | (.error _, network) =>
          ({ y with network }.modifySocket r.socket fun s => { s with phase := .retryScheduled })
            |>.scheduleRetry r.socket r.delay
        | (.ok ownEnd, network) =>
          { y with network }.substitute r.socket (Socket.outgoing y.profile.transport ownEnd remote)

/-- **Makes every attempt that is due,** each once, and asks for the sockets that have writes. -/
def runDueRetries (x : Exchange ν) : Exchange ν :=
  let (due, schedule) := x.schedule.takeDue x.clock
  (due.foldl (fun x r => retry r x) { x with schedule }).armPending

end Switchboard.Exchange
