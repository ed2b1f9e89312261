import Switchboard.Exchange.Passing

/-!
# Operations

What a host does with an exchange.

* `openUp` and `deactivate` take it into and out of service.
* `bind` and `reconfigure` make channels and let them go; `updateProfile` changes the settings.
* `write` queues a buffer.  `startCall` queues one whose reply is waited for; `collect` looks for the
  reply and `endCall` ends the waiting.
* `takeAnnouncements` gives the channels whose protocol is to be told that their socket is active.

Each of these is one step that nothing else interrupts; what a host does besides is made of them.
-/

namespace Switchboard.Exchange

open Net Settings

variable {ν : Type} [Network ν]

/-! ### In and out of service -/

/-- **Opens the exchange:** opens the listener and gives every inbound channel a socket. -/
def openUp (x : Exchange ν) : Except Error Unit × Exchange ν :=
  if x.isOpen = true then (.ok (), x)
  else
    match openListener { x with isOpen := true } with
    | (.error e, y) => (.error e, { y with isOpen := false })
    | (.ok _, y) => y.attachWaiting y.directory.channels

/-- Closes every socket and forgets every link.  The channels stay. -/
def close (x : Exchange ν) : Exchange ν :=
  if x.isOpen = false then x
  else
    let y := x.discard (x.sockets.map (·.1))
    { y with
      isOpen := false
      listener := none
      schedule := []
      announcements := []
      directory := (y.directory.cancelCalls y.directory.channels).unlinkAll }

/-- **Takes the exchange out of service.**  Writes that wait are dropped, and callers who wait go
away empty-handed. -/
def deactivate (x : Exchange ν) : Exchange ν :=
  let y := x.close
  { y with outbox := y.outbox.clear }

/-- **Reads new settings and works by them from now on.**  A new transport, address or port moves the
listener; where that fails, the former settings stay in effect. -/
def updateProfile (c : Configuration) (x : Exchange ν) : Except Error Unit × Exchange ν :=
  match Profile.read c x.name with
  | .error e => (.error e, x)
  | .ok new =>
    if new.sharing.masks = false ∧ x.directory.channels.any (·.remote.isMask) = true then
      (.error (.sharing .masksInUse), x)
    else
      let old := x.profile
      let y := { x with profile := new }
      if x.isOpen = true ∧ (old.transport ≠ new.transport ∨ old.port ≠ new.port ∨
          old.listenerAddress ≠ new.listenerAddress) then
        match y.rebindListener with
        | (.error e, z) => (.error e, { z with profile := old })
        | (.ok (), z) => (.ok (), if old.transport ≠ new.transport then z.closeOutbound else z)
      else (.ok (), y)

/-! ### Channels -/

/-- **Makes a channel, or finds the one that there is.**  A new inbound channel of an open exchange
gets a socket at once, an outbound one when it is first used. -/
def bind (s : Subject) (r : Remote) (x : Exchange ν) : Except Error Channel × Exchange ν :=
  match x.directory.enrol s r x.profile.sharing.masks with
  | .error e => (.error e, x)
  | .ok enrolled =>
    let y := { x with directory := enrolled.directory }
    if enrolled.isNew = true ∧ s.direction = .inbound ∧ x.isOpen = true then
      match y.attachInbound enrolled.channel with
      | (.error e, z) => (.error e, z)
      | (.ok _, z) => (.ok enrolled.channel, z)
    else (.ok enrolled.channel, y)

/-- Binds one pair after the other; gives the channels. -/
def bindAll : List (Subject × Remote) → Exchange ν → Except Error (List Channel) × Exchange ν
  | [], x => (.ok [], x)
  | (s, r) :: rest, x =>
    match x.bind s r with
    | (.error e, y) => (.error e, y)
    | (.ok c, y) =>
      match bindAll rest y with
      | (.error e, z) => (.error e, z)
      | (.ok cs, z) => (.ok (c :: cs), z)

/-- The first reason why one of the pairs cannot be bound. -/
def refusal? (masks : Bool) : List (Subject × Remote) → Option Error
  | [] => none
  | (s, r) :: rest =>
    match Directory.vet s r masks with
    | .error e => some e
    | .ok () => refusal? masks rest

/-- Lets go of all channels but some: their sockets, unless shared, their writes and their calls. -/
def retain (kept : List Channel) (x : Exchange ν) : Exchange ν :=
  let (removed, directory) := x.directory.keepOnly fun c => kept.any (·.id == c.id)
  let y := closeOrphans { x with directory }
  { y with
    outbox := removed.foldl (fun o c => o.dropChannel c.id) y.outbox
    directory := y.directory.cancelCalls removed }

/-- **Makes the given pairs the only channels.**  Those that there are already stay as they are. -/
def reconfigure (bindings : List (Subject × Remote)) (x : Exchange ν) :
    Except Error Unit × Exchange ν :=
  match refusal? x.profile.sharing.masks bindings with
  | some e => (.error e, x)
  | none =>
    match x.bindAll bindings with
    | (.error e, y) => (.error e, y)
    | (.ok cs, y) => (.ok (), y.retain cs)

/-- The outbound channels of an item that accept a command, if the exchange is open. -/
def servers (item command : String) (x : Exchange ν) : Except Error (List Channel) :=
  if x.isOpen = false then .error .notActive
  else .ok ((x.directory.ofItem item).filter fun c =>
    c.direction == .outbound && c.subject.accepts command)

/-! ### Writes -/

/-- Queues a buffer, with the generation of the call that waits for its reply.  A buffer that can go
nowhere is dropped, and the answer is `false`. -/
def enqueue (c : Channel) (data : Bytes) (call : Option Nat) (x : Exchange ν) :
    Except Error Bool × Exchange ν :=
  match x.ensureSocket c with
  | (.error e, y) => (.error e, y)
  | (.ok _, y) =>
    match y.target? c with
    | none => (.ok false, y)
    | some (id, _) =>
      (.ok true, armUnlessHeld id { y with outbox := y.outbox.push c data call })

/-- **Queues a buffer,** unless a call is outstanding on the channel. -/
def write (c : Channel) (data : Bytes) (x : Exchange ν) : Except Error Unit × Exchange ν :=
  if x.directory.isBusy c = true then (.error (.callInProgress c.id), x)
  else
    match x.enqueue c data none with
    | (.error e, y) => (.error e, y)
    | (.ok _, y) => (.ok (), y)

/-- Begins a call on a channel, unless one is outstanding; gives its generation. -/
def beginCall (c : Channel) (x : Exchange ν) : Except Error Nat × Exchange ν :=
  match (x.directory.status c).call.start? with
  | none => (.error (.callInProgress c.id), x)
  | some (g, b) => (.ok g, x.onDirectory (·.modifyCall c fun _ => b))

/-- Ends a call, if it is still the outstanding one of its channel. -/
def finishCall (c : Channel) (generation : Nat) (x : Exchange ν) : Exchange ν :=
  x.onDirectory (·.modifyCall c (·.finish generation))

/-- **Queues a buffer whose reply is to be waited for;** gives the generation of the call.  Where the
buffer can go nowhere, there is no call and nothing to wait for. -/
def startCall (c : Channel) (data : Bytes) (x : Exchange ν) :
    Except Error (Option Nat) × Exchange ν :=
  match x.beginCall c with
  | (.error e, y) => (.error e, y)
  | (.ok g, y) =>
    match y.enqueue c data (some g) with
    | (.error e, z) => (.error e, z.finishCall c g)
    | (.ok false, z) => (.ok none, z.finishCall c g)
    | (.ok true, z) => (.ok (some g), z)

/-- Looks for the reply of a call. -/
def collect (c : Channel) (generation : Nat) (x : Exchange ν) : Receipt × Exchange ν :=
  let (receipt, b) := (x.directory.status c).call.collect generation
  (receipt, x.onDirectory (·.modifyCall c fun _ => b))

/-- Ends a call.  When there was no reply, the writes that the call held back may go. -/
def endCall (c : Channel) (generation : Nat) (answered : Bool) (x : Exchange ν) : Exchange ν :=
  let y := x.finishCall c generation
  if answered = true then y else y.armPending

/-! ### Announcements -/

/-- Takes the channels whose protocol is to be told that their socket is active. -/
def takeAnnouncements (x : Exchange ν) : List Channel × Exchange ν :=
  (x.announcements, { x with announcements := [] })

/-! ### What it shows of itself -/

/-- A short description. -/
def describe (x : Exchange ν) : String :=
  "Engine \x7b name: " ++ Text.quote x.name ++ ", active: " ++
    (if x.isOpen = true then "true" else "false") ++ ", queued_writes: " ++
    String.ofList (Text.decimal x.outbox.size) ++ ", .. \x7d"

end Switchboard.Exchange
