import Switchboard.CallBox
import Switchboard.Sharing

/-!
# The directory of channels

All channels of an exchange, in the order in which they were made, each with the socket that serves
it.  The directory is the only place that links channels to sockets.

* `Directory.enrol` makes a channel, or finds the one that there is.
* `Directory.sharedSocket?` finds a socket that a channel may share, and `Directory.link` gives a
  socket to a channel and to its siblings.
* `Directory.recipients` finds the channels that a datagram or a connection is for.
* `Directory.relink`, `Directory.unlink` and `Directory.keepOnly` move channels and let them go.

The state of a channel that changes — its blocking call, the last sender, whether its socket is
being replaced — is kept by channel number also for channels that were removed, because their
holders may still come with them.
-/

namespace Switchboard

open Net

/-- A channel and the socket that serves it. -/
structure Entry where
  channel : Channel
  socket : Option SocketId := none
  deriving Repr, DecidableEq

/-- What changes about a channel. -/
structure Status where
  call : CallBox := {}
  /-- The socket of the channel has failed and is to be replaced. -/
  reconnecting : Bool := false
  /-- Who sent the last buffer that a masked channel got. -/
  lastSender : Option Endpoint := none
  deriving Repr, DecidableEq

/-- **The channels of an exchange.** -/
structure Directory where
  /-- What the channels of this directory are marked with. -/
  home : Nat := 0
  entries : List Entry := []
  /-- The state of every channel ever made, by its number. -/
  statuses : List Status := []
  deriving Repr, DecidableEq

namespace Directory

/-! ### The state of a channel -/

/-- The state of a channel; a channel of another directory has none here. -/
def status (d : Directory) (c : Channel) : Status :=
  if c.home = d.home then (d.statuses[c.id]?).getD {} else {}

/-- Changes the state of a channel. -/
def modifyStatus (c : Channel) (f : Status → Status) (d : Directory) : Directory :=
  if c.home = d.home then { d with statuses := d.statuses.modify c.id f } else d

/-- Changes the blocking calls of a channel. -/
def modifyCall (c : Channel) (f : CallBox → CallBox) (d : Directory) : Directory :=
  d.modifyStatus c fun s => { s with call := f s.call }

/-- Is a call outstanding on the channel? -/
def isBusy (d : Directory) (c : Channel) : Bool :=
  (d.status c).call.isBusy

/-- Does a caller of the channel wait for a reply to what was sent? -/
def isAwaiting (d : Directory) (c : Channel) : Bool :=
  (d.status c).call.isAwaiting

/-! ### Making channels -/

/-- Refuses a channel that there cannot be: an outbound one with a mask, or one with a mask while
masks are switched off. -/
def vet (s : Subject) (r : Remote) (masks : Bool) : Except Error Unit :=
  if r.isMask = true then
    if s.direction = .outbound then .error (.maskedOutbound s.item r.render)
    else if masks = false then .error (.masksDisabled s.item r.render)
    else .ok ()
  else .ok ()

/-- The channel of a subject and a remote. -/
def bound? (d : Directory) (s : Subject) (r : Remote) : Option Channel :=
  (d.entries.find? fun e => e.channel.subject = s && e.channel.remote = r).map (·.channel)

/-- The directory with one more channel.  Its number is how many were made before it, a natural
number: the wrap of a machine word is out of reach. -/
def append (d : Directory) (s : Subject) (r : Remote) : Channel × Directory :=
  let c : Channel := ⟨d.home, d.statuses.length, s, r⟩
  (c, { d with entries := d.entries ++ [{ channel := c }], statuses := d.statuses ++ [{}] })

/-- What an enrolment gives: the channel, whether it is new, and the directory that has it. -/
structure Enrolled where
  channel : Channel
  isNew : Bool
  directory : Directory

/-- **Finds the channel of a subject and a remote, or makes it.** -/
def enrol (s : Subject) (r : Remote) (masks : Bool) (d : Directory) : Except Error Enrolled :=
  match vet s r masks with
  | .error e => .error e
  | .ok () =>
    match d.bound? s r with
    | some c => .ok ⟨c, false, d⟩
    | none => .ok ⟨(d.append s r).1, true, (d.append s r).2⟩

/-! ### Looking up -/

/-- The entry of a channel number. -/
def entry? (d : Directory) (id : ChannelId) : Option Entry :=
  d.entries.find? (·.channel.id == id)

/-- The channel of a number. -/
def channel? (d : Directory) (id : ChannelId) : Option Channel :=
  (d.entry? id).map (·.channel)

/-- The socket that serves a channel. -/
def socketOf (d : Directory) (id : ChannelId) : Option SocketId :=
  (d.entry? id).bind (·.socket)

/-- Is this very channel in the directory? -/
def knows (d : Directory) (c : Channel) : Bool :=
  d.channel? c.id == some c

/-- The channels whose entries pass a test. -/
def select (d : Directory) (p : Entry → Bool) : List Channel :=
  (d.entries.filter p).map (·.channel)

/-- All channels. -/
def channels (d : Directory) : List Channel :=
  d.entries.map (·.channel)

/-- The channels of an item. -/
def ofItem (d : Directory) (item : String) : List Channel :=
  d.select (·.channel.subject.item == item)

/-- The channels of a subject. -/
def ofSubject (d : Directory) (s : Subject) : List Channel :=
  d.select (·.channel.subject == s)

/-- The channels of a remote, of one direction or of both. -/
def ofRemote (d : Directory) (direction : Option Direction) (r : Remote) : List Channel :=
  d.select fun e => e.channel.remote == r && direction.all (e.channel.subject.direction == ·)

/-- The channels that a socket serves. -/
def onSocket (d : Directory) (socket : SocketId) : List Channel :=
  d.select (·.socket == some socket)

/-- The first channel on a socket that awaits a reply. -/
def awaiting? (d : Directory) (socket : SocketId) : Option Channel :=
  (d.onSocket socket).find? d.isAwaiting

/-- The sockets that serve a channel, each as often as it does. -/
def linkedSockets (d : Directory) : List SocketId :=
  d.entries.filterMap (·.socket)

/-! ### Recipients -/

/-- One entry more on the way through the directory: the best tier so far, and the channels that
reach it. -/
def consider (listener : SocketId) (sender : Endpoint) (best : Option Tier × List Channel)
    (e : Entry) : Option Tier × List Channel :=
  if e.channel.subject.direction = .inbound ∧ e.socket = some listener then
    match e.channel.remote.tier? sender, best with
    | none, _ => best
    | some t, (none, _) => (some t, [e.channel])
    | some t, (some b, cs) =>
      if t.rank < b.rank then (some t, [e.channel])
      else if t = b then (some b, cs ++ [e.channel])
      else best
  else best

/-- **The inbound channels on the listener that a sender's data is for:** all that match it in the
closest tier that any of them reaches. -/
def recipients (d : Directory) (listener : SocketId) (sender : Endpoint) : List Channel :=
  (d.entries.foldl (consider listener sender) (none, [])).2

/-! ### Sharing -/

/-- The socket of the first channel of the circle that has the remote and a socket other than the
excluded one. -/
def served? (d : Directory) (scope : Scope) (s : Subject) (r : Remote)
    (excluded : Option SocketId) : Option SocketId :=
  (d.entries.find? fun e => e.socket.isSome && e.socket != excluded && e.channel.remote == r &&
    scope.covers s e.channel.subject).bind (·.socket)

/-- **A socket that the channel may share,** from the narrowest circle that has one.  An outbound
channel never shares the listener, since what is read there goes to inbound channels only. -/
def sharedSocket? (d : Directory) (c : Channel) (sharing : Sharing) (listener : Option SocketId) :
    Option SocketId :=
  let excluded := match c.subject.direction with
    | .outbound => listener
    | .inbound => none
  (Scope.enabled sharing).findSome? fun scope => d.served? scope c.subject c.remote excluded

/-- May the entry, which has no socket, join a channel that has just got one? -/
def joins (sharing : Sharing) (onListener : Bool) (c : Channel) (e : Entry) : Bool :=
  e.socket.isNone && !(onListener && e.channel.subject.direction == .outbound) &&
    e.channel.remote == c.remote &&
    (Scope.enabled sharing).any fun scope => scope.covers c.subject e.channel.subject

/-- **Gives a socket to a channel,** and to its siblings that have none and may share it. -/
def link (id : ChannelId) (socket : SocketId) (sharing : Sharing) (listener : Option SocketId)
    (d : Directory) : Directory :=
  match d.channel? id with
  | none => d
  | some c =>
    let onListener := listener == some socket
    { d with entries := d.entries.map fun e =>
        if e.channel.id = id || joins sharing onListener c e then { e with socket := some socket }
        else e }

/-! ### Moving and letting go -/

/-- How many channels a socket serves. -/
def countOn (d : Directory) (socket : SocketId) : Nat :=
  d.entries.countP (·.socket == some socket)

/-- Puts a new socket in the place of an old one, under all its channels. -/
def relink (old new : SocketId) (d : Directory) : Directory :=
  { d with entries := d.entries.map fun e =>
      if e.socket = some old then { e with socket := some new } else e }

/-- Notes on some channels whether their socket is being replaced. -/
def markReconnecting (value : Bool) (cs : List Channel) (d : Directory) : Directory :=
  cs.foldl (fun d c => d.modifyStatus c fun s => { s with reconnecting := value }) d

/-- Notes on the channels of a socket whether it is being replaced. -/
def setReconnecting (socket : SocketId) (value : Bool) (d : Directory) : Directory :=
  d.markReconnecting value (d.onSocket socket)

/-- Takes a socket away from its channels, which get another one when they need it. -/
def unlink (socket : SocketId) (d : Directory) : Directory :=
  let d := d.setReconnecting socket false
  { d with entries := d.entries.map fun e =>
      if e.socket = some socket then { e with socket := none } else e }

/-- Takes the sockets away from all channels. -/
def unlinkAll (d : Directory) : Directory :=
  let d := d.markReconnecting false d.channels
  { d with entries := d.entries.map fun e => { e with socket := none } }

/-- Ends the calls of some channels. -/
def cancelCalls (cs : List Channel) (d : Directory) : Directory :=
  cs.foldl (fun d c => d.modifyCall c CallBox.cancel) d

/-- Keeps the channels that pass a test, and gives those that do not. -/
def keepOnly (p : Channel → Bool) (d : Directory) : List Channel × Directory :=
  ((d.entries.filter fun e => !p e.channel).map (·.channel),
    { d with entries := d.entries.filter fun e => p e.channel })

end Directory

end Switchboard
