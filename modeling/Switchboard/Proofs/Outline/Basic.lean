import Switchboard.Exchange.Operations
import Switchboard.Proofs.Directory
import Switchboard.Proofs.Sockets
import Mathlib.Logic.Relation

/-!
# Outlines

The *outline* of an exchange is what decides where a write goes, with the record of what has gone
out: the sockets by their natures, the core of the directory, the outbox, and the pieces of writes
that were sent.  Phases, interest, calls, the clock and the network are no part of it.

A `Move` is what an exchange can do to its outline, with the condition under which it does it.  The
laws of all runs are proved of moves, and `Outline/Pass` and `Outline/Operations` show that an
exchange makes no other ones.

* An `Event` may happen at any time.
* A `PassMove` happens in a pass over the ready sockets, and only there something is sent.
* A pass is followed by the dropping of the writes that can reach nobody, so as a `Move` it is one.
-/

namespace Switchboard

open Net Settings Relation

/-! ### Pieces -/

/-- Some bytes of a write that went out through a socket.  The write is shown as it was before. -/
structure Piece where
  socket : SocketId
  write : Write
  count : Nat
  deriving Repr, DecidableEq

namespace Piece

/-- The bytes that went out. -/
def bytes (p : Piece) : Bytes :=
  p.write.remaining.take p.count

/-- Did the last byte of the write go out? -/
def isLast (p : Piece) : Bool :=
  p.count == p.write.remaining.length

end Piece

/-- The piece that an event is about. -/
def Traffic.piece? : Traffic → Option Piece
  | .sent socket _ write count => some ⟨socket, write, count⟩
  | _ => none

/-- **What has gone out,** the earliest first. -/
def Exchange.sendings {ν : Type} (x : Exchange ν) : List Piece :=
  x.journal.reverse.filterMap Traffic.piece?

/-! ### Natures -/

namespace Nature

/-- The nature of a listener. -/
def listening (t : Transport) : Nature :=
  ⟨.listener, match t with | .datagram => .datagram | .stream => .acceptor, none⟩

/-- The nature of a socket to a remote end. -/
def outgoing (t : Transport) (remote : Endpoint) : Nature :=
  ⟨.outbound, match t with | .datagram => .datagram | .stream => .connection, some remote⟩

/-- The nature of a connection that was taken in. -/
def taken (remote : Endpoint) : Nature :=
  ⟨.accepted, .connection, some remote⟩

end Nature

/-! ### The outline -/

/-- The last sender of a channel. -/
def Directory.Core.lastSender (d : Directory.Core) (c : Channel) : Option Endpoint :=
  if c.home = d.home then (d.senders[c.id]?).join else none

/-- **What decides where a write goes,** and what has gone out. -/
structure Outline where
  isOpen : Bool
  transport : Transport
  listener : Option SocketId
  nextSocket : SocketId
  sockets : List (SocketId × Nature)
  directory : Directory.Core
  /-- The sockets that are to be replaced. -/
  retries : List SocketId
  announcements : List Channel
  outbox : Outbox
  sendings : List Piece

/-- The outline of an exchange. -/
def Exchange.outline {ν : Type} (x : Exchange ν) : Outline where
  isOpen := x.isOpen
  transport := x.profile.transport
  listener := x.listener
  nextSocket := x.nextSocket
  sockets := x.sockets.natures
  directory := x.directory.core
  retries := x.schedule.map (·.socket)
  announcements := x.announcements
  outbox := x.outbox
  sendings := x.sendings

theorem Exchange.length_senders {ν : Type} (x : Exchange ν) :
    x.outline.directory.senders.length = x.directory.statuses.length :=
  List.length_map _

namespace Outline

/-- The channels with their links. -/
abbrev entries (o : Outline) : List Entry :=
  o.directory.entries

/-- Is the channel linked to the socket? -/
def Links (o : Outline) (c : Channel) (id : SocketId) : Prop :=
  ∃ e ∈ o.entries, e.channel.id = c.id ∧ e.socket = some id

/-- Puts a socket into the table; `next` is the number of the one after it. -/
def add (n : Nature) (next : SocketId) (o : Outline) : Outline :=
  { o with sockets := o.sockets ++ [(o.nextSocket, n)], nextSocket := next }

/-- Takes a socket out of the table. -/
def erase (id : SocketId) (o : Outline) : Outline :=
  { o with sockets := o.sockets.filter (·.1 != id) }

/-- Changes the entries of the directory. -/
def onEntries (f : List Entry → List Entry) (o : Outline) : Outline :=
  { o with directory := { o.directory with entries := f o.entries } }

/-- Opens a listener of a transport. -/
def raise (t : Transport) (next : SocketId) (o : Outline) : Outline :=
  { o.add (.listening t) next with transport := t, listener := some o.nextSocket }

/-- Opens a listener of a transport in the place of the old one. -/
def rebind (t : Transport) (next : SocketId) (o : Outline) : Outline :=
  match o.listener with
  | none => o.raise t next
  | some old =>
    ((o.raise t next).erase old).onEntries (·.map (Directory.relinkEntry old o.nextSocket))

/-- Is it a socket other than the listener? -/
def isOther (o : Outline) (id : SocketId) : Bool :=
  o.sockets.any fun s => s.1 == id && s.2.role != .listener

/-- Closes every socket but the listener, and takes it away from its channels. -/
def closeOutbound (o : Outline) : Outline :=
  { o with
    sockets := o.sockets.filter (!o.isOther ·.1)
    retries := o.retries.filter (!o.isOther ·)
    directory := { o.directory with
      entries := o.entries.map (Directory.detachEntry o.isOther) } }

/-- Lets a new socket take the place of an old one. -/
def substitute (old : SocketId) (n : Nature) (next : SocketId) (o : Outline) : Outline :=
  ((o.erase old).add n next).onEntries (·.map (Directory.relinkEntry old o.nextSocket))

/-- Is it an outbound socket that serves none of the entries? -/
def isOrphan (entries : List Entry) (o : Outline) (id : SocketId) : Bool :=
  o.sockets.any fun s =>
    s.1 == id && (s.2.role == .outbound && !entries.any fun e => e.socket == some s.1)

/-- Keeps the channels that pass a test, their writes, and the outbound sockets that still serve
one. -/
def retain (p : Channel → Bool) (o : Outline) : Outline :=
  let kept := o.entries.filter fun e => p e.channel
  { o with
    sockets := o.sockets.filter (!o.isOrphan kept ·.1)
    retries := o.retries.filter (!o.isOrphan kept ·)
    directory := { o.directory with entries := kept }
    outbox := o.outbox.keep fun w =>
      !o.entries.any fun e => !p e.channel && e.channel.id == w.channel.id }

/-- Sends some bytes of a write, which leaves the outbox when nothing of it remains, or when the
socket is for datagrams. -/
def send (id : SocketId) (n : Nature) (before : List Write) (w : Write) (after : List Write)
    (count : Nat) (o : Outline) : Outline :=
  let w' := w.advance count
  let rest := if w'.remaining = [] ∨ n.medium ≠ .connection then [] else [w']
  { o with
    outbox := { o.outbox with writes := before ++ rest ++ after }
    sendings := o.sendings ++ [⟨id, w, count⟩] }

end Outline

/-! ### Moves -/

open Outline Directory

/-- **What may happen to an outline at any time.** -/
inductive Event : Outline → Outline → Prop
  /-- A connection was taken in. -/
  | admitted (o : Outline) {id : SocketId} {n : Nature} (next : SocketId) (remote : Endpoint)
      (hs : (id, n) ∈ o.sockets) (hm : n.medium = .acceptor) (hnext : o.nextSocket < next) :
      Event o (o.add (.taken remote) next)
  /-- A connection that was taken in is closed. -/
  | dropped (o : Outline) {id : SocketId} {n : Nature} (hs : (id, n) ∈ o.sockets)
      (hr : n.role = .accepted) : Event o (o.erase id)
  /-- Outbound sockets are noted to be replaced, or struck off. -/
  | rescheduled (o : Outline) (retries : List SocketId)
      (h : ∀ id ∈ retries, id ∈ o.retries ∨ ∃ n, (id, n) ∈ o.sockets ∧ n.role = .outbound) :
      Event o { o with retries }
  | announced (o : Outline) (cs : List Channel) (h : o.isOpen = true ∨ o.sockets ≠ []) :
      Event o { o with announcements := o.announcements ++ cs }
  /-- A masked channel heard from a sender that it matches. -/
  | remembered (o : Outline) {e : Entry} (sender : Endpoint) (he : e ∈ o.entries)
      (hm : e.channel.remote.isMask = true) (hd : e.channel.direction = .inbound)
      (ht : e.channel.remote.tier? sender ≠ none) :
      Event o { o with directory := { o.directory with
        senders := o.directory.senders.set e.channel.id (some sender) } }

/-- Some events, one after the other. -/
abbrev Events : Outline → Outline → Prop :=
  ReflTransGen Event

/-- **What happens in a pass over the ready sockets.** -/
inductive PassMove : Outline → Outline → Prop
  | event {o o' : Outline} (h : Event o o') : PassMove o o'
  /-- Some bytes of a write went out: of the oldest of its channel, and, unless through an accepted
  connection, the oldest of all on the socket that know where to go. -/
  | sent (o : Outline) {id : SocketId} {n : Nature} {before after : List Write} {w : Write}
      (count : Nat) (hs : (id, n) ∈ o.sockets) (hm : n.medium ≠ .acceptor)
      (hw : o.outbox.writes = before ++ w :: after)
      (hlink : o.Links w.channel id ∨
        n.role = .accepted ∧ ∃ l, o.listener = some l ∧ o.Links w.channel l)
      (hchannel : ∀ w' ∈ before, w'.channel ≠ w.channel)
      (hlane : n.role ≠ .accepted → ∀ w' ∈ before, o.Links w'.channel id →
        w'.channel.remote.isMask = true ∧ o.directory.lastSender w'.channel = none)
      (hcount : count ≤ w.remaining.length) : PassMove o (o.send id n before w after count)

/-- What happens in a pass, one thing after the other. -/
abbrev PassMoves : Outline → Outline → Prop :=
  ReflTransGen PassMove

/-- **What an exchange can do to its outline.** -/
inductive Move : Outline → Outline → Prop
  | event {o o' : Outline} (h : Event o o') : Move o o'
  /-- A pass, after which the writes that can reach nobody are dropped.  Those of channels with an
  outbound socket stay. -/
  | passed {o o' : Outline} (p : Write → Bool) (h : PassMoves o o')
      (hp : ∀ w ∈ o'.outbox.writes, p w = true → ∃ id, o'.Links w.channel id)
      (hstay : ∀ w ∈ o'.outbox.writes, ∀ id n, o'.Links w.channel id → (id, n) ∈ o'.sockets →
        n.role = .outbound → p w = true) :
      Move o { o' with outbox := o'.outbox.keep p }
  | opened (o : Outline) (next : SocketId) (ho : o.isOpen = false) (hnext : o.nextSocket < next) :
      Move o { o.raise o.transport next with isOpen := true }
  | closed (o : Outline) (ho : o.isOpen = true) :
      Move o { o with
        isOpen := false, listener := none, sockets := [], retries := [], announcements := []
        directory := { o.directory with entries := o.entries.map ({ · with socket := none }) }
        outbox := o.outbox.clear }
  /-- Writes are dropped while the exchange is closed. -/
  | cleared (o : Outline) (ho : o.isOpen = false) : Move o { o with outbox := o.outbox.clear }
  | adopted (o : Outline) (t : Transport) (ht : o.isOpen = true → o.transport = t) :
      Move o { o with transport := t }
  | moved (o : Outline) (t : Transport) (next : SocketId) (ho : o.isOpen = true)
      (hnext : o.nextSocket < next) :
      Move o (if o.transport ≠ t then (o.rebind t next).closeOutbound else o.rebind t next)
  | enrolled (o : Outline) {c : Channel} (hh : c.home = o.directory.home)
      (hid : c.id = o.directory.senders.length)
      (hd : c.direction = .outbound → c.remote.isMask = false) :
      Move o { o with directory :=
        ⟨o.directory.home, o.entries ++ [{ channel := c }], o.directory.senders ++ [none]⟩ }
  /-- A channel and its siblings got a socket that serves the same remote, or the listener. -/
  | joined (o : Outline) {c : Channel} {id : SocketId} (sharing : Sharing) (ho : o.isOpen = true)
      (hc : { channel := c } ∈ o.entries)
      (hid : (∃ e ∈ o.entries, e.socket = some id ∧ e.channel.remote = c.remote ∧
          (c.direction = .outbound → o.listener ≠ some id)) ∨
        c.direction = .inbound ∧ o.listener = some id) :
      Move o (o.onEntries (·.map (linkEntry c id sharing o.listener)))
  /-- A channel and its siblings got a new socket to their remote. -/
  | connected (o : Outline) {c : Channel} {remote : Endpoint} (next : SocketId) (sharing : Sharing)
      (ho : o.isOpen = true) (hc : { channel := c } ∈ o.entries)
      (hr : c.remote = .endpoint remote) (hnext : o.nextSocket < next) :
      Move o ((o.add (.outgoing o.transport remote) next).onEntries
        (·.map (linkEntry c o.nextSocket sharing o.listener)))
  /-- A new socket to the same far end took the place of an outbound one. -/
  | substituted (o : Outline) {old : SocketId} {n : Nature} {remote : Endpoint} (next : SocketId)
      (ho : o.isOpen = true) (hs : (old, n) ∈ o.sockets) (hr : n.role = .outbound)
      (hf : n.farEnd = some remote) (hnext : o.nextSocket < next) :
      Move o (o.substitute old (.outgoing o.transport remote) next)
  | retained (o : Outline) (p : Channel → Bool) : Move o (o.retain p)
  /-- A write of a channel that knows where to go was queued. -/
  | queued (o : Outline) {e : Entry} {id : SocketId} (data : Bytes) (call : Option Nat)
      (ho : o.isOpen = true) (he : e ∈ o.entries) (hid : e.socket = some id)
      (hl : o.listener = some id → e.channel.remote.isMask = true →
        o.directory.lastSender e.channel ≠ none) :
      Move o { o with outbox := o.outbox.push e.channel data call }
  /-- The protocol was told of the channels whose socket became active. -/
  | told (o : Outline) : Move o { o with announcements := [] }

/-- Some moves, one after the other. -/
abbrev Moves : Outline → Outline → Prop :=
  ReflTransGen Move

end Switchboard
