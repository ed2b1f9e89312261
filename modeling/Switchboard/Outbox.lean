import Switchboard.CallBox
import Switchboard.Channel

/-!
# The outbox

The writes that wait to go out, over all sockets, the oldest first.  A write that goes out in pieces
stays at its place until the last piece has gone.

Every write has a ticket, its number in the order in which writes were accepted.
-/

namespace Switchboard

/-- A buffer on its way out. -/
structure Write where
  ticket : Nat
  channel : Channel
  data : Bytes
  /-- How many bytes have gone. -/
  offset : Nat := 0
  /-- The generation of the blocking call that waits for the reply. -/
  call : Option Nat := none
  deriving Repr, DecidableEq

namespace Write

/-- What has not gone yet. -/
def remaining (w : Write) : Bytes :=
  w.data.drop w.offset

/-- The write after some more bytes have gone, at most those that remain. -/
def advance (w : Write) (count : Nat) : Write :=
  { w with offset := w.offset + min count w.remaining.length }

end Write

/-- **The writes that wait,** in the order in which they came. -/
structure Outbox where
  writes : List Write := []
  /-- The ticket of the next write. -/
  nextTicket : Nat := 0
  deriving Repr, DecidableEq

namespace Outbox

/-- How many writes wait. -/
def size (o : Outbox) : Nat :=
  o.writes.length

/-- Adds a write at the end. -/
def push (o : Outbox) (c : Channel) (data : Bytes) (call : Option Nat) : Outbox :=
  { writes := o.writes ++ [{ ticket := o.nextTicket, channel := c, data, call }]
    nextTicket := o.nextTicket + 1 }

/-- The place of the oldest write that passes a test. -/
def position? (o : Outbox) (p : Write → Bool) : Option Nat :=
  o.writes.findIdx? p

/-- Notes that some bytes of the write at a place have gone. -/
def advance (o : Outbox) (i count : Nat) : Outbox :=
  { o with writes := o.writes.modify i (·.advance count) }

/-- Takes the write at a place out. -/
def remove (o : Outbox) (i : Nat) : Outbox :=
  { o with writes := o.writes.eraseIdx i }

/-- Keeps the writes that pass a test. -/
def keep (o : Outbox) (p : Write → Bool) : Outbox :=
  { o with writes := o.writes.filter p }

/-- Drops the writes of a channel. -/
def dropChannel (o : Outbox) (id : ChannelId) : Outbox :=
  o.keep (·.channel.id != id)

/-- Drops all writes. -/
def clear (o : Outbox) : Outbox :=
  { o with writes := [] }

/-- What is left to do: the bytes that have not gone, and one step more for every write. -/
def work (o : Outbox) : Nat :=
  o.writes.foldr (fun w n => w.remaining.length + 1 + n) 0

end Outbox

end Switchboard
