import Switchboard.Text.Utf8

/-!
# Blocking calls

A blocking write waits for the next buffer that is read after the write has gone out.  A channel has
at most one such call outstanding, and a `CallBox` keeps its state.

A call passes through three states: its write stands in the queue, its write was sent and the reply
is awaited, and it is over.  Every call has a generation, a number that no other call of the channel
has, so that a late step of an old call is told from a step of the present one.  A reply goes into a
box of its own generation, from which the caller collects it.

The steps here are the atomic ones.  A caller runs `start?`, then waits, then runs `collect` and
`finish`; whoever sends and reads runs `markSent` and `fulfil`; and `cancel` ends a call from outside.
-/

namespace Switchboard

/-- Where the outstanding call of a channel stands, with its generation. -/
inductive Pending where
  /-- There is no outstanding call. -/
  | idle
  /-- The write has not left the queue. -/
  | queued (generation : Nat)
  /-- The write was sent, and what is read next is the reply. -/
  | awaiting (generation : Nat)
  deriving Repr, DecidableEq

/-- The generation of the outstanding call. -/
def Pending.generation? : Pending → Option Nat
  | .idle => none
  | .queued g => some g
  | .awaiting g => some g

/-- **The state of the blocking calls of one channel.** -/
structure CallBox where
  pending : Pending := .idle
  /-- The generation of the latest call. -/
  issued : Nat := 0
  /-- Replies that were handed in and not collected yet, with the generation of their call. -/
  replies : List (Nat × Bytes) := []
  deriving Repr, DecidableEq

/-- What a caller finds who looks for the reply. -/
inductive Receipt where
  /-- The reply is there. -/
  | reply (data : Bytes)
  /-- The call is outstanding. -/
  | outstanding
  /-- The call is over, and there is no reply. -/
  | over
  deriving Repr, DecidableEq

namespace CallBox

/-- Is a call outstanding? -/
def isBusy (b : CallBox) : Bool :=
  b.pending != .idle

/-- Was the write of the outstanding call sent? -/
def isAwaiting (b : CallBox) : Bool :=
  match b.pending with
  | .awaiting _ => true
  | _ => false

/-- Begins a call, unless one is outstanding, and gives its generation.  Generations are natural
numbers: the wrap of a machine word is out of reach. -/
def start? (b : CallBox) : Option (Nat × CallBox) :=
  match b.pending with
  | .idle => some (b.issued + 1, { b with pending := .queued (b.issued + 1), issued := b.issued + 1 })
  | _ => none

/-- Notes that the write of a call was sent.  The write of a call that is over changes nothing. -/
def markSent (generation : Nat) (b : CallBox) : CallBox :=
  if b.pending = .queued generation then { b with pending := .awaiting generation } else b

/-- Hands a buffer to the caller who waits for it; says whether there was one. -/
def fulfil (data : Bytes) (b : CallBox) : Bool × CallBox :=
  match b.pending with
  | .awaiting g => (true, { b with pending := .idle, replies := b.replies ++ [(g, data)] })
  | _ => (false, b)

/-- Ends a call, if it is still the outstanding one. -/
def finish (generation : Nat) (b : CallBox) : CallBox :=
  if b.pending.generation? = some generation then { b with pending := .idle } else b

/-- Ends whatever call is outstanding, so that its caller goes away empty-handed. -/
def cancel (b : CallBox) : CallBox :=
  { b with pending := .idle }

/-- Looks for the reply of a call, which is then taken out. -/
def collect (generation : Nat) (b : CallBox) : Receipt × CallBox :=
  match b.replies.lookup generation with
  | some data => (.reply data, { b with replies := b.replies.filter (·.1 != generation) })
  | none =>
    (if b.pending.generation? = some generation then .outstanding else .over, b)

end CallBox

end Switchboard
