import Switchboard.Net.Network

/-!
# The sockets of an exchange

What an exchange knows about each of its sockets, the table of all of them, and the schedule of the
sockets that have failed and are to be replaced.
-/

namespace Switchboard

open Net

/-! ### One socket -/

/-- What kind of socket it is. -/
inductive Medium where
  /-- Sends and receives datagrams. -/
  | datagram
  /-- Is one end of a connection. -/
  | connection
  /-- Takes connections in. -/
  | acceptor
  deriving Repr, DecidableEq

/-- What a socket is for. -/
inductive Role where
  /-- Has the well-known endpoint and serves inbound channels. -/
  | listener
  /-- Is tied to the remote end of one or more outbound channels. -/
  | outbound
  /-- Is a connection that the listener took in. -/
  | accepted
  deriving Repr, DecidableEq

/-- Where a socket stands in its life. -/
inductive Phase where
  | active
  /-- The connection does not stand yet; that it does shows when the socket can be written. -/
  | connecting
  /-- The socket failed and waits to be replaced. -/
  | retryScheduled
  /-- The socket is just being replaced. -/
  | retrying
  deriving Repr, DecidableEq

/-- **A socket** as the exchange knows it. -/
structure Socket where
  medium : Medium
  role : Role
  phase : Phase
  interest : Interest
  ownEnd : Endpoint
  farEnd : Option Endpoint
  deriving Repr, DecidableEq

namespace Socket

/-- Can the socket be used, or come into use by itself? -/
def isLive (s : Socket) : Bool :=
  s.phase == .active || s.phase == .connecting

/-- The listener of a transport, with the endpoint that it got. -/
def listening (t : Settings.Transport) (ownEnd : Endpoint) : Socket where
  medium := match t with
    | .datagram => .datagram
    | .stream => .acceptor
  role := .listener
  phase := .active
  interest := ⟨true, false⟩
  ownEnd
  farEnd := none

/-- A socket to a remote end.  One for datagrams is active at once; a connection is first waited
for. -/
def outgoing (t : Settings.Transport) (ownEnd remote : Endpoint) : Socket where
  medium := match t with
    | .datagram => .datagram
    | .stream => .connection
  role := .outbound
  phase := match t with
    | .datagram => .active
    | .stream => .connecting
  interest := match t with
    | .datagram => ⟨true, false⟩
    | .stream => ⟨false, true⟩
  ownEnd
  farEnd := some remote

/-- A connection that the listener took in. -/
def taken (ownEnd remote : Endpoint) : Socket where
  medium := .connection
  role := .accepted
  phase := .active
  interest := ⟨true, false⟩
  ownEnd
  farEnd := some remote

end Socket

/-! ### The table -/

/-- The sockets of an exchange with their numbers, in the order in which they were opened. -/
abbrev Sockets := List (SocketId × Socket)

namespace Sockets

/-- The socket of a number. -/
def find? (t : Sockets) (id : SocketId) : Option Socket :=
  List.lookup id t

/-- Is the number taken? -/
def has (t : Sockets) (id : SocketId) : Bool :=
  t.any (·.1 == id)

/-- The table with one more socket. -/
def add (t : Sockets) (id : SocketId) (s : Socket) : Sockets :=
  t ++ [(id, s)]

/-- The table without a socket. -/
def erase (t : Sockets) (id : SocketId) : Sockets :=
  t.filter (·.1 != id)

/-- Changes the socket of a number. -/
def modify (t : Sockets) (id : SocketId) (f : Socket → Socket) : Sockets :=
  t.map fun (i, s) => if i = id then (i, f s) else (i, s)

/-- The numbers of the sockets that pass a test. -/
def idsWhere (t : Sockets) (p : SocketId → Socket → Bool) : List SocketId :=
  (t.filter fun (i, s) => p i s).map (·.1)

/-- The first number after `id` that no socket has.  Among as many numbers as there are sockets, and
one more, one is free. -/
def nextFree (t : Sockets) (id : SocketId) : SocketId :=
  (((List.range (t.length + 1)).map (id + 1 + ·)).find? fun i => !t.has i).getD (id + 1)

end Sockets

/-! ### The schedule of replacements -/

/-- A failed socket and when it is to be replaced. -/
structure Retry where
  socket : SocketId
  /-- The instant of the attempt, in milliseconds. -/
  due : Nat
  /-- The seconds between a failure and the next attempt. -/
  delay : Nat
  deriving Repr, DecidableEq

/-- The replacements to come, in the order in which they were noted. -/
abbrev Schedule := List Retry

namespace Schedule

/-- Notes a socket to be replaced after some seconds, unless it is noted already. -/
def add (socket : SocketId) (now delay : Nat) (s : Schedule) : Schedule :=
  if s.any (·.socket == socket) then s else s ++ [⟨socket, now + 1000 * delay, delay⟩]

/-- The replacements due at an instant, and those that are not. -/
def takeDue (now : Nat) (s : Schedule) : List Retry × Schedule :=
  s.partition fun r => r.due ≤ now

/-- Strikes a socket off. -/
def cancel (socket : SocketId) (s : Schedule) : Schedule :=
  s.filter (·.socket != socket)

end Schedule

end Switchboard
