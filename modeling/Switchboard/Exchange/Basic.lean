import Switchboard.Directory
import Switchboard.Exchange.Socket
import Switchboard.Outbox

/-!
# The exchange

An exchange serves many channels over few sockets.  This file holds its state and the smallest steps
on it; the modules beside it hold what the exchange does.

Everything is a function from one state to the next.  What the world answers comes from the network
in the state, through the calls of `Net.Network`.
-/

namespace Switchboard

open Net Settings

/-- A buffer that was read for a channel. -/
structure Delivery where
  channel : Channel
  data : Bytes
  deriving Repr, DecidableEq

/-- Who got a buffer that was read. -/
inductive Taker where
  /-- The caller of a blocking write. -/
  | caller (channel : Channel)
  /-- The protocol, once for each of these channels; nobody if there is none. -/
  | protocol (channels : List Channel)
  deriving Repr, DecidableEq

/-- An event on the sockets. -/
inductive Traffic where
  /-- A socket was opened. -/
  | opened (socket : SocketId)
  /-- A socket was closed. -/
  | closed (socket : SocketId)
  /-- A channel is to be told that its socket is active. -/
  | announced (channel : Channel) (socket : SocketId)
  /-- Bytes of a write, which is shown as it was before, went out to an endpoint. -/
  | sent (socket : SocketId) (target : Option Endpoint) (write : Write) (count : Nat)
  /-- A buffer was read. -/
  | received (socket : SocketId) (sender : Option Endpoint) (data : Bytes) (taker : Taker)
  deriving Repr, DecidableEq

/-- A bound of the machine that a setting may ask too much of. -/
inductive Limit where
  /-- An instant later than the clock can show. -/
  | instant
  /-- A read buffer larger than the address space. -/
  | buffer
  /-- A list of readiness events larger than the address space. -/
  | events
  deriving Repr, DecidableEq

/-- **The state of an exchange** over a network in state `ν`. -/
structure Exchange (ν : Type) where
  /-- The name under which its keys are looked up. -/
  name : String
  profile : Profile
  isOpen : Bool := false
  sockets : Sockets := []
  directory : Directory := {}
  schedule : Schedule := []
  listener : Option SocketId := none
  /-- The number of the next socket. -/
  nextSocket : SocketId := 1000
  /-- The channels whose socket became active and whose protocol has not been told yet. -/
  announcements : List Channel := []
  outbox : Outbox := {}
  /-- What the current pass has read for the protocol. -/
  inbox : List Delivery := []
  /-- The instant, in milliseconds. -/
  clock : Nat := 0
  /-- What happened on the sockets, the latest first. -/
  journal : List Traffic := []
  /-- The first bound that was exceeded.  The operation that meets one breaks down, and the states
  after it stand for none of a running exchange. -/
  exceeded : Option Limit := none
  network : ν

namespace Exchange

variable {ν : Type}

/-- A new exchange, closed and without channels; the sharing flags must not contradict each other. -/
def create (name : String) (profile : Profile) (network : ν) : Except Error (Exchange ν) :=
  match profile.sharing.check with
  | .error e => .error e
  | .ok () => .ok { name, profile, network }

/-! ### Small steps -/

/-- Writes an event into the journal. -/
def record (t : Traffic) (x : Exchange ν) : Exchange ν :=
  { x with journal := t :: x.journal }

/-- Notes a bound that was exceeded, unless one was noted before. -/
def exceed (l : Limit) (x : Exchange ν) : Exchange ν :=
  { x with exceeded := x.exceeded <|> some l }

/-- Changes the directory. -/
def onDirectory (f : Directory → Directory) (x : Exchange ν) : Exchange ν :=
  { x with directory := f x.directory }

/-- Changes one socket. -/
def modifySocket (id : SocketId) (f : Socket → Socket) (x : Exchange ν) : Exchange ν :=
  { x with sockets := x.sockets.modify id f }

/-- Lets a channel be told that its socket is active. -/
def announce (socket : SocketId) (x : Exchange ν) (c : Channel) : Exchange ν :=
  { x with announcements := x.announcements ++ [c] }.record (.announced c socket)

/-- Lets some channels be told that their socket is active. -/
def announceAll (socket : SocketId) (cs : List Channel) (x : Exchange ν) : Exchange ν :=
  cs.foldl (announce socket) x

/-- Puts a new socket into the table and draws the next number, which is a natural one: that the
numbers of a machine word run out, and start over at the first, is out of reach. -/
def track (s : Socket) (x : Exchange ν) : Exchange ν :=
  let sockets := x.sockets.add x.nextSocket s
  { x with sockets, nextSocket := sockets.nextFree x.nextSocket }.record (.opened x.nextSocket)

/-- Closes a socket. -/
def closeSocket [Network ν] (id : SocketId) (x : Exchange ν) : Exchange ν :=
  if x.sockets.has id = true then
    { x with sockets := x.sockets.erase id, network := Network.close id x.network }.record (.closed id)
  else x

/-- Is the socket the listener? -/
def isListener (x : Exchange ν) (id : SocketId) : Bool :=
  x.listener == some id

/-- Where the listener is to be reached. -/
def listenerEnd? (x : Exchange ν) : Option Endpoint :=
  x.listener.bind fun id => (x.sockets.find? id).map (·.ownEnd)

end Exchange

end Switchboard
