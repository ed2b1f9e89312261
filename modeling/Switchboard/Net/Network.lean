import Switchboard.Settings.Profile
import Switchboard.Text.Utf8

/-!
# What an exchange asks of a network

The calls on sockets, as an interface.  An exchange does nothing to the world except through these,
and it takes their answers as they come: a network may refuse, delay, cut short or make up anything.

A socket is named by the number that the exchange gives it.  Calls never block.  A call that was
interrupted is taken to have been made again, so no answer says so.
-/

namespace Switchboard.Net

open Settings

/-- What a socket waits for. -/
structure Interest where
  read : Bool
  write : Bool
  deriving Repr, DecidableEq

/-- What a poll tells about a socket.  A socket that failed counts as ready for both, so that the
next call on it brings the failure out. -/
structure Readiness where
  socket : SocketId
  readable : Bool
  writable : Bool
  deriving Repr, DecidableEq

/-- Something that arrived.  The sender matters only where a socket hears from many. -/
structure Arrival where
  data : Bytes
  sender : Endpoint
  deriving Repr, DecidableEq

/-- Why a socket has nothing more to read. -/
inductive Ending where
  /-- Nothing more is there now. -/
  | dry
  /-- The other side has closed the connection. -/
  | closed
  /-- The socket failed. -/
  | failed (cause : SocketError)
  deriving Repr, DecidableEq

/-- All that could be read from a socket at a time, in order. -/
structure Inflow where
  arrivals : List Arrival
  ending : Ending
  deriving Repr, DecidableEq

/-- The answer to a write. -/
inductive Sent where
  /-- So many bytes were taken. -/
  | took (count : Nat)
  /-- The socket takes nothing now. -/
  | wouldBlock
  /-- The socket failed. -/
  | failed (cause : SocketError)
  deriving Repr, DecidableEq

/-- **The calls on sockets.**  Each takes the state of the network and gives the next one. -/
class Network (ν : Type) where
  /-- Opens the listener; gives the endpoint it got. -/
  listen : Transport → SocketId → Endpoint → ν → Except SocketError Endpoint × ν
  /-- Opens a socket to a remote end; gives its own endpoint.  A connection need not stand yet. -/
  connect : Transport → SocketId → Endpoint → ν → Except SocketError Endpoint × ν
  /-- Which of the sockets are ready, in the order in which they are to be served. -/
  poll : List (SocketId × Interest) → Nat → ν → List Readiness × ν
  /-- Takes the connections that wait at the listener: a mark for each, and the other end. -/
  accept : SocketId → ν → List (Nat × Endpoint) × ν
  /-- Makes a socket of a connection; gives its own endpoint. -/
  adopt : Nat → SocketId → ν → Except SocketError Endpoint × ν
  /-- The failure of a connection that was being established, if it failed. -/
  failure? : SocketId → ν → Option SocketError × ν
  /-- Reads what is there. -/
  receive : SocketId → ν → Inflow × ν
  /-- Writes to the remote end of the socket, or to an address of its own. -/
  send : SocketId → Option Endpoint → Bytes → ν → Sent × ν
  /-- Closes a socket. -/
  close : SocketId → ν → ν

end Switchboard.Net
