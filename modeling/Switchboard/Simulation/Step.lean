import Switchboard.Settings.Value
import Switchboard.Simulation.Observer
import Switchboard.Station

/-!
# Steps and answers

What the host of a session and its peers can do, and what they can be told.
-/

namespace Switchboard.Simulation

open Net Settings

/-! ### Steps -/

/-- To which socket of the exchange a peer sends. -/
inductive Target where
  | listener
  /-- The socket that serves the channel. -/
  | channel (id : ChannelId)
  | socket (id : SocketId)
  deriving Repr, DecidableEq

/-- Where something that a peer got came from. -/
inductive Origin where
  | listener
  | socket (id : SocketId)
  /-- A socket that is closed by now. -/
  | gone
  deriving Repr, DecidableEq

/-- Values to build a configuration from. -/
structure Source where
  defaults : List (String × Value) := []
  overrides : List (String × Value) := []

/-- **A step of a session.** -/
inductive Step where
  | openUp
  | activate
  | deactivate
  | bind (s : Subject) (remote : String)
  | reconfigure (bindings : List (Subject × String))
  | findSubject (s : Subject)
  | findRemote (remote : String) (direction : Option Direction)
  | command (item command : String) (call : Option String)
  | write (channel : ChannelId) (data : Bytes) (blocking : Bool) (call : Option String)
  | join (call : String)
  | poll
  | retry
  | faultOfSocket (id : SocketId)
  | faultOfChannel (id : ChannelId)
  | updateProfile (source : Source)
  | showProfile
  | describe
  | send (peer : String) (target : Option Target) (data : Bytes) (connection : Option Nat)
  | receive (peer : String) (connection : Option Nat)
  | leave (peer : String)
  | comeBack (peer : String)
  | acceptOne (peer : String)
  | acceptAll (peer : String)
  | connect (peer : String)
  | receiveEnd (peer : String) (connection : Option Nat)
  | hangUp (peer : String) (reset : Bool) (connection : Option Nat)

/-! ### Answers -/

/-- Why a step makes no sense where it is taken. -/
inductive Misstep where
  | badStep
  | noChannel
  | noCall
  | noPeer
  | nowhere
  | nobody
  deriving Repr, DecidableEq

/-- **The answer to a step.** -/
inductive Answer where
  | nothing
  | ok
  | refused (e : Error)
  | misstep (m : Misstep)
  | flag (b : Bool)
  | bound (c : Channel) (known : Bool)
  | channels (cs : List Channel)
  | outcome (o : CommandOutcome)
  | response (reply : Option Bytes)
  | delivered (count : Nat)
  | profile (p : Profile)
  | description (name text : String)
  | datagrams (ds : List (Origin × Bytes))
  | origin (o : Origin)
  | origins (os : List Origin)
  | data (bs : Bytes)
  | unconnected (cause : SocketError)
  | closed

end Switchboard.Simulation
