import Switchboard.Protocol.Line

/-!
# Observed protocols

Protocols that leave a note of everything they are asked for, so that a session can show what an
exchange did with them.  They can also greet a channel whose socket became active, and echo what
arrives.
-/

namespace Switchboard.Simulation

/-- **What an observed protocol notes.**  The updates are those that were published meanwhile, where
the protocol publishes any. -/
inductive Event where
  /-- It was told that the socket of the channel is active. -/
  | configured (c : Channel)
  /-- It wrote a greeting, which was accepted or not. -/
  | greeted (c : Channel) (accepted : Bool)
  /-- It was given a buffer. -/
  | parsed (c : Channel) (data : Bytes) (updates : Option (List Update))
  /-- It wrote an echo, which was accepted or not. -/
  | echoed (c : Channel) (accepted : Bool)
  /-- It was given a command, with this result. -/
  | commanded (c : Channel) (command : String) (result : Bool) (updates : Option (List Update))
  deriving Repr, DecidableEq

namespace Event

/-- The channel that the event is about. -/
def channel : Event → Channel
  | .configured c => c
  | .greeted c _ => c
  | .parsed c _ _ => c
  | .echoed c _ => c
  | .commanded c _ _ _ => c

/-- The word for the kind of event. -/
def name : Event → String
  | .configured _ => "configure"
  | .greeted _ _ => "greeted"
  | .parsed _ _ _ => "parse"
  | .echoed _ _ => "echoed"
  | .commanded _ _ _ _ => "command"

end Event

/-- What the observed protocol does with commands and buffers. -/
inductive Speaker where
  /-- Writes a command as it is, and waits for the reply if there is a number of milliseconds. -/
  | plain (timeout : Option Nat)
  /-- Speaks the line protocol. -/
  | line (p : LineProtocol)
  deriving Repr, DecidableEq

/-- **An observed protocol.** -/
structure Observer where
  speaker : Speaker
  /-- The greeting for a channel whose socket became active. -/
  greeting : Option String := none
  /-- What stands before a buffer that is sent back. -/
  echo : Option String := none

namespace Observer

/-- The bytes of a text. -/
def bytesOf (s : String) : Bytes :=
  Text.encode s.toList

/-- Was the outcome a success? -/
def succeeded {α : Type} : Except Error α → Bool
  | .ok _ => true
  | .error _ => false

/-- Notes that a socket became active, and greets. -/
def configure (o : Observer) (c : Channel) : Script Event Unit :=
  .note (.configured c) <|
    match o.greeting with
    | none => .done ()
    | some text => .write c (bytesOf text) fun r => .note (.greeted c (succeeded r)) (.done ())

/-- Sends a buffer back. -/
def sendBack (o : Observer) (c : Channel) (data : Bytes) : Script Event Unit :=
  match o.echo with
  | none => .done ()
  | some text =>
    .write c (bytesOf text ++ data) fun r => .note (.echoed c (succeeded r)) (.done ())

/-- Takes a buffer, notes it and sends it back. -/
def parse (o : Observer) (c : Channel) (data : Bytes) : Script Event Unit :=
  match o.speaker with
  | .plain _ => .note (.parsed c data none) (o.sendBack c data)
  | .line p =>
    (p.toProtocol.parse c data).gather
      (fun () updates => .note (.parsed c data (some updates)) (o.sendBack c data)) []

/-- Writes a command and notes the result. -/
def command (o : Observer) (c : Channel) (command : String) : Script Event Bool :=
  match o.speaker with
  | .plain none =>
    .write c (bytesOf command) fun r =>
      .note (.commanded c command (succeeded r) none) (.done (succeeded r))
  | .plain (some timeout) =>
    .call c (bytesOf command) timeout fun r =>
      .note (.commanded c command (succeeded r) none) (.done (succeeded r))
  | .line p =>
    (p.toProtocol.command c command).gather
      (fun result updates => .note (.commanded c command result (some updates)) (.done result)) []

/-- **The observer as a protocol.** -/
def toProtocol (o : Observer) : Protocol Event where
  configure := o.configure
  parse := o.parse
  command := o.command

end Observer

end Switchboard.Simulation
