import Switchboard.Remote

/-!
# Channels

A channel ties a command of an item to a remote end.  It does not own a socket: which socket serves
it is written in the directory, so that a new socket can take the place of an old one under all its
channels at once.
-/

namespace Switchboard

/-- The number by which a channel is known; it is never given to another channel. -/
abbrev ChannelId := Nat

/-- The number by which a socket is known. -/
abbrev SocketId := Nat

/-- The direction of a channel, seen from the exchange. -/
inductive Direction where
  /-- Data arrives from the remote end. -/
  | inbound
  /-- Data goes to the remote end. -/
  | outbound
  deriving Repr, DecidableEq

/-- The word for a direction. -/
def Direction.name : Direction → String
  | .inbound => "in"
  | .outbound => "out"

/-- What a channel serves: a command of an item, in one direction. -/
structure Subject where
  item : String
  command : String
  direction : Direction
  deriving Repr, DecidableEq

/-- The command that stands for every command. -/
def anyCommand : String :=
  "*"

/-- Does a command that is sent to the item go through the subject? -/
def Subject.accepts (s : Subject) (command : String) : Bool :=
  s.command == anyCommand || s.command == command

/-- **A channel,** as everybody holds it who may write to it.  `home` tells the directories apart
that give out channels, so a channel of another directory is never taken for one of this one. -/
structure Channel where
  home : Nat
  id : ChannelId
  subject : Subject
  remote : Remote
  deriving Repr, DecidableEq

namespace Channel

/-- The item that the channel serves. -/
def item (c : Channel) : String :=
  c.subject.item

/-- The direction of the channel. -/
def direction (c : Channel) : Direction :=
  c.subject.direction

/-- The text of a channel. -/
def render (c : Channel) : String :=
  String.ofList (Text.decimal c.id) ++ "[" ++ c.subject.item ++ "/" ++ c.subject.command ++ " " ++
    c.subject.direction.name ++ " " ++ c.remote.render ++ "]"

end Channel

end Switchboard
