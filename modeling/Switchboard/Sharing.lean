import Switchboard.Channel

/-!
# Sharing of sockets

How far channels with the same remote end may use one socket.

* `Sharing` holds the flags, and `Sharing.check` refuses flags that contradict each other.
* `Scope` lists the circles of channels, from the narrowest on, and `Scope.covers` says whether a
  circle holds two channels.
-/

namespace Switchboard

/-- **Which channels may share a socket.** -/
structure Sharing where
  /-- Channels of one item and one direction. -/
  item : Bool := true
  /-- Channels of any item and one direction. -/
  binding : Bool := true
  /-- Channels of any item and either direction. -/
  directions : Bool := false
  /-- Inbound remotes may leave host or port open. -/
  masks : Bool := true
  deriving Repr, DecidableEq

/-- The first contradiction between the flags.  A wider circle needs the narrower ones, and sharing
between the directions does not go with masks. -/
def Sharing.conflict? (s : Sharing) : Option SharingConflict :=
  if s.binding && !s.item then some .bindingWithoutItem
  else if s.directions && !(s.item && s.binding) then some .directionsWithoutBoth
  else if s.directions && s.masks then some .directionsWithMasks
  else none

/-- Refuses flags that contradict each other. -/
def Sharing.check (s : Sharing) : Except Error Unit :=
  match s.conflict? with
  | some c => .error (.sharing c)
  | none => .ok ()

/-- A circle of channels that may share a socket. -/
inductive Scope where
  | item
  | binding
  | directions
  deriving Repr, DecidableEq

/-- The circles that the flags open, the narrowest first. -/
def Scope.enabled (s : Sharing) : List Scope :=
  (if s.item then [.item] else []) ++ (if s.binding then [.binding] else []) ++
    (if s.directions then [.directions] else [])

/-- Does the circle hold channels of both subjects? -/
def Scope.covers (scope : Scope) (a b : Subject) : Bool :=
  match scope with
  | .item => a.item == b.item && a.direction == b.direction
  | .binding => a.direction == b.direction
  | .directions => true

end Switchboard
