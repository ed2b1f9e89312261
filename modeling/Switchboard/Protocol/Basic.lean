import Switchboard.Protocol.Script

/-!
# Protocols

An exchange moves buffers and does not look into them.  A protocol says what a command looks like on
the wire and what a buffer that arrived means.
-/

namespace Switchboard

/-- A new state of an item, as a protocol publishes it. -/
structure Update where
  item : String
  state : String
  deriving Repr, DecidableEq

/-- **What a protocol does,** with notes of type `ε`. -/
structure Protocol (ε : Type) where
  /-- The socket of a channel became active. -/
  configure : Channel → Script ε Unit := fun _ => .done ()
  /-- A buffer arrived for a channel. -/
  parse : Channel → Bytes → Script ε Unit
  /-- A command is to go out over a channel; says whether the command is to become the state of the
  item. -/
  command : Channel → String → Script ε Bool

end Switchboard
