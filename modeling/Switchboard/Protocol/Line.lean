import Switchboard.Protocol.Basic
import Switchboard.Protocol.Escape

/-!
# The line protocol

A command is written between an opening and a closing text.  Text that arrives, and is the command of
the channel, becomes the state of the item; and where writes wait for their replies, the reply can
become the state instead.
-/

namespace Switchboard

open Settings

/-- **The line protocol** with its settings. -/
structure LineProtocol where
  /-- The milliseconds that a reply is waited for. -/
  timeout : Nat := 3000
  /-- Do writes wait for replies? -/
  blocking : Bool := false
  opening : List Char := []
  closing : List Char := ['\r', '\n']
  /-- Does a reply become the state of the item? -/
  replyIsState : Bool := true
  deriving Repr, DecidableEq

namespace LineProtocol

/-- The name of the protocol in a configuration. -/
def name : String :=
  "ascii"

/-- Reads the settings of the protocol, with the keys under `name` before those at the root.  The
opening and the closing text may have escapes. -/
def read (c : Configuration) (name : String) : Except Error LineProtocol := do
  let d : LineProtocol := {}
  let timeout ← c.natural? name "timeout"
  let blocking ← c.flag? name "blocking"
  let opening ← c.string? name "preamble"
  let closing ← c.string? name "postamble"
  let replyIsState ← c.flag? name "updatewithresponse"
  return {
    timeout := timeout.getD d.timeout
    blocking := blocking.getD d.blocking
    opening := (opening.map fun s => Escape.read s.toList).getD d.opening
    closing := (closing.map fun s => Escape.read s.toList).getD d.closing
    replyIsState := replyIsState.getD d.replyIsState }

/-! ### Frames -/

/-- The characters that are written for a command. -/
def frameChars (p : LineProtocol) (command : List Char) : List Char :=
  p.opening ++ command ++ p.closing

/-- **The bytes that are written for a command.** -/
def frame (p : LineProtocol) (command : String) : Bytes :=
  Text.encode (p.frameChars command.toList)

/-- A text without `front` at its beginning, if it is there. -/
def dropFront (front cs : List Char) : List Char :=
  if front.isPrefixOf cs = true then cs.drop front.length else cs

/-- A text without `back` at its end, if it is there. -/
def dropBack (back cs : List Char) : List Char :=
  if back.isSuffixOf cs = true then cs.take (cs.length - back.length) else cs

/-- Is the character part of a line end? -/
def isLineEnd (c : Char) : Bool :=
  c == '\r' || c == '\n'

/-- A text without the line ends after it. -/
def trimLineEnds (cs : List Char) : List Char :=
  (cs.reverse.dropWhile isLineEnd).reverse

/-- **The text inside a frame.**  Opening, closing and line ends go where they are there. -/
def unframe (p : LineProtocol) (cs : List Char) : List Char :=
  trimLineEnds (dropBack p.closing (dropFront p.opening cs))

/-- The text inside the frame of a buffer. -/
def textOf (p : LineProtocol) (data : Bytes) : String :=
  String.ofList (p.unframe (Text.decode data))

/-! ### What it does -/

/-- What a buffer for a channel publishes: any text on a channel for every command, and the command
of the channel where the text is that command. -/
def published (p : LineProtocol) (c : Channel) (data : Bytes) : List Update :=
  let text := p.textOf data
  if c.subject.command = anyCommand then [⟨c.item, text⟩]
  else if c.subject.command = text then [⟨c.item, c.subject.command⟩]
  else []

/-- The script that publishes some updates. -/
def publish {α : Type} (a : α) (updates : List Update) : Script Update α :=
  updates.foldr .note (.done a)

/-- What follows the outcome of writing a command: a reply may become the state, and without one the
command is to become it, unless the write failed. -/
def conclude (p : LineProtocol) (c : Channel) : Except Error (Option Bytes) → Script Update Bool
  | .ok (some reply) =>
    if p.replyIsState = true then .note ⟨c.item, p.textOf reply⟩ (.done false) else .done true
  | .ok none => .done true
  | .error _ => .done false

/-- Writes a command and, with blocking writes, waits for the reply. -/
def send (p : LineProtocol) (c : Channel) (command : String) : Script Update Bool :=
  if p.blocking = true then .call c (p.frame command) p.timeout (p.conclude c)
  else .write c (p.frame command) fun r => p.conclude c (r.map fun _ => none)

/-- **The line protocol as a protocol.** -/
def toProtocol (p : LineProtocol) : Protocol Update where
  parse c data := publish () (p.published c data)
  command := p.send

end LineProtocol

end Switchboard
