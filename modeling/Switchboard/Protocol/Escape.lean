/-!
# Escapes

How line ends, tabs and backslashes are written in a setting: each as a backslash and one more
character.

* `Escape.write` escapes a text, and `Escape.read` takes the escapes out again.
* A backslash that begins no escape stands for itself.
-/

namespace Switchboard.Escape

/-- The written form of one character. -/
def writeChar (c : Char) : List Char :=
  if c = '\\' then ['\\', '\\']
  else if c = '\r' then ['\\', 'r']
  else if c = '\n' then ['\\', 'n']
  else if c = '\t' then ['\\', 't']
  else [c]

/-- **The written form of a text.** -/
def write (cs : List Char) : List Char :=
  cs.flatMap writeChar

/-- The character that a backslash makes of the one after it. -/
def meaning? (c : Char) : Option Char :=
  if c = 'r' then some '\r'
  else if c = 'n' then some '\n'
  else if c = 't' then some '\t'
  else if c = '\\' then some '\\'
  else none

/-- **The text of a written form.** -/
def read : List Char → List Char
  | [] => []
  | [c] => [c]
  | c :: d :: rest =>
    if c = '\\' then
      match meaning? d with
      | some e => e :: read rest
      | none => c :: d :: read rest
    else c :: read (d :: rest)

end Switchboard.Escape
