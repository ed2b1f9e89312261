import Switchboard.Text.Unicode.Hidden
import Switchboard.Text.Number

/-!
# Quoted texts

The form in which a message shows a text of unknown content: between double quotes, with a
backslash before a quote or a backslash, short names for the common controls, and the code point of
every other character that would not show as itself.
-/

namespace Switchboard.Text

/-- The escape that writes a character by its code point, in lower-case hexadecimal digits. -/
def codePointEscape (c : Char) : List Char :=
  ['\\', 'u', Char.ofNat 0x7B] ++ Nat.toDigits 16 c.toNat ++ [Char.ofNat 0x7D]

/-- How one character is written inside the quotes. -/
def quoteChar (c : Char) : List Char :=
  if c.toNat = 0 then ['\\', '0']
  else if c = '\t' then ['\\', 't']
  else if c = '\r' then ['\\', 'r']
  else if c = '\n' then ['\\', 'n']
  else if c = '\\' then ['\\', '\\']
  else if c.toNat = 34 then ['\\', c]
  else if Unicode.isHidden c then codePointEscape c
  else [c]

/-- **A text between double quotes.** -/
def quote (s : String) : String :=
  String.ofList (Char.ofNat 34 :: s.toList.flatMap quoteChar ++ [Char.ofNat 34])

end Switchboard.Text
