/-!
# Blank characters

Which characters count as blank at the ends of a text, and the text without them.  Blank is the
Unicode property `White_Space`: it has the no-break space and the ideographic space, and it does
not have the zero-width space or the information separators.
-/

namespace Switchboard.Text

/-- **The Unicode property `White_Space`.** -/
def isBlank (c : Char) : Bool :=
  let n := c.toNat
  (0x09 ≤ n && n ≤ 0x0D) || n == 0x20 || n == 0x85 || n == 0xA0 || n == 0x1680 ||
    (0x2000 ≤ n && n ≤ 0x200A) || n == 0x2028 || n == 0x2029 || n == 0x202F || n == 0x205F ||
    n == 0x3000

/-- A text without the blanks at its end. -/
def trimEnd (cs : List Char) : List Char :=
  (cs.reverse.dropWhile isBlank).reverse

/-- A text without the blanks at its two ends. -/
def trim (cs : List Char) : List Char :=
  trimEnd (cs.dropWhile isBlank)

end Switchboard.Text
