import Switchboard.Net.Endpoint

/-!
# Host names

What the host part of a remote may be.  A host is first tried as a strict address of either family.
Then the forms that systems have always understood are tried: one to four numbers, each decimal,
octal after a leading zero or hexadecimal after `0x`, of which the last fills all octets that are
left; an address with a numeric scope; and the name by which every host calls itself.  No other name
is known here.
-/

namespace Switchboard.Net.HostName

open Text

/-! ### One to four numbers -/

/-- A number in the notation of its first characters: `0x` for hexadecimal, `0` for octal. -/
def part? : List Char → Option Nat
  | '0' :: c :: cs =>
    if c = 'x' ∨ c = 'X' then digits? 16 0xFFFFFFFF cs else digits? 8 0xFFFFFFFF (c :: cs)
  | cs => digits? 10 0xFFFFFFFF cs

/-- Puts the parts together: every part but the last is one octet, and the last part fills the
octets that remain. -/
def fill? : List Nat → Option Nat
  | [a] => if a < 0x100000000 then some a else none
  | [a, b] => if a < 256 ∧ b < 0x1000000 then some (a <<< 24 + b) else none
  | [a, b, c] =>
    if a < 256 ∧ b < 256 ∧ c < 0x10000 then some (a <<< 24 + b <<< 16 + c) else none
  | [a, b, c, d] =>
    if a < 256 ∧ b < 256 ∧ c < 256 ∧ d < 256 then
      some (a <<< 24 + b <<< 16 + c <<< 8 + d)
    else none
  | _ => none

/-- **An address of the short family in one to four parts.** -/
def numeric? (cs : List Char) : Option Ipv4 :=
  (((cs.splitOn '.').mapM part?).bind fill?).map Ipv4.ofNat

/-! ### Any host -/

/-- An address of the long family with a decimal scope after a percent sign. -/
def scoped? (cs : List Char) : Option (Ipv6 × UInt32) :=
  match cs.dropWhile (· != '%') with
  | [] => none
  | _ :: s => do
    let i ← Ipv6.read? (cs.takeWhile (· != '%'))
    let n ← digits? 10 0xFFFFFFFF s
    return (i, .ofNat n)

/-- The name by which a host calls itself, in any case. -/
def isSelfName (cs : List Char) : Bool :=
  cs.map Char.toLower == "localhost".toList

/-- **The endpoint of a host text and a port.** -/
def endpoint? (cs : List Char) (port : UInt16) : Option Endpoint :=
  match Ipv4.read? cs with
  | some i => some (.v4 i port)
  | none =>
    match Ipv6.read? cs with
    | some i => some (.v6 i port 0)
    | none =>
      match numeric? cs with
      | some i => some (.v4 i port)
      | none =>
        match scoped? cs with
        | some (i, s) => some (.v6 i port s)
        | none => if isSelfName cs then some (.v4 .loopback port) else none

end Switchboard.Net.HostName
