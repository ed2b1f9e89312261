import Switchboard.Text.Number

/-!
# Internet addresses

Addresses of the two families and their texts.

* `Ipv4.render` and `Ipv6.render` are the canonical forms.  The form of the long family writes each
  group without leading zeros and closes the first of the longest runs of zero groups; an address
  that embeds one of the short family shows it with dots.
* `Ipv4.read?` and `Ipv6.read?` read strict texts: four decimal octets without leading zeros, and
  hexadecimal groups with at most one gap and perhaps a short address in the last two places.
-/

namespace Switchboard.Net

open Text

/-- An address of four octets. -/
structure Ipv4 where
  a : UInt8
  b : UInt8
  c : UInt8
  d : UInt8
  deriving Repr, DecidableEq, Inhabited

/-- An address of eight groups of sixteen bits. -/
structure Ipv6 where
  groups : Vector UInt16 8
  deriving Repr, DecidableEq

/-- An address of either family. -/
inductive IpAddress where
  | v4 (address : Ipv4)
  | v6 (address : Ipv6)
  deriving Repr, DecidableEq

/-! ### The short family -/

namespace Ipv4

/-- The address that a number of 32 bits stands for. -/
def ofNat (n : Nat) : Ipv4 :=
  ⟨.ofNat (n >>> 24), .ofNat (n >>> 16), .ofNat (n >>> 8), .ofNat n⟩

/-- The address that stands for every local address. -/
def unspecified : Ipv4 :=
  ⟨0, 0, 0, 0⟩

/-- The address by which a host reaches itself. -/
def loopback : Ipv4 :=
  ⟨127, 0, 0, 1⟩

/-- Four decimal octets with dots between them. -/
def render (i : Ipv4) : List Char :=
  decimal i.a.toNat ++ '.' :: decimal i.b.toNat ++ '.' :: decimal i.c.toNat ++
    '.' :: decimal i.d.toNat

/-- An octet: one to three decimal digits without a leading zero. -/
def octet? (cs : List Char) : Option UInt8 :=
  if cs.length ≤ 3 ∧ (cs.head? = some '0' → cs = ['0']) then
    (digits? 10 255 cs).map UInt8.ofNat
  else none

/-- **Reads four decimal octets.** -/
def read? (cs : List Char) : Option Ipv4 :=
  match (cs.splitOn '.').mapM octet? with
  | some [a, b, c, d] => some ⟨a, b, c, d⟩
  | _ => none

end Ipv4

/-! ### The long family -/

namespace Ipv6

/-- The address with the given groups, of which there must be eight. -/
def ofList? (gs : List UInt16) : Option Ipv6 :=
  if h : gs.length = 8 then some ⟨⟨gs.toArray, by simpa using h⟩⟩ else none

/-- The address that stands for every local address. -/
def unspecified : Ipv6 :=
  ⟨Vector.replicate 8 0⟩

/-- The groups in order. -/
def toList (i : Ipv6) : List UInt16 :=
  i.groups.toList

/-- One group, without leading zeros. -/
def renderGroup (g : UInt16) : List Char :=
  Nat.toDigits 16 g.toNat

/-- Groups with colons between them. -/
def renderGroups (gs : List UInt16) : List Char :=
  [':'].intercalate (gs.map renderGroup)

/-- How many zero groups the list starts with. -/
def zerosAhead (gs : List UInt16) : Nat :=
  (gs.takeWhile (· == 0)).length

/-- The place and the length of the first of the longest runs of zero groups. -/
def longestZeros : List UInt16 → Nat × Nat
  | [] => (0, 0)
  | g :: gs =>
    let (at_, n) := longestZeros gs
    if n ≤ zerosAhead (g :: gs) then (0, zerosAhead (g :: gs)) else (at_ + 1, n)

/-- The short address that an address embeds by the prefix of mapped addresses. -/
def mapped? (i : Ipv6) : Option Ipv4 :=
  match i.toList with
  | [0, 0, 0, 0, 0, 0xFFFF, g, h] =>
    some ⟨.ofNat (g.toNat / 256), .ofNat g.toNat, .ofNat (h.toNat / 256), .ofNat h.toNat⟩
  | _ => none

/-- **The canonical text.** -/
def render (i : Ipv6) : List Char :=
  match i.mapped? with
  | some short => "::ffff:".toList ++ short.render
  | none =>
    let gs := i.toList
    let (at_, n) := longestZeros gs
    if n ≤ 1 then renderGroups gs
    else renderGroups (gs.take at_) ++ "::".toList ++ renderGroups (gs.drop (at_ + n))

/-- One to four hexadecimal digits. -/
def group? (cs : List Char) : Option UInt16 :=
  if cs.length ≤ 4 then (digits? 16 0xFFFF cs).map UInt16.ofNat else none

/-- The two groups that a short address fills. -/
def groupsOf (i : Ipv4) : List UInt16 :=
  [.ofNat (i.a.toNat * 256 + i.b.toNat), .ofNat (i.c.toNat * 256 + i.d.toNat)]

/-- Reads the fields between colons; the last one may be a short address when `short` allows it. -/
def fields? (short : Bool) : List (List Char) → Option (List UInt16)
  | [] => some []
  | [f] =>
    match group? f with
    | some g => some [g]
    | none => if short then (Ipv4.read? f).map groupsOf else none
  | f :: g :: fs => do
    let first ← group? f
    let rest ← fields? short (g :: fs)
    return first :: rest

/-- Reads groups with colons between them; nothing at all is no group. -/
def groups? (short : Bool) (cs : List Char) : Option (List UInt16) :=
  if cs = [] then some [] else fields? short (cs.splitOn ':')

/-- The text before and after the first gap, that is, two colons together. -/
def splitGap : List Char → Option (List Char × List Char)
  | ':' :: ':' :: cs => some ([], cs)
  | c :: cs => (splitGap cs).map fun (p, q) => (c :: p, q)
  | [] => none

/-- **Reads an address.**  A gap stands for at least one zero group, and only what follows it may
end in a short address; without a gap there are eight groups. -/
def read? (cs : List Char) : Option Ipv6 :=
  match splitGap cs with
  | none => if cs = [] then none else (groups? true cs).bind ofList?
  | some (before, after) => do
    let head ← groups? false before
    let tail ← groups? true after
    if head.length + tail.length ≤ 7 then
      ofList? (head ++ List.replicate (8 - head.length - tail.length) 0 ++ tail)
    else none

end Ipv6

/-! ### Either family -/

namespace IpAddress

/-- The canonical text of an address. -/
def render : IpAddress → List Char
  | .v4 i => i.render
  | .v6 i => i.render

/-- Reads an address of either family. -/
def read? (cs : List Char) : Option IpAddress :=
  match Ipv4.read? cs with
  | some i => some (.v4 i)
  | none => (Ipv6.read? cs).map .v6

/-- The address of the same family that stands for every local address. -/
def unspecifiedLike : IpAddress → IpAddress
  | .v4 _ => .v4 .unspecified
  | .v6 _ => .v6 .unspecified

/-- Does the address stand for every local address? -/
def isUnspecified (i : IpAddress) : Bool :=
  i == i.unspecifiedLike

end IpAddress

end Switchboard.Net
