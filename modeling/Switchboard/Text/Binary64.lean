import Switchboard.Text.Number

/-!
# Floating-point numbers, exactly

A number of the binary format with 53 significant bits, kept as an integer times a power of two, so
that everything about it is exact integer arithmetic.

* `Binary64.ofDecimal` rounds a decimal number to the nearest number of the format, a tie to the
  even one.
* `Binary64.read?` reads the usual notation with a point and an exponent.
* `Binary64.render` writes the fewest digits that read back as the number, without an exponent.
* `Binary64.toNatural` rounds to a whole number, a half away from zero, within bounds.
-/

namespace Switchboard.Text

/-- A floating-point number; a finite one is `significand * 2 ^ exponent`, with its sign. -/
inductive Binary64 where
  | nan
  | infinite (negative : Bool)
  | finite (negative : Bool) (significand : Nat) (exponent : Int)
  deriving Repr, DecidableEq

namespace Binary64

/-! ### Rounding to the format -/

/-- The quotient of two numbers, rounded to the nearest integer and a tie to the even one. -/
def divideToEven (num den : Nat) : Nat :=
  let q := num / den
  let r := num % den
  if 2 * r < den then q
  else if den < 2 * r then q + 1
  else q + q % 2

/-- The exponent of the last place of the number `num / den`: 53 bits lie above it, unless the
number is too small for that. -/
def lastPlace (num den : Nat) : Int :=
  let guess : Int := (num.log2 : Int) - (den.log2 : Int) - 52
  -- The quotient of the logarithms is off by at most one.
  let fits := if 0 ≤ guess then num < den <<< (guess.toNat + 52)
    else num <<< (-guess).toNat < den <<< 52
  max (if fits then guess - 1 else guess) (-1074)

/-- **The number of the format nearest to `num / den`.** -/
def ofRatio (negative : Bool) (num den : Nat) : Binary64 :=
  if num = 0 then .finite negative 0 0
  else
    let e := lastPlace num den
    let m := if 0 ≤ e then divideToEven num (den <<< e.toNat)
      else divideToEven (num <<< (-e).toNat) den
    let (m, e) := if m = 1 <<< 53 then (1 <<< 52, e + 1) else (m, e)
    if 971 < e then .infinite negative else .finite negative m e

/-- The number of the format nearest to `digits * 10 ^ exponent`.  Exponents far outside the format
are settled by their size alone. -/
def ofDecimal (negative : Bool) (digits : Nat) (exponent : Int) : Binary64 :=
  let size := exponent + (Nat.toDigits 10 digits).length
  if digits = 0 then .finite negative 0 0
  else if 400 < size then .infinite negative
  else if size < -400 then .finite negative 0 0
  else if 0 ≤ exponent then ofRatio negative (digits * tenTo exponent.toNat) 1
  else ofRatio negative digits (tenTo (-exponent).toNat)

/-! ### Reading -/

/-- The sign in front of a number, and what follows it. -/
def takeSign : List Char → Bool × List Char
  | '-' :: cs => (true, cs)
  | '+' :: cs => (false, cs)
  | cs => (false, cs)

/-- An exponent after the letter `e`: an optional sign and at least one digit. -/
def exponent? : List Char → Option Int
  | [] => some 0
  | c :: cs =>
    if c = 'e' ∨ c = 'E' then
      let (negative, ds) := takeSign cs
      if ds ≠ [] ∧ ds.all Char.isDigit = true then
        let n : Int := ofDigits 10 ds
        some (if negative then -n else n)
      else none
    else none

/-- A number in the usual notation: digits, a point among or beside them, an exponent; or the names
of the infinities and of no number, in any case. -/
def read? (cs : List Char) : Option Binary64 :=
  let (negative, cs) := takeSign cs
  let word := String.ofList (cs.map Char.toLower)
  if word = "inf" ∨ word = "infinity" then some (.infinite negative)
  else if word = "nan" then some .nan
  else
    let whole := cs.takeWhile Char.isDigit
    let rest := cs.dropWhile Char.isDigit
    let (fraction, rest) := match rest with
      | '.' :: r => (r.takeWhile Char.isDigit, r.dropWhile Char.isDigit)
      | r => ([], r)
    if whole = [] ∧ fraction = [] then none
    else (exponent? rest).map fun e =>
      ofDecimal negative (ofDigits 10 (whole ++ fraction)) (e - fraction.length)

/-! ### Writing -/

/-- The numbers `low` and `high` that bound what reads as `significand * 2 ^ exponent`, and the
number itself, all as quarters of a place over the same denominator. -/
structure Bounds where
  low : Nat
  value : Nat
  high : Nat
  den : Nat
  closed : Bool

/-- The interval of numbers whose nearest number of the format is the given one.  Below a power of
two the places are half as wide; the ends belong to it when the significand is even. -/
def bounds (m : Nat) (e : Int) : Bounds :=
  let below := if m = 1 <<< 52 ∧ -1074 < e then 1 else 2
  let scale := if 0 ≤ e then 1 <<< e.toNat else 1
  let den := if 0 ≤ e then 4 else 4 <<< (-e).toNat
  ⟨(4 * m - below) * scale, 4 * m * scale, (4 * m + 2) * scale, den, m % 2 == 0⟩

/-- Does `n * 10 ^ place` lie in the interval? -/
def Bounds.holds (b : Bounds) (n : Nat) (place : Int) : Bool :=
  let x := if 0 ≤ place then n * tenTo place.toNat * b.den else n * b.den
  let s := if 0 ≤ place then 1 else tenTo (-place).toNat
  if b.closed then b.low * s ≤ x && x ≤ b.high * s else b.low * s < x && x < b.high * s

/-- The multiple of `10 ^ place` nearest to the number among those that lie in the interval; of two
that are equally near, the greater. -/
def Bounds.onGrid? (b : Bounds) (place : Int) : Option Nat :=
  let num := if 0 ≤ place then b.value else b.value * tenTo (-place).toNat
  let den := if 0 ≤ place then b.den * tenTo place.toNat else b.den
  let q := num / den
  let r := num % den
  let (near, far) := if 2 * r < den then (q, q + 1) else (q + 1, q)
  if near ≠ 0 ∧ b.holds near place = true then some near
  else if far ≠ 0 ∧ b.holds far place = true then some far
  else none

/-- The first grid, from coarse to fine, that has a number in the interval. -/
def Bounds.shortest (b : Bounds) : Nat → Int → Nat × Int
  | 0, place => (b.value, place)
  | fuel + 1, place =>
    match b.onGrid? place with
    | some n => (n, place)
    | none => b.shortest fuel (place - 1)

/-- The fewest decimal digits that read back as `m * 2 ^ e`, for positive `m`, as `n * 10 ^ place`.
The search starts above the number and needs at most seventeen digits. -/
def shortestDecimal (m : Nat) (e : Int) : Nat × Int :=
  let top : Int := ((m.log2 : Int) + e) * 30103 / 100000 + 2
  (bounds m e).shortest 25 top

/-- The text of `n * 10 ^ place`, without an exponent. -/
def positional (n : Nat) (place : Int) : List Char :=
  let ds := decimal n
  if 0 ≤ place then ds ++ List.replicate place.toNat '0'
  else
    let k := (-place).toNat
    if k < ds.length then ds.take (ds.length - k) ++ '.' :: ds.drop (ds.length - k)
    else ['0', '.'] ++ List.replicate (k - ds.length) '0' ++ ds

/-- **The text of a number:** the fewest digits that read back as it, and never an exponent. -/
def render : Binary64 → List Char
  | .nan => ['N', 'a', 'N']
  | .infinite negative => (if negative then ['-'] else []) ++ ['i', 'n', 'f']
  | .finite negative m e =>
    (if negative then ['-'] else []) ++
      if m = 0 then ['0'] else positional (shortestDecimal m e).1 (shortestDecimal m e).2

/-! ### Conversion -/

/-- Is the number other than zero?  What is no number is other than zero. -/
def isNonzero : Binary64 → Bool
  | .finite _ m _ => m ≠ 0
  | _ => true

/-- **The nearest whole number from 0 to `max`,** a half rounded up; zero for what is no number. -/
def toNatural (max : Nat) : Binary64 → Nat
  | .nan => 0
  | .infinite negative => if negative then 0 else max
  | .finite negative m e =>
    if negative then 0
    else min max (if 0 ≤ e then m <<< e.toNat else (2 * m + 1 <<< (-e).toNat) >>> ((-e).toNat + 1))

end Binary64

end Switchboard.Text
