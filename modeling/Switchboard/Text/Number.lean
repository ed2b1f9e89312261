/-!
# Whole numbers in texts

Digits of a radix, the number a run of digits stands for, and the decimal text of a number.  A
number that is read is always bounded: a text that stands for more than the bound is refused.
-/

namespace Switchboard.Text

/-- The value of a digit; letters of either case follow the ten decimal digits. -/
def digitValue? (c : Char) : Option Nat :=
  let n := c.toNat
  if 48 ≤ n ∧ n ≤ 57 then some (n - 48)
  else if 97 ≤ n ∧ n ≤ 122 then some (n - 87)
  else if 65 ≤ n ∧ n ≤ 90 then some (n - 55)
  else none

/-- Is the character a digit of `radix`? -/
def isDigitOf (radix : Nat) (c : Char) : Bool :=
  match digitValue? c with
  | some d => d < radix
  | none => false

/-- The number that a list of digits stands for, the most significant digit first. -/
def ofDigits (radix : Nat) (cs : List Char) : Nat :=
  cs.foldl (fun n c => n * radix + (digitValue? c).getD 0) 0

/-- **A bounded number written with digits only.**  Leading zeros are allowed; no digit at all, a
foreign character or a number above `max` is refused. -/
def digits? (radix max : Nat) (cs : List Char) : Option Nat :=
  if cs ≠ [] ∧ cs.all (isDigitOf radix) = true ∧ ofDigits radix cs ≤ max then
    some (ofDigits radix cs)
  else none

/-- A bounded decimal number, which may carry one plus sign. -/
def natural? (max : Nat) : List Char → Option Nat
  | '+' :: cs => digits? 10 max cs
  | cs => digits? 10 max cs

/-- A power of ten. -/
def tenTo (n : Nat) : Nat :=
  Nat.pow 10 n

/-- The decimal text of a number. -/
def decimal (n : Nat) : List Char :=
  Nat.toDigits 10 n

/-- The decimal text of an integer. -/
def signedDecimal : Int → List Char
  | .ofNat n => decimal n
  | .negSucc n => '-' :: decimal (n + 1)

end Switchboard.Text
