import Switchboard.Text.Blank
import Switchboard.Text.Number
import Mathlib.Tactic.SplitIfs

/-!
# Written numbers

A number that is written in a radix of at most sixteen is read back (`digits?_toDigits`), also where
a sign is allowed (`natural?_decimal`).  Only digits are read (`isDigitOf_of_digits?`), and what is
written are digits (`isDigitOf_of_mem_toDigits`), so the characters that stand between numbers are
told from them (`Delimiter`).
-/

namespace Switchboard.Text

/-! ### Digits -/

/-- The character of a digit has the value of the digit. -/
theorem digitValue?_digitChar {n : Nat} (h : n < 16) : digitValue? n.digitChar = some n := by
  have hall : ∀ m < 16, digitValue? m.digitChar = some m := by decide
  exact hall n h

/-- A digit of a smaller radix is one of a larger. -/
theorem isDigitOf_mono {radix radix' : Nat} (h : radix ≤ radix') {c : Char}
    (hc : isDigitOf radix c = true) : isDigitOf radix' c = true := by
  unfold isDigitOf at hc ⊢
  split at hc
  · simp only [decide_eq_true_eq] at hc ⊢
    omega
  · exact hc

/-- One more digit at the end counts once, and what stands before it counts as often as the radix
says. -/
theorem ofDigits_concat (radix : Nat) (cs : List Char) (c : Char) :
    ofDigits radix (cs ++ [c]) = ofDigits radix cs * radix + (digitValue? c).getD 0 := by
  simp [ofDigits]

section

variable {radix : Nat} (hr : 1 < radix) (hle : radix ≤ 16)

include hr hle

/-- What is written in a radix are digits of it. -/
theorem isDigitOf_of_mem_toDigits {n : Nat} {c : Char} (hc : c ∈ Nat.toDigits radix n) :
    isDigitOf radix c = true := by
  have hdigit : ∀ d < radix, isDigitOf radix d.digitChar = true := by
    intro d hd
    simp [isDigitOf, digitValue?_digitChar (show d < 16 by omega), hd]
  induction n using Nat.strongRecOn with
  | _ n ih =>
    rw [Nat.toDigits_eq_if hr] at hc
    split_ifs at hc with hn
    · rw [List.mem_singleton.mp hc]
      exact hdigit n hn
    · rcases List.mem_append.mp hc with hfront | hlast
      · exact ih (n / radix) (Nat.div_lt_self (by omega) hr) hfront
      · rw [List.mem_singleton.mp hlast]
        exact hdigit _ (Nat.mod_lt n (by omega))

/-- The digits of a number stand for it. -/
theorem ofDigits_toDigits (n : Nat) : ofDigits radix (Nat.toDigits radix n) = n := by
  induction n using Nat.strongRecOn with
  | _ n ih =>
    rw [Nat.toDigits_eq_if hr]
    split_ifs with hn
    · simp [ofDigits, digitValue?_digitChar (show n < 16 by omega)]
    · have hmod : n % radix < radix := Nat.mod_lt n (by omega)
      rw [ofDigits_concat, ih (n / radix) (Nat.div_lt_self (by omega) hr),
        digitValue?_digitChar (by omega), Option.getD_some, Nat.mul_comm]
      exact Nat.div_add_mod n radix

/-- **A number that is written is read back,** unless it is above the bound. -/
theorem digits?_toDigits {n max : Nat} (h : n ≤ max) :
    digits? radix max (Nat.toDigits radix n) = some n := by
  have hall : (Nat.toDigits radix n).all (isDigitOf radix) = true :=
    List.all_eq_true.mpr fun c hc => isDigitOf_of_mem_toDigits hr hle hc
  have hvalue := ofDigits_toDigits hr hle n
  unfold digits?
  rw [if_pos ⟨Nat.toDigits_ne_nil, hall, hvalue.symm ▸ h⟩, hvalue]

end

/-- Only digits are read. -/
theorem isDigitOf_of_digits? {radix max n : Nat} {cs : List Char}
    (h : digits? radix max cs = some n) {c : Char} (hc : c ∈ cs) : isDigitOf radix c = true := by
  unfold digits? at h
  split_ifs at h with hcs
  exact List.all_eq_true.mp hcs.2.1 c hc

/-- A number other than zero has no zero at the front. -/
theorem head?_toDigits_ne {radix n : Nat} (hr : 1 < radix) (hn : 0 < n) :
    (Nat.toDigits radix n).head? ≠ some '0' := by
  induction n using Nat.strongRecOn with
  | _ n ih =>
    rw [Nat.toDigits_eq_if hr]
    split_ifs with hlt
    · simpa using Nat.pos_iff_ne_zero.mp hn
    · have hdiv : 0 < n / radix := Nat.div_pos (Nat.not_lt.mp hlt) (by omega)
      have hfront := ih (n / radix) (Nat.div_lt_self hn hr) hdiv
      obtain ⟨c, cs, hcs⟩ :=
        List.exists_cons_of_ne_nil (Nat.toDigits_ne_nil (n := n / radix) (b := radix))
      rw [hcs] at hfront ⊢
      exact hfront

/-! ### Characters between numbers -/

/-- A character that stands between numbers and around them, and is no digit. -/
def Delimiter (c : Char) : Prop :=
  c ∈ ['.', ':', '%', '[', ']', '*', '+']

instance : DecidablePred Delimiter := fun c =>
  inferInstanceAs (Decidable (c ∈ ['.', ':', '%', '[', ']', '*', '+']))

theorem not_isDigitOf_of_delimiter {c : Char} (hc : Delimiter c) : isDigitOf 16 c = false := by
  have hall : ['.', ':', '%', '[', ']', '*', '+'].all (fun d => !isDigitOf 16 d) = true := by decide
  simpa using List.all_eq_true.mp hall c hc

/-- No digit is a delimiter. -/
theorem ne_of_isDigitOf {c d : Char} (hc : isDigitOf 16 c = true) (hd : Delimiter d) : c ≠ d := by
  rintro rfl
  exact Bool.false_ne_true ((not_isDigitOf_of_delimiter hd).symm.trans hc)

/-- No delimiter stands in a written number. -/
theorem not_mem_toDigits {radix n : Nat} (hr : 1 < radix) (hle : radix ≤ 16) {d : Char}
    (hd : Delimiter d) : d ∉ Nat.toDigits radix n := fun h =>
  ne_of_isDigitOf (isDigitOf_mono hle (isDigitOf_of_mem_toDigits hr hle h)) hd rfl

/-- Digits are visible. -/
theorem not_isBlank_of_isDigitOf {c : Char} (hc : isDigitOf 16 c = true) : isBlank c = false := by
  unfold isDigitOf digitValue? at hc
  unfold isBlank
  dsimp only at hc ⊢
  split_ifs at hc <;> simp_all <;> omega

/-! ### Decimal numbers -/

theorem isDigitOf_of_mem_decimal {n : Nat} {c : Char} (hc : c ∈ decimal n) :
    isDigitOf 10 c = true :=
  isDigitOf_of_mem_toDigits (by decide) (by decide) hc

theorem digits?_decimal {n max : Nat} (h : n ≤ max) : digits? 10 max (decimal n) = some n :=
  digits?_toDigits (by decide) (by decide) h

/-- **A decimal number is read back where a sign is allowed.** -/
theorem natural?_decimal {n max : Nat} (h : n ≤ max) : natural? max (decimal n) = some n := by
  have hplus : '+' ∉ decimal n := not_mem_toDigits (by decide) (by decide) (by decide)
  have hread := digits?_decimal h
  generalize decimal n = cs at hplus hread
  unfold natural?
  split
  · exact absurd List.mem_cons_self hplus
  · exact hread

/-! ### Blanks -/

/-- A text without blanks stays as it is. -/
theorem trim_eq_self {cs : List Char} (h : ∀ c ∈ cs, isBlank c = false) : trim cs = cs := by
  have hdrop : ∀ ds : List Char, (∀ c ∈ ds, isBlank c = false) → ds.dropWhile isBlank = ds := by
    intro ds hds
    cases ds with
    | nil => rfl
    | cons d ds => rw [List.dropWhile_cons_of_neg (by simp [hds d List.mem_cons_self])]
  unfold trim trimEnd
  rw [hdrop cs h, hdrop cs.reverse fun c hc => h c (List.mem_reverse.mp hc), List.reverse_reverse]

end Switchboard.Text
