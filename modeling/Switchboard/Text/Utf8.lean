/-!
# Texts as bytes

The UTF-8 form of a text, and the reading of any bytes as a text.  Reading never fails: each
longest piece that could have begun a character, but does not go on to one, stands for one
replacement character.
-/

namespace Switchboard

/-- A run of octets, as it travels over a socket. -/
abbrev Bytes := List UInt8

namespace Text

/-- The UTF-8 form of a text. -/
def encode (cs : List Char) : Bytes :=
  cs.flatMap String.utf8EncodeChar

/-- The character that stands for bytes which are no text. -/
def replacement : Char :=
  Char.ofNat 0xFFFD

/-- What a first byte promises: the bits of the character that it carries itself, the least and the
greatest second byte, and how many bytes follow. -/
structure Lead where
  bits : Nat
  low : Nat
  high : Nat
  count : Nat

/-- The promise of the first byte of a character that takes several bytes.  The bounds of the second
byte leave out over-long forms, surrogates and what lies beyond the last code point. -/
def lead? (b : Nat) : Option Lead :=
  if 0xC2 ≤ b ∧ b ≤ 0xDF then some ⟨b - 0xC0, 0x80, 0xBF, 1⟩
  else if b = 0xE0 then some ⟨0, 0xA0, 0xBF, 2⟩
  else if b = 0xED then some ⟨0xD, 0x80, 0x9F, 2⟩
  else if 0xE1 ≤ b ∧ b ≤ 0xEF then some ⟨b - 0xE0, 0x80, 0xBF, 2⟩
  else if b = 0xF0 then some ⟨0, 0x90, 0xBF, 3⟩
  else if 0xF1 ≤ b ∧ b ≤ 0xF3 then some ⟨b - 0xF0, 0x80, 0xBF, 3⟩
  else if b = 0xF4 then some ⟨4, 0x80, 0x8F, 3⟩
  else none

/-- Reads the bytes after the first: the character, or the replacement where the bytes break off,
and what is left. -/
def follow (bits low high : Nat) : Nat → Bytes → Char × Bytes
  | 0, rest => (Char.ofNat bits, rest)
  | _ + 1, [] => (replacement, [])
  | count + 1, b :: rest =>
    if low ≤ b.toNat ∧ b.toNat ≤ high then
      follow (bits * 64 + b.toNat % 64) 0x80 0xBF count rest
    else (replacement, b :: rest)

theorem length_follow_le (bits low high count : Nat) (bs : Bytes) :
    (follow bits low high count bs).2.length ≤ bs.length := by
  induction count generalizing bits low high bs with
  | zero => simp [follow]
  | succ count ih =>
    cases bs with
    | nil => simp [follow]
    | cons b rest =>
      simp only [follow]
      split
      · exact Nat.le_trans (ih _ _ _ _) (Nat.le_succ _)
      · exact Nat.le_refl _

/-- **Any bytes as a text.** -/
def decode : Bytes → List Char
  | [] => []
  | b :: rest =>
    if b.toNat < 0x80 then Char.ofNat b.toNat :: decode rest
    else
      match lead? b.toNat with
      | none => replacement :: decode rest
      | some l =>
        (follow l.bits l.low l.high l.count rest).1 ::
          decode (follow l.bits l.low l.high l.count rest).2
termination_by bs => bs.length
decreasing_by
  all_goals simp only [List.length_cons]
  · omega
  · omega
  · exact Nat.lt_succ_of_le (length_follow_le ..)

end Text

end Switchboard
