import Switchboard.Text.Utf8
import Mathlib.Tactic.IntervalCases

/-!
# Texts and their bytes

Every text is read back from its UTF-8 form (`Text.decode_encode`).

The bits of a character are cut into groups of six from the low end: the first byte carries what is
left at the high end and promises how many bytes follow, and each byte after it carries one group
(`Text.follow_cons`).  The bounds that the first byte sets for the second let every character pass:
the low ones because no shorter form would have done, the high ones because a character is no
surrogate and not beyond the last code point (`Text.lead?_three`, `Text.lead?_four`).
-/

namespace Switchboard.Text

/-! ### First bytes -/

theorem lead?_two {k : Nat} (hlow : 2 ≤ k) (hhigh : k < 32) :
    lead? (k + 0xC0) = some ⟨k, 0x80, 0xBF, 1⟩ := by
  rw [lead?, if_pos (by omega), Nat.add_sub_cancel]

/-- The first of three bytes, and the bounds that it sets for a group of six bits. -/
theorem lead?_three {k m : Nat} (hk : k < 16) (hm : m < 64) (hshort : k = 0 → 32 ≤ m)
    (hsurrogate : k = 13 → m < 32) :
    ∃ low high, lead? (k + 0xE0) = some ⟨k, low, high, 2⟩ ∧ low ≤ m + 0x80 ∧ m + 0x80 ≤ high := by
  interval_cases k <;> exact ⟨_, _, rfl, by omega, by omega⟩

/-- The first of four bytes. -/
theorem lead?_four {k m : Nat} (hk : k < 5) (hm : m < 64) (hshort : k = 0 → 16 ≤ m)
    (hlast : k = 4 → m < 16) :
    ∃ low high, lead? (k + 0xF0) = some ⟨k, low, high, 3⟩ ∧ low ≤ m + 0x80 ∧ m + 0x80 ≤ high := by
  interval_cases k <;> exact ⟨_, _, rfl, by omega, by omega⟩

/-! ### Reading one character -/

theorem decode_lead {b bits low high count : Nat} (hb : 0x80 ≤ b) (hsize : b < 0x100)
    (h : lead? b = some ⟨bits, low, high, count⟩) (bs : Bytes) :
    decode (.ofNat b :: bs) =
      (follow bits low high count bs).1 :: decode (follow bits low high count bs).2 := by
  have hnat : (UInt8.ofNat b).toNat = b := Nat.mod_eq_of_lt hsize
  rw [decode, if_neg (by omega), hnat, h]

/-- **Each byte after the first adds its six bits.** -/
theorem follow_cons {m low high : Nat} (hm : m < 64) (hlow : low ≤ m + 0x80)
    (hhigh : m + 0x80 ≤ high) (bits count : Nat) (bs : Bytes) :
    follow bits low high (count + 1) (.ofNat (m + 0x80) :: bs) =
      follow (bits * 64 + m) 0x80 0xBF count bs := by
  have hnat : (UInt8.ofNat (m + 0x80)).toNat = m + 0x80 := Nat.mod_eq_of_lt (by omega)
  have hbits : (m + 0x80) % 64 = m := by omega
  rw [follow, hnat, if_pos ⟨hlow, hhigh⟩, hbits]

/-- **A character is read back from its bytes,** whatever follows them. -/
theorem decode_utf8EncodeChar (c : Char) (bs : Bytes) :
    decode (String.utf8EncodeChar c ++ bs) = c :: decode bs := by
  have hvalid : c.val.toNat < 0xD800 ∨ 0xDFFF < c.val.toNat ∧ c.val.toNat < 0x110000 := c.valid
  have hchar : ∀ n, n = c.val.toNat → Char.ofNat n = c := fun n hn => hn ▸ Char.ofNat_toNat c
  -- From here on a character is its code point `v`, and the bounds on it choose the form.
  unfold String.utf8EncodeChar
  generalize c.val.toNat = v at hvalid hchar ⊢
  dsimp only
  split_ifs with h1 h2 h3
  · have hnat : (UInt8.ofNat v).toNat = v := Nat.mod_eq_of_lt (by omega)
    rw [List.singleton_append, decode, if_pos (by omega), hnat, hchar v rfl]
  · have hlead : v / 64 % 32 = v / 64 := by omega
    rw [hlead, List.cons_append, List.singleton_append,
      decode_lead (by omega) (by omega) (lead?_two (by omega) (by omega)),
      follow_cons (by omega) (by omega) (by omega), follow, hchar _ (by omega)]
  · have hlead : v / 4096 % 16 = v / 4096 := by omega
    obtain ⟨low, high, hl, hlow, hhigh⟩ :=
      @lead?_three (v / 4096) (v / 64 % 64) (by omega) (by omega) (by omega) (by omega)
    rw [hlead, List.cons_append, List.cons_append, List.singleton_append,
      decode_lead (by omega) (by omega) hl, follow_cons (by omega) hlow hhigh,
      follow_cons (by omega) (by omega) (by omega), follow, hchar _ (by omega)]
  · have hlead : v / 262144 % 8 = v / 262144 := by omega
    obtain ⟨low, high, hl, hlow, hhigh⟩ :=
      @lead?_four (v / 262144) (v / 4096 % 64) (by omega) (by omega) (by omega) (by omega)
    rw [hlead, List.cons_append, List.cons_append, List.cons_append, List.singleton_append,
      decode_lead (by omega) (by omega) hl, follow_cons (by omega) hlow hhigh,
      follow_cons (by omega) (by omega) (by omega), follow_cons (by omega) (by omega) (by omega),
      follow, hchar _ (by omega)]

/-- **Every text is read back from its bytes.** -/
theorem decode_encode (cs : List Char) : decode (encode cs) = cs := by
  induction cs with
  | nil => rw [encode, List.flatMap_nil, decode]
  | cons c cs ih =>
    have hencode : encode (c :: cs) = String.utf8EncodeChar c ++ encode cs := rfl
    rw [hencode, decode_utf8EncodeChar, ih]

end Switchboard.Text
