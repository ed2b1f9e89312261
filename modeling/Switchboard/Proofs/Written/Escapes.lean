import Switchboard.Proofs.Settings.Overlay
import Switchboard.Protocol.Line
import Mathlib.Algebra.Group.Nat.Even
import Mathlib.Data.List.Induction

/-!
# Written escapes

What is written with escapes is read back (`Escape.read_write`).  Reading takes one character at a
time, or a backslash together with the character after it, so a text may be cut where no such pair is
cut: after a *whole* text, one that does not end inside an escape (`Escape.Whole`).  A text is whole
exactly when an even number of backslashes stands at its end (`Escape.whole_iff_even`), and exactly
when reading may be cut after it, whatever comes next (`Escape.whole_iff_read_append`).
-/

namespace Switchboard

open Settings

namespace Escape

/-! ### Reading one piece -/

/-- What an escape with a character after the backslash is read as. -/
def readEscape (c : Char) : List Char :=
  match meaning? c with
  | some e => [e]
  | none => ['\\', c]

theorem read_cons {c : Char} (h : c ≠ '\\') (cs : List Char) : read (c :: cs) = c :: read cs := by
  cases cs with
  | nil => rfl
  | cons d cs => rw [read, if_neg h]

theorem read_escape (c : Char) (cs : List Char) :
    read ('\\' :: c :: cs) = readEscape c ++ read cs := by
  rw [read, if_pos rfl, readEscape]
  cases meaning? c <;> rfl

theorem meaning?_eq_none {c : Char} (hr : c ≠ 'r') (hn : c ≠ 'n') (ht : c ≠ 't') (hb : c ≠ '\\') :
    meaning? c = none := by
  rw [meaning?, if_neg hr, if_neg hn, if_neg ht, if_neg hb]

/-! ### Whole texts -/

/-- **A text that does not end inside an escape:** it has characters other than the backslash, and
backslashes with one character after each. -/
inductive Whole : List Char → Prop where
  | nil : Whole []
  | plain {c : Char} {cs : List Char} (h : c ≠ '\\') : Whole cs → Whole (c :: cs)
  | escape (c : Char) {cs : List Char} : Whole cs → Whole ('\\' :: c :: cs)

/-- **Reading may be cut after a whole text.** -/
theorem read_append {a : List Char} (h : Whole a) (b : List Char) :
    read (a ++ b) = read a ++ read b := by
  induction h with
  | nil => rfl
  | plain hne _ ih => rw [List.cons_append, read_cons hne, read_cons hne, ih, List.cons_append]
  | escape c _ ih =>
    rw [List.cons_append, List.cons_append, read_escape, read_escape, ih, List.append_assoc]

theorem Whole.append {a b : List Char} (ha : Whole a) (hb : Whole b) : Whole (a ++ b) := by
  induction ha with
  | nil => exact hb
  | plain hne _ ih => exact .plain hne ih
  | escape c _ ih => exact .escape c ih

/-- A text that is not whole is a whole one and a backslash. -/
theorem whole_or_eq_append : ∀ a : List Char, Whole a ∨ ∃ a', Whole a' ∧ a = a' ++ ['\\']
  | [] => .inl .nil
  | [c] => by
    by_cases hc : c = '\\'
    · exact .inr ⟨[], .nil, by rw [hc]; rfl⟩
    · exact .inl (.plain hc .nil)
  | c :: d :: cs => by
    by_cases hc : c = '\\'
    · subst hc
      rcases whole_or_eq_append cs with h | ⟨a', h, rfl⟩
      · exact .inl (.escape d h)
      · exact .inr ⟨'\\' :: d :: a', .escape d h, rfl⟩
    · rcases whole_or_eq_append (d :: cs) with h | ⟨a', h, ha⟩
      · exact .inl (.plain hc h)
      · exact .inr ⟨c :: a', .plain hc h, by rw [ha]; rfl⟩

/-- After a backslash that opens an escape reading may not be cut: the letter of a line feed would
stand for itself. -/
theorem read_append_backslash_ne {a : List Char} (h : Whole a) :
    read (a ++ ['\\'] ++ ['n']) ≠ read (a ++ ['\\']) ++ read ['n'] := by
  rw [List.append_assoc, read_append h, read_append h, List.append_assoc]
  exact fun hcut => nomatch List.append_cancel_left hcut

theorem not_whole_append_backslash {a : List Char} (h : Whole a) : ¬Whole (a ++ ['\\']) :=
  fun hwhole => read_append_backslash_ne h (read_append hwhole _)

/-- **A text is whole exactly when reading may be cut after it,** whatever comes next. -/
theorem whole_iff_read_append (a : List Char) :
    Whole a ↔ ∀ b, read (a ++ b) = read a ++ read b := by
  refine ⟨read_append, fun h => ?_⟩
  rcases whole_or_eq_append a with ha | ⟨a', ha', rfl⟩
  · exact ha
  · exact absurd (h ['n']) (read_append_backslash_ne ha')

/-- The backslashes at the end of a text. -/
def trailing (a : List Char) : Nat :=
  (a.reverse.takeWhile (· == '\\')).length

theorem trailing_concat (a : List Char) (c : Char) :
    trailing (a ++ [c]) = if c = '\\' then trailing a + 1 else 0 := by
  rw [trailing, List.reverse_append, List.reverse_singleton, List.singleton_append,
    List.takeWhile_cons]
  by_cases hc : c = '\\'
  · rw [if_pos hc, if_pos (beq_iff_eq.mpr hc)]
    rfl
  · rw [if_neg hc, if_neg (mt beq_iff_eq.mp hc)]
    rfl

/-- **A text is whole exactly when an even number of backslashes ends it.** -/
theorem whole_iff_even (a : List Char) : Whole a ↔ Even (trailing a) := by
  induction a using List.reverseRecOn with
  | nil => exact iff_of_true .nil Even.zero
  | append_singleton a c ih =>
    rw [trailing_concat]
    rcases whole_or_eq_append a with ha | ⟨a', ha', rfl⟩
    · split_ifs with hc
      · subst hc
        rw [Nat.even_add_one, ← ih]
        exact iff_of_false (not_whole_append_backslash ha) (not_not_intro ha)
      · exact iff_of_true (ha.append (.plain hc .nil)) Even.zero
    · -- The character completes the escape, whatever it is.
      rw [List.append_assoc]
      refine iff_of_true (ha'.append (.escape c .nil)) ?_
      split_ifs
      · rw [Nat.even_add_one, ← ih]
        exact not_whole_append_backslash ha'
      · exact Even.zero

/-! ### Writing -/

/-- One written character is whole, and it is read back. -/
theorem whole_writeChar (c : Char) : Whole (writeChar c) ∧ read (writeChar c) = [c] := by
  unfold writeChar
  split_ifs with hb hr hn ht
  · exact ⟨.escape _ .nil, by rw [hb]; rfl⟩
  · exact ⟨.escape _ .nil, by rw [hr]; rfl⟩
  · exact ⟨.escape _ .nil, by rw [hn]; rfl⟩
  · exact ⟨.escape _ .nil, by rw [ht]; rfl⟩
  · exact ⟨.plain hb .nil, rfl⟩

/-- **What is written is read back.** -/
theorem read_write (cs : List Char) : read (write cs) = cs := by
  induction cs with
  | nil => rfl
  | cons c cs ih =>
    obtain ⟨hwhole, hread⟩ := whole_writeChar c
    have hwrite : write (c :: cs) = writeChar c ++ write cs := rfl
    rw [hwrite, read_append hwhole, hread, ih, List.singleton_append]

/-- Without a backslash a text stands for itself. -/
theorem read_eq_self {cs : List Char} (h : '\\' ∉ cs) : read cs = cs := by
  induction cs with
  | nil => rfl
  | cons c cs ih =>
    rw [List.mem_cons, not_or] at h
    rw [read_cons (Ne.symm h.1), ih h.2]

end Escape

/-! ### Settings with escapes -/

theorem Settings.Configuration.set_text {key : String} (hkey : key ∈ Profile.knownKeys) (s : String)
    (es : Table) :
    Configuration.set key (.text s) ⟨.table es⟩ = .ok ⟨.table (Table.put key (.text s) es)⟩ := by
  rw [Configuration.set, Path.read?_of_mem_knownKeys key hkey]
  simp [Value.update, Value.merge, Value.entries]

/-- The configuration of an opening and a closing text. -/
def LineProtocol.framedBy (opening closing : String) : Configuration :=
  ⟨.table [("preamble", .text opening), ("postamble", .text closing)]⟩

theorem LineProtocol.build_framedBy (opening closing : String) :
    Configuration.build [("preamble", .text opening), ("postamble", .text closing)] [] =
      .ok (framedBy opening closing) := by
  rw [Configuration.build, Configuration.setAll, Configuration.set_text (by decide)]
  dsimp only [bind, Except.bind, Configuration.setAll]
  rw [Configuration.set_text (by decide)]
  rfl

theorem LineProtocol.read_framedBy (opening closing : String) :
    LineProtocol.read (framedBy opening closing) "" =
      .ok { opening := Escape.read opening.toList, closing := Escape.read closing.toList } :=
  rfl

namespace Escape

/-- **Reading undoes writing,** so any opening and any closing text can be configured.  A text without
backslashes stands for itself; reading may be cut after a text exactly where the text does not end
inside an escape, that is where an even number of backslashes ends it; and there an unknown escape is
kept, as is a single backslash at the end. -/
theorem read_faithful :
    (∀ cs, read (write cs) = cs) ∧
      (∀ opening closing, ∃ c,
        Configuration.build [("preamble", .text (String.ofList (write opening))),
            ("postamble", .text (String.ofList (write closing)))] [] = .ok c ∧
          LineProtocol.read c "" = .ok { opening, closing }) ∧
      (∀ cs, '\\' ∉ cs → read cs = cs) ∧
      (∀ a, Whole a ↔ Even (trailing a)) ∧
      (∀ a, Whole a ↔ ∀ b, read (a ++ b) = read a ++ read b) ∧
      (∀ a b c, Whole a → c ∉ ['r', 'n', 't', '\\'] →
        read (a ++ '\\' :: c :: b) = read a ++ '\\' :: c :: read b) ∧
      ∀ a, Whole a → read (a ++ ['\\']) = read a ++ ['\\'] := by
  refine ⟨read_write, fun opening closing => ?_, fun cs => read_eq_self, whole_iff_even,
    whole_iff_read_append, fun a b c ha hc => ?_, fun a ha => read_append ha _⟩
  · refine ⟨_, LineProtocol.build_framedBy _ _, ?_⟩
    rw [LineProtocol.read_framedBy, String.toList_ofList, String.toList_ofList, read_write,
      read_write]
  · simp only [List.mem_cons, List.not_mem_nil, or_false, not_or] at hc
    obtain ⟨hr, hn, ht, hb⟩ := hc
    rw [read_append ha, read_escape, readEscape, meaning?_eq_none hr hn ht hb]
    rfl

/-- Two backslashes and a line feed, written and read; and an unknown escape after an escaped
backslash, where a third backslash would have been cut off from its letter. -/
theorem read_faithful_backslashes :
    read (write ['\\', '\\', '\n']) = ['\\', '\\', '\n'] ∧
      read ['a', '\\', '\\', '\\', 'q', 'b'] = ['a', '\\', '\\', 'q', 'b'] := by
  obtain ⟨hwrite, -, -, heven, -, hunknown, -⟩ := read_faithful
  have hwhole : Whole ['a', '\\', '\\'] := (heven _).mpr (by decide)
  exact ⟨hwrite _, hunknown ['a', '\\', '\\'] ['b'] 'q' hwhole (by decide)⟩

end Escape

end Switchboard
