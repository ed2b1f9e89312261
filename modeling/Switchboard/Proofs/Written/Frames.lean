import Switchboard.Proofs.Narrow
import Switchboard.Proofs.Written.Utf8
import Switchboard.Protocol.Line
import Mathlib.Data.List.TakeWhile

/-!
# Written frames

A frame is taken apart into what it was made of: the text without the line ends after it
(`LineProtocol.unframe_frameChars`).  Each part of the frame is dropped only where it stands at its
own end of the text, and there the frame has put it, so nothing inside the text is taken for it, be
the opening, the closing and the text alike, empty, or full of line ends.

So a device that sends a frame back announces the text in it: on a channel for every command, and on
the channel of the command that the text is (`LineProtocol.parse_frame`).
-/

namespace Switchboard

open Net

namespace LineProtocol

/-! ### Taking a frame apart -/

theorem dropFront_append (front cs : List Char) : dropFront front (front ++ cs) = cs := by
  rw [dropFront, if_pos (List.isPrefixOf_iff_prefix.mpr (List.prefix_append front cs)),
    List.drop_left]

theorem dropBack_append (cs back : List Char) : dropBack back (cs ++ back) = cs := by
  rw [dropBack, if_pos (List.isSuffixOf_iff_suffix.mpr (List.suffix_append cs back)),
    List.length_append, Nat.add_sub_cancel, List.take_left]

/-- **What is left of a frame is its text,** without the line ends after it. -/
theorem unframe_frameChars (p : LineProtocol) (cs : List Char) :
    p.unframe (p.frameChars cs) = trimLineEnds cs := by
  rw [unframe, frameChars, List.append_assoc, dropFront_append, dropBack_append]

theorem textOf_frame (p : LineProtocol) (t : String) :
    p.textOf (p.frame t) = String.ofList (trimLineEnds t.toList) := by
  rw [textOf, frame, Text.decode_encode, unframe_frameChars]

/-! ### Line ends -/

theorem isLineEnd_eq_true {c : Char} : isLineEnd c = true ↔ c = '\r' ∨ c = '\n' := by
  simp [isLineEnd]

/-- What is trimmed off is line ends. -/
theorem exists_eq_trimLineEnds_append (cs : List Char) :
    ∃ ends, cs = trimLineEnds cs ++ ends ∧ ∀ c ∈ ends, c = '\r' ∨ c = '\n' := by
  refine ⟨(cs.reverse.takeWhile isLineEnd).reverse, ?_, fun c hc => ?_⟩
  · rw [trimLineEnds, ← List.reverse_append, List.takeWhile_append_dropWhile, List.reverse_reverse]
  · exact isLineEnd_eq_true.mp (List.mem_takeWhile_imp (List.mem_reverse.mp hc))

/-- What is left ends in no line end. -/
theorem ne_of_getLast?_trimLineEnds {cs : List Char} {c : Char}
    (h : (trimLineEnds cs).getLast? = some c) : c ≠ '\r' ∧ c ≠ '\n' := by
  rw [trimLineEnds, List.getLast?_reverse] at h
  have hhead := List.head?_dropWhile_not isLineEnd cs.reverse
  rw [h] at hhead
  exact not_or.mp (mt isLineEnd_eq_true.mpr (Bool.eq_false_iff.mp hhead))

theorem trimLineEnds_eq_self {cs : List Char}
    (h : ∀ c, cs.getLast? = some c → c ≠ '\r' ∧ c ≠ '\n') : trimLineEnds cs = cs := by
  obtain ⟨ends, hcs, hends⟩ := exists_eq_trimLineEnds_append cs
  cases hlast : ends.getLast? with
  | none => rw [List.getLast?_eq_none_iff.mp hlast, List.append_nil] at hcs; exact hcs.symm
  | some c =>
    have hget : cs.getLast? = some c := by rw [hcs, List.getLast?_append, hlast]; rfl
    have hc := hends c (List.mem_of_getLast? hlast)
    exact absurd hc (not_or.mpr (h c hget))

/-! ### Frames that come back -/

variable {ν : Type} [Network ν]

theorem runOut_publish {α : Type} (a : α) (updates : List Update) (x : Exchange ν) :
    (publish a updates).runOut x = (a, updates, x) := by
  induction updates with
  | nil => rfl
  | cons u updates ih =>
    change (let (a, es, y) := (publish a updates).runOut x; (a, u :: es, y)) = _
    rw [ih]

theorem runOut_parse_frame (p : LineProtocol) (t : String) (c : Channel) (x : Exchange ν) :
    (p.toProtocol.parse c (p.frame t)).runOut x =
      ((), if c.subject.command = anyCommand then [⟨c.item, String.ofList (trimLineEnds t.toList)⟩]
        else if c.subject.command = String.ofList (trimLineEnds t.toList) then
          [⟨c.item, c.subject.command⟩]
        else [], x) := by
  change (publish () (p.published c (p.frame t))).runOut x = _
  rw [runOut_publish, published, textOf_frame]

/-- **A frame that comes back announces its text.**  A frame is the text between the opening and the
closing.  Whatever these are, what is parsed is the text in the frame without the line ends after it: a
channel for every command announces it, and any other channel announces its own command where the
text is that command.  So a command that ends in no line end is announced as it is, on every channel
that takes it. -/
theorem parse_frame (p : LineProtocol) (t : String) :
    Text.decode (p.frame t) = p.opening ++ t.toList ++ p.closing ∧
      (∃ text ends : List Char, t.toList = text ++ ends ∧
        (∀ c ∈ ends, c = '\r' ∨ c = '\n') ∧
        (∀ c, text.getLast? = some c → c ≠ '\r' ∧ c ≠ '\n') ∧
        ∀ (c : Channel) (x : Exchange ν), (p.toProtocol.parse c (p.frame t)).runOut x =
          ((), if c.subject.command = anyCommand then [⟨c.item, String.ofList text⟩]
            else if c.subject.command = String.ofList text then [⟨c.item, c.subject.command⟩]
            else [], x)) ∧
      ((∀ c, t.toList.getLast? = some c → c ≠ '\r' ∧ c ≠ '\n') →
        ∀ (c : Channel) (x : Exchange ν), c.subject.accepts t = true →
          (p.toProtocol.parse c (p.frame t)).runOut x = ((), [⟨c.item, t⟩], x)) := by
  obtain ⟨ends, htext, hends⟩ := exists_eq_trimLineEnds_append t.toList
  refine ⟨Text.decode_encode _,
    ⟨_, ends, htext, hends, fun c => ne_of_getLast?_trimLineEnds, runOut_parse_frame p t⟩,
    fun hlast c x haccepts => ?_⟩
  -- Nothing is trimmed off, and one of the two conditions holds because the channel takes the text.
  rw [runOut_parse_frame, trimLineEnds_eq_self hlast, String.ofList_toList]
  rw [Subject.accepts, Bool.or_eq_true, beq_iff_eq, beq_iff_eq] at haccepts
  split_ifs with hany hown
  · rfl
  · rw [hown]
  · exact absurd haccepts (not_or.mpr ⟨hany, hown⟩)

/-- An opening and a closing text that the command begins and ends with. -/
theorem parse_frame_overlapping :
    (LineProtocol.toProtocol { opening := ['a'], closing := ['b', 'a'] } |>.parse
        ⟨3, 1, ⟨"lamp", "aba", .inbound⟩, .mask none none⟩
        (LineProtocol.frame { opening := ['a'], closing := ['b', 'a'] } "aba")).runOut
      Exchange.lab = ((), [⟨"lamp", "aba"⟩], Exchange.lab) := by
  refine (parse_frame _ "aba").2.2 (fun c hc => ?_) _ _ (by decide)
  obtain rfl : 'a' = c := Option.some.inj hc
  decide

end LineProtocol

end Switchboard
