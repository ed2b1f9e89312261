import Switchboard.Proofs.Outline.LinksKept
import Switchboard.Proofs.Outline.Operations

/-!
# Channels that hold

Of all the steps outside of a pass, just one lets a channel go: `retain`.  Any other step leaves the
channel its link, unless the transport changes (`holds_singleStep`).
-/

namespace Switchboard.Exchange

open Net Settings Relation Directory Outline

variable {ν : Type} [Network ν] {x y : Exchange ν}

/-- Whoever is not kept is let go. -/
theorem not_mem_channels_retain {kept : List Channel} {c : Channel}
    (hc : kept.any (·.id == c.id) = false) : c ∉ (x.retain kept).directory.channels := by
  intro hmem
  obtain ⟨e, he, rfl⟩ := List.mem_map.mp hmem
  have hkept : e ∈ (x.outline.retain fun c => kept.any (·.id == c.id)).entries :=
    congrArg Outline.entries (outline_retain kept x) ▸ he
  exact nomatch hc.symm.trans (List.mem_filter.mp hkept).2

/-- **A channel holds, whatever step is made,** unless it is let go. -/
theorem holds_singleStep (h : x.outline.Sound) (hstep : SingleStep x y) {e : Entry}
    (he : e ∈ x.directory.entries) : Holds x.outline y.outline e ∨
      ∃ kept : List Channel, y = x.retain kept ∧ kept.any (·.id == e.channel.id) = false := by
  have hsame : ∀ {y : Exchange ν}, y.outline.entries = x.outline.entries →
      Holds x.outline y.outline e := fun heq => .of_mem (heq ▸ he)
  have hcalls : ∀ (c' : Channel) (f : CallBox → CallBox),
      (x.onDirectory (·.modifyCall c' f)).outline.entries = x.outline.entries := fun c' f =>
    congrArg Core.entries (core_modifyCall c' f x.directory)
  cases hstep with
  | answered network => exact .inl (hsame rfl)
  | elapsed ms => exact .inl (hsame rfl)
  | opened ownEnd ho => exact .inl (hsame rfl)
  | adopted p hs hm ht => exact .inl (hsame rfl)
  | moved p ownEnd hs hm ho =>
    obtain ⟨next, -, houtline⟩ := outline_moveListener p ownEnd x
    rw [houtline]
    exact .inl (holds_moved h ho p.transport next he)
  | enrolled s r hv hb => exact .inl (.of_mem (List.mem_append_left _ he))
  | @joined c id ho hc hu hid =>
    obtain ⟨cs, heq⟩ := outline_join (knows_of_mem_channels h hc) id
    exact .inl (.linked h.numbered (entry_mem_of_waits h hc hu) (congrArg Outline.entries heq) he)
  | @connected c remote ownEnd ho hc hu hd hr hn =>
    obtain ⟨cs, heq⟩ := outline_join
      (x := track (Socket.outgoing x.profile.transport ownEnd remote) x)
      (knows_of_mem_channels h hc) x.nextSocket
    exact .inl (.linked h.numbered (entry_mem_of_waits h hc hu) (congrArg Outline.entries heq) he)
  | retained kept =>
    cases hkept : kept.any (·.id == e.channel.id) with
    | true =>
      rw [outline_retain]
      exact .inl (.of_mem (List.mem_filter.mpr ⟨he, hkept⟩))
    | false => exact .inr ⟨kept, rfl, hkept⟩
  | queued data call ho hc ht => exact .inl (hsame rfl)
  | armed id => exact .inl (hsame rfl)
  | rearmed =>
    obtain ⟨_, _, heq⟩ := armPending_eq x
    rw [heq]
    exact .inl (.of_mem he)
  | began c hb => exact .inl (hsame (hcalls c _))
  | collected c g => exact .inl (hsame (hcalls c _))
  | finished c g => exact .inl (hsame (hcalls c _))
  | faulted id =>
    exact .inl (hsame (entries_passMoves (passMoves_of_events (events_reportFault x id))).1)

end Switchboard.Exchange
