import Switchboard.Proofs.Calls.Books
import Switchboard.Proofs.Calls.Replies

/-!
# What waits beside a call

While a call is outstanding on a channel, nobody else is admitted to it.  So one would expect that
of all that waits for the channel, nothing is there but the write of the call (`Desk.Alone`).

There may be more (`not_alone`).  A call begins whatever waits: buffers that were queued before it,
and the write of a call whose caller has given up, which is not taken back.

All that waits beside the write of the call was admitted before it (`exists_occupied`).  Once the
write of the call has been sent, nothing is left that was queued before it, and the next buffer for
a caller of the channel is the first since then.
-/

namespace Switchboard.Desk

open Net Settings Exchange

variable {ν : Type} {c : Channel} {g : Nat}

/-- **Only the write of the outstanding call waits** for a channel that has one. -/
def Alone (d : Desk ν) : Prop :=
  ∀ c ∈ d.exchange.directory.channels, ∀ g,
    (d.exchange.directory.call c).pending.generation? = some g →
      ∀ w ∈ d.exchange.outbox.writes, w.channel = c → w.call = some g

/-- **A channel is occupied by a call:** the errand of the call is the latest of the channel, and
what else waits for the channel is of errands that were admitted before.  Where the write of the
call was sent, what is left was queued after it, and nothing came for a caller since. -/
structure Occupied (d : Desk ν) (c : Channel) (g : Nat) (before : List Errand) (e : Errand)
    (after : List Errand) : Prop where
  errands : d.errands = before ++ e :: after
  channel : e.channel = c
  call : e.call = some g
  latest : ∀ e' ∈ after, e'.channel ≠ c
  waiting : ∀ w ∈ d.exchange.outbox.writes, w.channel = c →
    w.call = some g ∧ e.Wrote w ∨ w.call ≠ some g ∧ ∃ e' ∈ before, e'.Wrote w
  sent : (d.exchange.directory.call c).pending = .awaiting g → ∃ t, e.progress = .queued t ∧
    ∀ w ∈ d.exchange.outbox.writes, w.channel = c → t < w.ticket
  next : (d.exchange.directory.call c).pending = .awaiting g → ∃ dep since earlier,
    d.exchange.journal = since ++ Departure.event dep :: earlier ∧ dep.Completes c g ∧
      ∀ t ∈ since, t.answered? ≠ some c

/-! ### A call that is not alone -/

/-- The desk of a new lobby. -/
def counter : Desk Narrow :=
  ⟨lobby .datagram, []⟩

/-- A buffer is queued for the channel, and then a call begins. -/
def preceded : List (Act Narrow) := [
  .operate (.bind hatch.subject hatch.remote), .operate .openUp, .check hatch [1], .queue 0,
  .start hatch [2], .queue 1]

/-- The caller gives up before the write was sent, and another call begins. -/
def abandoned : List (Act Narrow) := [
  .operate (.bind hatch.subject hatch.remote), .operate .openUp, .start hatch [1], .queue 0,
  .leave 0, .start hatch [2], .queue 1]

/-- What waits for the channel while its call is outstanding. -/
theorem waiting_counter :
    ((counter.run preceded).exchange.directory.channels = [hatch] ∧
      ((counter.run preceded).exchange.directory.call hatch).pending = .queued 1 ∧
      (counter.run preceded).exchange.outbox.writes =
        [⟨0, hatch, [1], 0, none⟩, ⟨1, hatch, [2], 0, some 1⟩]) ∧
    (counter.run abandoned).exchange.directory.channels = [hatch] ∧
      ((counter.run abandoned).exchange.directory.call hatch).pending = .queued 2 ∧
      (counter.run abandoned).exchange.outbox.writes =
        [⟨0, hatch, [1], 0, some 1⟩, ⟨1, hatch, [2], 0, some 2⟩] := by
  decide +kernel

/-- **A call may not be alone:** a buffer that was queued before it still waits, or the write of a
call whose caller has given up. -/
theorem not_alone :
    create "lobby" { transport := .datagram } ({} : Narrow) = .ok counter.exchange ∧
      ¬ (counter.run preceded).Alone ∧ ¬ (counter.run abandoned).Alone := by
  obtain ⟨⟨hchannels, hpending, hwrites⟩, hchannels', hpending', hwrites'⟩ := waiting_counter
  refine ⟨rfl, fun h => ?_, fun h => ?_⟩
  · have hcall := h hatch (by simp [hchannels]) 1 (by rw [hpending]; rfl) ⟨0, hatch, [1], 0, none⟩
      (by simp [hwrites]) rfl
    exact nomatch hcall
  · have hcall := h hatch (by simp [hchannels']) 2 (by rw [hpending']; rfl)
      ⟨0, hatch, [1], 0, some 1⟩ (by simp [hwrites']) rfl
    exact absurd (Option.some.inj hcall) (by decide)

/-! ### Runs -/

variable [Network ν]

/-- **What waits beside a call was admitted before it,** in whatever way the writes are interleaved.
Nobody is admitted to its channel while it is outstanding.  Once its write was sent, nothing waits
that was queued before it, and the next buffer for a caller of the channel is the first since. -/
theorem exists_occupied {name : String} {profile : Profile} {network : ν} {x : Exchange ν}
    (hx : create name profile network = .ok x) (acts : List (Act ν))
    (hc : c ∈ (run ⟨x, []⟩ acts).exchange.directory.channels)
    (hg : ((run ⟨x, []⟩ acts).exchange.directory.call c).pending.generation? = some g) :
    ∃ before e after, (run ⟨x, []⟩ acts).Occupied c g before e after := by
  have hbooks := orderly_run hx acts
  have hunder := exists_underway (g := g) hx (operations ⟨x, []⟩ acts) (c := c)
  rw [← exchange_run ⟨x, []⟩ acts] at hunder
  generalize run ⟨x, []⟩ acts = d at hbooks hunder hc hg ⊢
  obtain ⟨j, e, hl⟩ := hbooks.leads c hc g hg
  refine ⟨d.errands.take j, e, d.errands.drop (j + 1), eq_take_cons_drop hl.errand, hl.channel,
    hl.call, fun e' he' hc' => ?_, fun w hw hwc => ?_, hl.sent, fun ha => ?_⟩
  · -- An errand of the channel does not come after the latest one.
    obtain ⟨i, hi⟩ := List.mem_iff_getElem?.mp he'
    rw [List.getElem?_drop] at hi
    have hle := hl.latest _ e' hi hc'
    omega
  · by_cases hcall : w.call = some g
    · have hmem := List.mem_of_getElem? hl.errand
      exact .inl ⟨hcall, hbooks.wrote hmem hl.call hw (hwc.trans hl.channel.symm) hcall⟩
    · obtain ⟨e', he', hwrote⟩ := hbooks.written w hw
      obtain ⟨i, hi⟩ := List.mem_iff_getElem?.mp he'
      have hle := hl.latest i e' hi (hwrote.channel.symm.trans hwc)
      have hne : i ≠ j := by
        rintro rfl
        obtain rfl := Option.some.inj (hi.symm.trans hl.errand)
        exact hcall (hwrote.call.trans hl.call)
      have hbefore : (d.errands.take j)[i]? = some e' := by
        rw [List.getElem?_take_of_lt (Nat.lt_of_le_of_ne hle hne)]
        exact hi
      exact .inr ⟨hcall, e', List.mem_of_getElem? hbefore, hwrote⟩
  · obtain ⟨dep, since, earlier, hunder⟩ := hunder hc ha
    exact ⟨dep, since, earlier, hunder.journal, hunder.completes, hunder.next⟩

/-- At the counter, both buffers wait, and the call is that of the later one. -/
theorem exists_occupied_counter :
    create "lobby" { transport := .datagram } ({} : Narrow) = .ok counter.exchange ∧
      hatch ∈ (counter.run preceded).exchange.directory.channels ∧
      ((counter.run preceded).exchange.directory.call hatch).pending.generation? = some 1 ∧
      ∃ before e after, (counter.run preceded).Occupied hatch 1 before e after := by
  obtain ⟨⟨hchannels, hpending, -⟩, -⟩ := waiting_counter
  have hcreate : create "lobby" { transport := .datagram } ({} : Narrow) = .ok counter.exchange :=
    rfl
  have hc : hatch ∈ (counter.run preceded).exchange.directory.channels := by simp [hchannels]
  have hg :
      ((counter.run preceded).exchange.directory.call hatch).pending.generation? = some 1 := by
    rw [hpending]
    rfl
  exact ⟨hcreate, hc, hg, exists_occupied hcreate preceded hc hg⟩

end Switchboard.Desk
