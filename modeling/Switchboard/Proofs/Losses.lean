import Switchboard.Proofs.Fates
import Switchboard.Proofs.PartialWrites

/-!
# Writes that are lost

An outbound channel gets a socket before anything is queued for it, and keeps one: a socket that
failed is replaced, and a socket that is closed has no channel left.  So one would expect that a
write of an outbound channel waits until it has gone out, or until the exchange closes or the
channel goes (`KeepsWrites`).

It may be lost (`not_keepsWrites`).  A change of the transport takes the sockets of outbound
channels away, and when the writes are swept before the channel is used again, those of a channel
without a socket are dropped.

There is no other way: a write of an outbound channel that disappears otherwise was swept while its
channel was cut off (`keepsWrite_or_cutOff`).  That is so because the channel of whatever waits
is linked, or was cut off (`cutOff_of_mem_writes`).
-/

namespace Switchboard.Exchange

open Net Settings Relation Directory Outline

variable {ν : Type} {x y : Exchange ν}

/-- **The write went out to its end** on the way from the first state to the second: after what had
gone before, a socket took all that was left of it, or it was handed over as a datagram. -/
def Completed (x y : Exchange ν) (w : Write) : Prop :=
  ∃ earlier p later, y.sendings = earlier ++ p :: later ∧ x.sendings <+: earlier ∧
    w.Continues p.write ∧ Piece.bytesOf w.ticket earlier ++ p.write.remaining = w.data ∧
      (p.isLast = true ∨ y.profile.transport = .datagram)

variable [Network ν]

/-- **The operation keeps the write,** unless that goes out to its end, the exchange is taken out of
service, or other bindings let the channel go. -/
def KeepsWrite (x : Exchange ν) (op : Operation ν) (w : Write) : Prop :=
  (∃ w' ∈ (x.apply op).outbox.writes, w.Continues w') ∨ Completed x (x.apply op) w ∨
    op = .deactivate ∨
      ∃ bindings, op = .reconfigure bindings ∧
        ∀ c ∈ (x.apply op).directory.channels, c.id ≠ w.channel.id

/-- Does the operation keep every write of an outbound channel so? -/
def KeepsWrites (x : Exchange ν) (op : Operation ν) : Prop :=
  ∀ w ∈ x.outbox.writes, w.channel.direction = .outbound → x.KeepsWrite op w

/-! ### A write that is lost -/

/-- A new exchange for datagrams, over a narrow network. -/
def quay : Exchange Narrow :=
  { name := "quay", profile := {}, network := {} }

/-- A buffer is queued for an outbound channel.  Then the quay turns to connections. -/
def stranding : List (Operation Narrow) := [
  .bind ferry.subject ferry.remote, .openUp, .enqueue ferry [0x6F, 0x6E] none,
  .updateProfile ⟨.table [("transport_type", .text "tcp")]⟩]

/-- The buffer of the quay. -/
def cargo : Write :=
  ⟨0, ferry, [0x6F, 0x6E], 0, none⟩

theorem cargo_mem_stranding : cargo ∈ (quay.run stranding).outbox.writes := by
  decide +kernel

/-- The next poll drops the buffer, of which nothing has gone out. -/
theorem not_keepsWrite_cargo : ¬ (quay.run stranding).KeepsWrite .poll cargo := by
  obtain ⟨hnone, hsendings⟩ : ((quay.run stranding).apply .poll).outbox.writes = [] ∧
      ((quay.run stranding).apply .poll).sendings = [] := by decide +kernel
  rintro (⟨w', hw', -⟩ | ⟨earlier, p, later, heq, -⟩ | hop | ⟨bindings, hop, -⟩)
  · rw [hnone] at hw'
    exact nomatch hw'
  · rw [hsendings] at heq
    exact absurd heq.symm (by simp)
  · exact nomatch hop
  · exact nomatch hop

/-- **A write of an outbound channel may be lost.** -/
theorem not_keepsWrites :
    (quay.run stranding).Reachable ∧ ¬ (quay.run stranding).KeepsWrites .poll :=
  ⟨⟨"quay", quay.profile, quay.network, quay, stranding, rfl, rfl⟩,
    fun h => not_keepsWrite_cargo (h cargo cargo_mem_stranding rfl)⟩

/-! ### Whoever has something to send -/

/-- **The channel of whatever waits is linked,** or was cut off. -/
theorem cutOff_of_mem_writes {name : String} {profile : Profile} {network : ν}
    (hx : create name profile network = .ok x) (ops : List (Operation ν)) :
    ∀ w ∈ (x.run ops).outbox.writes, (x.run ops).directory.Waits w.channel.id →
      x.CutOff ops w.channel := by
  induction ops using List.reverseRecOn with
  | nil =>
    intro w hw
    have hnone := congrArg (fun o => o.outbox.writes) (outline_create hx)
    exact nomatch (show x.outbox.writes = [] from hnone) ▸ hw
  | append_singleton ops op ih =>
    have hreach : ∀ ops, (x.run ops).Reachable := fun ops => ⟨name, profile, network, x, ops, hx, rfl⟩
    have hbefore := hreach ops
    have hafter := hreach (ops ++ [op])
    rw [run_snoc] at hafter ⊢
    intro w hw hwaits
    obtain ⟨w₀, hw₀, hcont⟩ := ((requeues_apply hbefore.sound op).exists_of_mem hw).resolve_right
      fun h => h.2 hwaits
    -- Both states have writes, so both are open, and the channel of the write was there before.
    have hopen : ∀ {y : Exchange ν}, y.Reachable → ∀ {w}, w ∈ y.outbox.writes → y.isOpen = true := by
      intro y hy w hw
      by_contra hclosed
      obtain ⟨-, -, -, -, hnone⟩ := hy.sound.closed (eq_false_of_ne_true hclosed)
      exact nomatch hnone ▸ hw
    obtain ⟨e, he, hc⟩ := hafter.ordered.1.owned w hw
    have hnone := hwaits.socket_eq_none hafter.sound.numbered he (congrArg Channel.id hc)
    rcases looseEnds_apply hbefore.sound op (hopen hafter hw) e he hnone with
      ⟨-, hold⟩ | ⟨-, hnew⟩ | hcut
    · have hwaited : (x.run ops).directory.Waits w₀.channel.id :=
        ⟨e, hold, by rw [hc, hcont.channel], hnone⟩
      exact EverSince.snoc (.inl (hcont.channel ▸ ih w₀ hw₀ hwaited)) hwaits
    · obtain ⟨e₀, he₀, hc₀⟩ := hbefore.ordered.1.owned w₀ hw₀
      refine absurd (keeps_of_mem hbefore.sound.numbered he₀) ?_
      rw [hc₀, ← hcont.channel, ← hc]
      exact hnew (hopen hbefore hw₀)
    · exact EverSince.snoc (.inr (hc ▸ hcut)) hwaits

/-! ### What is swept -/

omit [Network ν] in
/-- An outbound channel that has a socket has a target. -/
theorem waits_of_not_target (h : x.outline.Sound) {e : Entry} (he : e ∈ x.directory.entries)
    (hd : e.channel.direction = .outbound) (ht : x.target? e.channel = none) : e.socket = none := by
  by_contra hsome
  obtain ⟨id, hid⟩ := Option.ne_none_iff_exists'.mp hsome
  obtain ⟨n, hn, hfits⟩ := h.linked e he id hid
  rcases hfits with ⟨-, hin⟩ | ⟨hout, -⟩
  · exact nomatch hd.symm.trans hin
  · obtain ⟨target, htarget⟩ := target?_of_outbound h ⟨e, he, rfl, hid⟩ hn hout
    exact nomatch ht.symm.trans htarget

omit [Network ν] in
/-- **A write that is swept out** while its channel was there is of a channel without a socket. -/
theorem waits_of_swept {z : Exchange ν} (hz : Undisturbed x z ∨ PassMoves x.outline z.outline)
    (hs : z.outline.Sound) {w : Write} (howned : ∃ e ∈ x.directory.entries, e.channel = w.channel)
    (hd : w.channel.direction = .outbound) (ht : z.target? w.channel = none) :
    x.directory.Waits w.channel.id := by
  have hback : (∃ e ∈ z.directory.entries, e.channel = w.channel) ∧
      ∀ e ∈ z.directory.entries, e.socket = none → e ∈ x.directory.entries := by
    rcases hz with hz | hz
    · refine ⟨?_, hz.moored⟩
      have hmem : w.channel ∈ x.directory.channels := List.mem_map.mpr howned
      rw [← hz.channels] at hmem
      exact List.mem_map.mp hmem
    · have hentries : z.directory.entries = x.directory.entries := (entries_passMoves hz).1
      rw [hentries]
      exact ⟨howned, fun _ he _ => he⟩
  obtain ⟨⟨e, he, hc⟩, hback⟩ := hback
  have hnone := waits_of_not_target hs he (hc ▸ hd) (hc ▸ ht)
  exact ⟨e, hback e he hnone, congrArg Channel.id hc, hnone⟩

/-- **A write of an outbound channel is kept,** or goes out to its end, unless the exchange is taken
out of service or the channel goes.  A write that is lost was swept while its channel was cut
off. -/
theorem keepsWrite_or_cutOff {name : String} {profile : Profile} {network : ν}
    (hx : create name profile network = .ok x) (ops : List (Operation ν)) (op : Operation ν)
    {w : Write} (hw : w ∈ (x.run ops).outbox.writes) (hd : w.channel.direction = .outbound) :
    (x.run ops).KeepsWrite op w ∨ op.sweeps = true ∧ x.CutOff ops w.channel := by
  have hreach : (x.run ops).Reachable := ⟨name, profile, network, x, ops, hx, rfl⟩
  have hpieced := (hreach.run [op]).pieced
  have howned := hreach.ordered.1.owned w hw
  cases requeues_apply hreach.sound op with
  | kept h => exact .inl (.inl ⟨w, h ▸ hw, .refl w⟩)
  | cleared h => exact .inl (.inr (.inr (.inl rfl)))
  | retained bindings p h hp =>
    cases hkept : p w with
    | true =>
      refine .inl (.inl ⟨w, ?_, .refl w⟩)
      rw [h]
      exact List.mem_filter.mpr ⟨hw, hkept⟩
    | false => exact .inl (.inr (.inr (.inr ⟨bindings, rfl, hp w hkept⟩)))
  | queued c data call h hc =>
    refine .inl (.inl ⟨w, ?_, .refl w⟩)
    rw [h]
    exact List.mem_append_left _ hw
  | @swept _ z hop hz hs h =>
    -- What waits after the pass is swept if it has no target.
    have hfate : (∃ w' ∈ z.outbox.writes, w.Continues w') ∨ Ends (x.run ops).outline z.outline w := by
      rcases hz with hz | hz
      · exact .inl ⟨w, hz.outbox ▸ hw, .refl w⟩
      · exact continues_or_ends hreach.sound hz hw
    rcases hfate with ⟨w', hw', hcont⟩ | hends
    · cases ht : z.target? w'.channel with
      | some target =>
        refine .inl (.inl ⟨w', ?_, hcont⟩)
        rw [show ((x.run ops).apply op).outbox = _ from congrArg Outline.outbox h]
        exact List.mem_filter.mpr ⟨hw', by rw [ht]; rfl⟩
      | none =>
        rw [hcont.channel] at ht
        have hwaits := waits_of_swept hz hs howned hd ht
        exact .inr ⟨hop, cutOff_of_mem_writes hx ops w hw hwaits⟩
    · obtain ⟨earlier, p, later, heq, hbefore, hcont, hend⟩ := hends
      have hsendings : ((x.run ops).apply op).sendings = z.sendings := congrArg Outline.sendings h
      have htransport : ((x.run ops).apply op).profile.transport = z.profile.transport :=
        congrArg Outline.transport h
      replace heq : ((x.run ops).apply op).sendings = earlier ++ p :: later := hsendings.trans heq
      have hwhole := hpieced.whole earlier p later heq
      rw [hcont.ticket, hcont.data] at hwhole
      refine .inl (.inr (.inl ⟨earlier, p, later, heq, hbefore, hcont, ?_, htransport ▸ hend⟩))
      rw [hwhole, Write.remaining, hcont.data]
      exact List.take_append_drop _ _

/-- At the quay, the channel of the write that is lost was cut off. -/
theorem keepsWrite_or_cutOff_quay :
    create quay.name quay.profile quay.network = .ok quay ∧
      cargo ∈ (quay.run stranding).outbox.writes ∧ cargo.channel.direction = .outbound ∧
        quay.CutOff stranding ferry := by
  have hcreate : create quay.name quay.profile quay.network = .ok quay := rfl
  have heither := keepsWrite_or_cutOff hcreate stranding .poll cargo_mem_stranding rfl
  exact ⟨hcreate, cargo_mem_stranding, rfl, (heither.resolve_left not_keepsWrite_cargo).2⟩

end Switchboard.Exchange
