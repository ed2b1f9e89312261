import Switchboard.Proofs.Moorings
import Switchboard.Proofs.Outline.Order
import Switchboard.Proofs.Outline.Quiet

/-!
# What becomes of writes

A write that waits goes on waiting, perhaps with more of it gone (`Write.Continues`), or it comes to
its end in a pass (`Outline.Ends`).  There is nothing else that a pass may make of it
(`continues_or_ends`), and no pass brings a write (`exists_of_mem_passMoves`).  Its ticket stands for
it for ever (`Outline.Issued`).

Of the operations, most leave the writes alone.  `Requeues` says what the others do to them:
closing drops them all, other bindings drop those of the channels that go, and after a pass, a retry
or a call the writes are *swept*: those that have no target are dropped.
-/

namespace Switchboard

open Net Settings Relation Directory

/-! ### Writes that go on -/

/-- **The second write is the first,** of which perhaps more has gone. -/
structure Write.Continues (w w' : Write) : Prop where
  ticket : w'.ticket = w.ticket
  channel : w'.channel = w.channel
  data : w'.data = w.data
  call : w'.call = w.call

theorem Write.Continues.refl (w : Write) : w.Continues w :=
  ⟨rfl, rfl, rfl, rfl⟩

theorem Write.Continues.trans {w w' w'' : Write} (h : w.Continues w') (h' : w'.Continues w'') :
    w.Continues w'' :=
  ⟨h'.ticket.trans h.ticket, h'.channel.trans h.channel, h'.data.trans h.data, h'.call.trans h.call⟩

theorem Write.continues_advance (w : Write) (count : Nat) : w.Continues (w.advance count) :=
  ⟨rfl, rfl, rfl, rfl⟩

namespace Outline

variable {o o' o'' : Outline}

/-- **The write came to its end:** the last of it went out, or all that was left of it went out as a
datagram. -/
def Ends (o o' : Outline) (w : Write) : Prop :=
  ∃ earlier p later, o'.sendings = earlier ++ p :: later ∧ o.sendings <+: earlier ∧
    w.Continues p.write ∧ (p.isLast = true ∨ o'.transport = .datagram)

theorem Ends.of_prefix {w : Write} (h : o'.Ends o'' w) (hsent : o.sendings <+: o'.sendings) :
    o.Ends o'' w := by
  obtain ⟨earlier, p, later, heq, hbefore, hp⟩ := h
  exact ⟨earlier, p, later, heq, hsent.trans hbefore, hp⟩

theorem Ends.of_continues {w w' : Write} (h : o.Ends o' w') (hw : w.Continues w') : o.Ends o' w := by
  obtain ⟨earlier, p, later, heq, hbefore, hp, hlast⟩ := h
  exact ⟨earlier, p, later, heq, hbefore, hw.trans hp, hlast⟩

theorem Ends.and_then {w : Write} (h : o.Ends o' w) (hsent : o'.sendings <+: o''.sendings)
    (ht : o''.transport = o'.transport) : o.Ends o'' w := by
  obtain ⟨earlier, p, later, heq, hbefore, hp, hlast⟩ := h
  obtain ⟨more, hmore⟩ := hsent
  refine ⟨earlier, p, later ++ more, ?_, hbefore, hp, ht ▸ hlast⟩
  rw [← hmore, heq, List.append_assoc, List.cons_append]

/-! ### Passes -/

theorem transport_passMove (hm : PassMove o o') : o'.transport = o.transport := by
  cases hm with
  | event he => cases he <;> rfl
  | sent count => rfl

theorem nextTicket_passMoves (hm : PassMoves o o') : o'.outbox.nextTicket = o.outbox.nextTicket := by
  induction hm with
  | refl => rfl
  | tail _ hstep ih =>
    cases hstep with
    | event he => cases he <;> exact ih
    | sent count => exact ih

/-- A write that is sent goes on waiting, or that was the end of it. -/
theorem continues_or_ends_passMove (hs : o.Sound) (hm : PassMove o o') {w : Write}
    (hw : w ∈ o.outbox.writes) : (∃ w' ∈ o'.outbox.writes, w.Continues w') ∨ o.Ends o' w := by
  cases hm with
  | event he => cases he <;> exact .inl ⟨w, hw, .refl w⟩
  | @sent id n before after sent count hn hm hwrites hlink hchannel hlane hcount =>
    by_cases heq : w = sent
    · subst heq
      by_cases hrest : (w.advance count).remaining = [] ∨ n.medium ≠ .connection
      · refine .inr ⟨o.sendings, ⟨id, w, count⟩, [], rfl, List.prefix_refl _, .refl w, ?_⟩
        rcases hrest with hnone | hmedium
        · left
          rw [Write.remaining_advance, List.drop_eq_nil_iff] at hnone
          exact beq_iff_eq.mpr (Nat.le_antisymm hcount hnone)
        · -- What is sent neither by an acceptor nor by a connection is a datagram.
          right
          have hsuits : n.medium = n.role.medium o.transport := hs.suits _ hn
          cases ht : o.transport with
          | datagram => exact ht
          | stream => cases hr : n.role <;> simp_all [Role.medium]
      · refine .inl ⟨w.advance count, ?_, w.continues_advance count⟩
        unfold send
        dsimp only
        rw [if_neg hrest]
        simp
    · refine .inl ⟨w, ?_, .refl w⟩
      rw [hwrites] at hw
      unfold send
      dsimp only
      rw [List.append_assoc, List.mem_append, List.mem_append]
      rcases List.mem_append.mp hw with hw | hw
      · exact .inl hw
      · exact .inr (.inr ((List.mem_cons.mp hw).resolve_left heq))

/-- **In a pass a write goes on waiting, or comes to its end.** -/
theorem continues_or_ends (hs : o.Sound) (hm : PassMoves o o') {w : Write}
    (hw : w ∈ o.outbox.writes) : (∃ w' ∈ o'.outbox.writes, w.Continues w') ∨ o.Ends o' w := by
  induction hm with
  | refl => exact .inl ⟨w, hw, .refl w⟩
  | tail hmoves hstep ih =>
    rcases ih with ⟨w', hw', hcont⟩ | hends
    · rcases continues_or_ends_passMove (hs.passMoves hmoves) hstep hw' with ⟨w'', hw'', h⟩ | h
      · exact .inl ⟨w'', hw'', hcont.trans h⟩
      · exact .inr ((h.of_prefix (grows_passMoves hmoves).sendings).of_continues hcont)
    · exact .inr (hends.and_then (grows_passMove hstep).sendings (transport_passMove hstep))

/-- **A pass brings no write.** -/
theorem exists_of_mem_passMoves (hm : PassMoves o o') {w' : Write} (hw' : w' ∈ o'.outbox.writes) :
    ∃ w ∈ o.outbox.writes, w.Continues w' := by
  induction hm generalizing w' with
  | refl => exact ⟨w', hw', .refl w'⟩
  | tail _ hstep ih =>
    cases hstep with
    | event he => cases he <;> exact ih hw'
    | @sent id n before after sent count hn hm hwrites hlink hchannel hlane hcount =>
      have hold : ∀ w₀ ∈ before ++ sent :: after, w₀.Continues w' →
          ∃ w ∈ o.outbox.writes, w.Continues w' := by
        intro w₀ hw₀ hcont
        obtain ⟨w, hw, h⟩ := ih (hwrites ▸ hw₀)
        exact ⟨w, hw, h.trans hcont⟩
      rcases mem_writes_send hw' with hw' | hw' | rfl
      · exact hold w' (List.mem_append_left _ hw') (.refl w')
      · exact hold w' (List.mem_append_right _ (List.mem_cons_of_mem _ hw')) (.refl w')
      · exact hold sent (List.mem_append_right _ List.mem_cons_self) (sent.continues_advance count)

/-- Of what goes out as a datagram nothing waits. -/
theorem ne_ticket_of_datagram (hs : o.Sound) (ho : o.Ordered) (hm : PassMoves o o')
    (ht : o'.transport = .datagram) {earlier later : List Piece} {p : Piece}
    (hsent : o'.sendings = earlier ++ p :: later) (hbefore : o.sendings <+: earlier) :
    ∀ w ∈ o'.outbox.writes, p.write.ticket ≠ w.ticket := by
  induction hm generalizing later with
  | refl =>
    have hle := hbefore.length_le
    rw [hsent, List.length_append, List.length_cons] at hle
    omega
  | @tail o₁ o₂ hmoves hstep ih =>
    cases hstep with
    | event he => cases he <;> exact ih ht hsent
    | @sent id n before after w count hn hm hwrites hlink hchannel hlane hcount =>
      intro w' hw'
      change o₁.sendings ++ [⟨id, w, count⟩] = earlier ++ p :: later at hsent
      rcases List.eq_nil_or_concat later with rfl | ⟨later, q, rfl⟩
      · -- The write that has just been sent left its place.
        obtain ⟨-, hp⟩ := List.append_inj' hsent rfl
        obtain rfl := (List.cons.inj hp).1
        have hmedium : n.medium = .datagram := by
          have hsuits : n.medium = n.role.medium o₁.transport := (hs.passMoves hmoves).suits _ hn
          rw [show o₁.transport = .datagram from ht] at hsuits
          exact hsuits
        unfold send at hw'
        dsimp only at hw'
        rw [if_pos (.inr (by rw [hmedium]; decide)), List.append_nil] at hw'
        exact (ho.passMoves hs hmoves).ne_ticket hwrites hw'
      · have hold : o₁.sendings = earlier ++ p :: later := by
          rw [List.concat_eq_append, ← List.cons_append, ← List.append_assoc] at hsent
          exact (List.append_inj' hsent rfl).1
        obtain ⟨w₀, hw₀, hticket, -⟩ := exists_of_mem_send hw'
        rw [← hticket]
        exact ih ht hold w₀ (hwrites ▸ hw₀)

/-- **A write that came to its end waits no more.** -/
theorem Ends.ne_ticket (hs : o.Sound) (ho : o.Ordered) (hm : PassMoves o o') {w : Write}
    (h : o.Ends o' w) : ∀ w' ∈ o'.outbox.writes, w'.ticket ≠ w.ticket := by
  obtain ⟨earlier, p, later, hsent, hbefore, hcont, hlast⟩ := h
  intro w' hw'
  rw [← hcont.ticket]
  rcases hlast with hlast | ht
  · have hmem : p ∈ o'.sendings := hsent ▸ List.mem_append_right _ List.mem_cons_self
    exact ((ho.passMoves hs hm).gone p hmem hlast w' hw').symm
  · exact (ne_ticket_of_datagram hs ho hm ht hsent hbefore w' hw').symm

/-- Where nothing is sent, no write comes to its end. -/
theorem not_ends (h : o'.sendings = o.sendings) (w : Write) : ¬ o.Ends o' w := by
  rintro ⟨earlier, p, later, hsent, hbefore, -⟩
  have hle := hbefore.length_le
  rw [← h, hsent, List.length_append, List.length_cons] at hle
  omega

/-! ### Tickets -/

/-- **The ticket stands for the write:** whatever waits or went out with it is that write, of which
perhaps more has gone. -/
structure Issued (o : Outline) (w : Write) : Prop where
  given : w.ticket < o.outbox.nextTicket
  waits : ∀ w' ∈ o.outbox.writes, w'.ticket = w.ticket → w.Continues w'
  sent : ∀ p ∈ o.sendings, p.write.ticket = w.ticket → w.Continues p.write

/-- What a pass sends waited before. -/
theorem exists_of_mem_sendings (hm : PassMoves o o') {p : Piece} (hp : p ∈ o'.sendings) :
    p ∈ o.sendings ∨ ∃ w ∈ o.outbox.writes, w.Continues p.write := by
  induction hm with
  | refl => exact .inl hp
  | tail hmoves hstep ih =>
    cases hstep with
    | event he => cases he <;> exact ih hp
    | @sent id n before after w count hn hm hwrites hlink hchannel hlane hcount =>
      rcases List.mem_append.mp hp with hp | hp
      · exact ih hp
      · obtain rfl := List.mem_singleton.mp hp
        exact .inr (exists_of_mem_passMoves hmoves (hwrites ▸ List.mem_append_right _ List.mem_cons_self))

theorem nextTicket_le_move (hm : Move o o') : o.outbox.nextTicket ≤ o'.outbox.nextTicket := by
  cases hm with
  | event he => cases he <;> exact Nat.le_refl _
  | passed p hpass hp hstay => exact Nat.le_of_eq (nextTicket_passMoves hpass).symm
  | moved t next ho hnext =>
    unfold Outline.rebind
    split_ifs <;> split <;> exact Nat.le_refl _
  | queued data call ho he hid hl => exact Nat.le_succ _
  | _ => exact Nat.le_refl _

/-- **No ticket comes to stand for another write.** -/
theorem Issued.move {w : Write} (h : o.Issued w) (hset : o.Settled) (ho : o.Ordered) (hs : o.Sound)
    (hm : Move o o') : o'.Issued w := by
  have hgiven := Nat.lt_of_lt_of_le h.given (nextTicket_le_move hm)
  rcases quiet_move hset ho hs hm with hq | ⟨o₁, p, hpass, rfl, -⟩ | ⟨c, data, call, rfl⟩
  · exact ⟨hgiven, fun w' hw' => h.waits w' (hq.writes hw'), hq.sendings ▸ h.sent⟩
  · have hold : ∀ w' w₀ : Write, w₀ ∈ o.outbox.writes → w₀.Continues w' → w'.ticket = w.ticket →
        w.Continues w' := fun w' w₀ hw₀ hcont ht =>
      (h.waits w₀ hw₀ (hcont.ticket.symm.trans ht)).trans hcont
    refine ⟨hgiven, fun w' hw' ht => ?_, fun q hq ht => ?_⟩
    · obtain ⟨w₀, hw₀, hcont⟩ := exists_of_mem_passMoves hpass (List.mem_filter.mp hw').1
      exact hold w' w₀ hw₀ hcont ht
    · rcases exists_of_mem_sendings hpass hq with hq | ⟨w₀, hw₀, hcont⟩
      · exact h.sent q hq ht
      · exact hold q.write w₀ hw₀ hcont ht
  · refine ⟨hgiven, fun w' hw' ht => ?_, h.sent⟩
    rcases List.mem_append.mp hw' with hw' | hw'
    · exact h.waits w' hw' ht
    · -- The ticket of the new write was not given before.
      rw [List.mem_singleton.mp hw'] at ht
      exact absurd h.given (Nat.not_lt.mpr (Nat.le_of_eq ht))

theorem Issued.moves {w : Write} (h : o.Issued w) (hset : o.Settled) (ho : o.Ordered) (hs : o.Sound)
    (hm : Moves o o') : o'.Issued w := by
  induction hm with
  | refl => exact h
  | tail hbefore hstep ih =>
    obtain ⟨ho', hset'⟩ := ho.moves hset hs hbefore
    exact ih.move hset' ho' (hs.moves hbefore) hstep

/-- The ticket of a write that is queued stands for it. -/
theorem Ordered.issued (h : o.Ordered) (c : Channel) (data : Bytes) (call : Option Nat) :
    Issued { o with outbox := o.outbox.push c data call }
      { ticket := o.outbox.nextTicket, channel := c, data, call } where
  given := Nat.lt_succ_self _
  waits w' hw' ht := by
    rcases List.mem_append.mp hw' with hw' | hw'
    · exact absurd ht (Nat.ne_of_lt (h.below w' hw'))
    · exact List.mem_singleton.mp hw' ▸ .refl _
  sent p hp ht := absurd ht (Nat.ne_of_lt (h.sent p hp).2)

end Outline

/-! ### Operations -/

/-- Does the operation sweep the writes at its end? -/
def Operation.sweeps {ν : Type} : Operation ν → Bool
  | .armPending | .poll | .runDueRetries => true
  | _ => false

namespace Exchange

open Outline Directory

variable {ν : Type} {x y : Exchange ν}

/-- **What an operation does to the writes that wait.** -/
inductive Requeues (x y : Exchange ν) : Operation ν → Prop
  | kept {op : Operation ν} (h : y.outbox = x.outbox) : Requeues x y op
  | cleared (h : y.outbox = x.outbox.clear) : Requeues x y .deactivate
  /-- The writes of the channels that go are dropped. -/
  | retained (bindings : List (Subject × Remote)) (p : Write → Bool) (h : y.outbox = x.outbox.keep p)
      (hp : ∀ w, p w = false → ∀ c ∈ y.directory.channels, c.id ≠ w.channel.id) :
      Requeues x y (.reconfigure bindings)
  | queued (c : Channel) (data : Bytes) (call : Option Nat)
      (h : y.outbox = x.outbox.push c data call) (hc : ¬ y.directory.Waits c.id) :
      Requeues x y (.enqueue c data call)
  /-- After a pass, or a retry, the writes that have no target are dropped. -/
  | swept {op : Operation ν} {z : Exchange ν} (hop : op.sweeps = true)
      (hz : Undisturbed x z ∨ PassMoves x.outline z.outline) (hs : z.outline.Sound)
      (h : y.outline =
        { z.outline with outbox := z.outbox.keep fun w => (z.target? w.channel).isSome }) :
      Requeues x y op

/-- **A write that waits after an operation waited before,** or was queued by it, with a
socket. -/
theorem Requeues.exists_of_mem {op : Operation ν} (h : Requeues x y op) {w : Write}
    (hw : w ∈ y.outbox.writes) :
    (∃ w₀ ∈ x.outbox.writes, w₀.Continues w) ∨
      (∃ c data call, op = .enqueue c data call) ∧ ¬ y.directory.Waits w.channel.id := by
  cases h with
  | kept h => exact .inl ⟨w, h ▸ hw, .refl w⟩
  | cleared h =>
    rw [h] at hw
    exact absurd hw List.not_mem_nil
  | retained bindings p h hp =>
    rw [h] at hw
    exact .inl ⟨w, (List.mem_filter.mp hw).1, .refl w⟩
  | queued c data call h hc =>
    rw [h] at hw
    rcases List.mem_append.mp hw with hw | hw
    · exact .inl ⟨w, hw, .refl w⟩
    · obtain rfl := List.mem_singleton.mp hw
      exact .inr ⟨⟨c, data, call, rfl⟩, hc⟩
  | swept hop hz hs h =>
    rw [show y.outbox = _ from congrArg Outline.outbox h] at hw
    replace hw := (List.mem_filter.mp hw).1
    rcases hz with hz | hz
    · exact .inl ⟨w, hz.outbox ▸ hw, .refl w⟩
    · exact .inl (exists_of_mem_passMoves hz hw)

/-- Tickets are given out once. -/
theorem Requeues.nextTicket_le {op : Operation ν} (h : Requeues x y op) :
    x.outbox.nextTicket ≤ y.outbox.nextTicket := by
  cases h with
  | kept h => exact Nat.le_of_eq (congrArg Outbox.nextTicket h).symm
  | cleared h => exact Nat.le_of_eq (congrArg Outbox.nextTicket h).symm
  | retained bindings p h hp => exact Nat.le_of_eq (congrArg Outbox.nextTicket h).symm
  | queued c data call h hc =>
    rw [h]
    exact Nat.le_succ _
  | @swept _ z hop hz hs h =>
    have hsame : z.outbox.nextTicket = x.outbox.nextTicket := by
      rcases hz with hz | hz
      · exact congrArg Outbox.nextTicket hz.outbox
      · exact nextTicket_passMoves hz
    have hticket : y.outbox.nextTicket = z.outbox.nextTicket :=
      congrArg (fun o => o.outbox.nextTicket) h
    exact Nat.le_of_eq (hticket.trans hsame).symm

variable [Network ν]

theorem outbox_moveListener (p : Profile) (ownEnd : Endpoint) (x : Exchange ν) :
    (x.moveListener p ownEnd).outbox = x.outbox := by
  obtain ⟨_, _, _, _, _, _, _, heq⟩ := moveListener_eq p ownEnd x
  rw [heq]

theorem outbox_openUp (x : Exchange ν) : x.openUp.2.outbox = x.outbox := by
  unfold openUp
  split_ifs
  · rfl
  · obtain ⟨e, network, heq⟩ | ⟨ownEnd, network, heq⟩ := openListener_cases { x with isOpen := true }
    · rw [heq]
    · rw [heq]
      exact (Undisturbed.attachWaiting _ _).outbox

theorem outbox_deactivate (x : Exchange ν) : x.deactivate.outbox = x.outbox.clear := by
  unfold deactivate close
  split_ifs
  · rfl
  · obtain ⟨_, _, _, _, h⟩ := discard_eq (x.sockets.map (·.1)) x
    dsimp only
    rw [h]

theorem outbox_updateProfile (c : Configuration) (x : Exchange ν) :
    (x.updateProfile c).2.outbox = x.outbox := by
  obtain ⟨network, heq⟩ | ⟨p, -, -, ⟨-, heq⟩ | ⟨-, ownEnd, network, heq⟩⟩ := updateProfile_eq c x
  · rw [heq]
  · rw [heq]
  · rw [heq]
    exact outbox_moveListener p ownEnd _

theorem requeues_reconfigure (h : x.outline.Sound) (bindings : List (Subject × Remote)) :
    Requeues x (x.reconfigure bindings).2 (.reconfigure bindings) := by
  have hbind := Enlarged.bindAll h bindings
  have hsteps := SteadySteps.steps (steady_bindAll bindings x)
  unfold reconfigure
  split
  · exact .kept rfl
  · split <;> rename_i y heq <;> rw [heq] at hbind hsteps
    · exact .kept hbind.outbox
    · rename_i kept
      have hsound := h.moves (moves_steps h hsteps)
      have hretain := outline_retain kept y
      have houtbox := (congrArg Outline.outbox hretain).trans
        (congrArg (Outbox.keep · _) hbind.outbox)
      refine .retained bindings _ houtbox fun w hw c hc hid => ?_
      · -- A channel that stays is not one of those that go.
        rw [Bool.not_eq_false', List.any_eq_true] at hw
        obtain ⟨e, he, hgoes⟩ := hw
        rw [Bool.and_eq_true, beq_iff_eq] at hgoes
        obtain ⟨e', he', rfl⟩ := List.mem_map.mp hc
        have he'' : e' ∈ (y.retain kept).outline.entries := he'
        rw [hretain] at he''
        obtain ⟨hmem, hstays⟩ := List.mem_filter.mp he''
        rw [hsound.numbered.eq_of_id_eq hmem he (hid.trans hgoes.2.symm)] at hstays
        simp [hstays] at hgoes

theorem requeues_poll (h : x.outline.Sound) : Requeues x x.poll.2 .poll := by
  obtain ⟨-, heq⟩ | ⟨-, y, hpass, heq⟩ := poll_cases x
  · rw [heq]
    exact .kept rfl
  · rw [heq]
    have hmoves := passMoves_passSteps h hpass
    exact .swept rfl (.inr hmoves) (h.passMoves hmoves) (outline_armPending y)

/-- **What becomes of the writes in an operation.** -/
theorem requeues_apply (h : x.outline.Sound) (op : Operation ν) : Requeues x (x.apply op) op := by
  cases op with
  | openUp => exact .kept (outbox_openUp x)
  | deactivate => exact .cleared (outbox_deactivate x)
  | updateProfile c => exact .kept (outbox_updateProfile c x)
  | bind s r => exact .kept (Enlarged.bind h.opened s r).outbox
  | reconfigure bindings => exact requeues_reconfigure h bindings
  | ensureSocket c => exact .kept (Undisturbed.ensureSocket c x).outbox
  | enqueue c data call =>
    rcases enqueue_cases c data call x with ⟨-, h⟩ | ⟨y, -, hxy, hsteps, htarget, -, hz⟩
    · exact .kept h.outbox
    · refine .queued c data call ?_ ?_
      · exact hz.outbox.trans (congrArg (Outbox.push · c data call) hxy.outbox)
      · rintro ⟨e, he, hid, hnone⟩
        have hsound := h.moves (moves_steps h (SteadySteps.steps hsteps))
        have hsocket := socketOf_of_mem hsound.numbered (hz.moored e he hnone)
        rw [hid, hnone] at hsocket
        refine htarget ?_
        unfold target?
        rw [hsocket]
  | beginCall c =>
    change Requeues x (x.beginCall c).2 _
    unfold beginCall
    split
    · exact .kept rfl
    · exact .kept rfl
  | collect c g => exact .kept rfl
  | finishCall c g => exact .kept rfl
  | armPending => exact .swept rfl (.inl (.refl x)) h (outline_armPending x)
  | takeAnnouncements => exact .kept rfl
  | poll => exact requeues_poll h
  | runDueRetries =>
    have hretried := moves_retryDue h
    exact .swept rfl (.inl (.retryDue x)) (h.moves hretried) (outline_armPending x.retryDue)
  | reportFault id => exact .kept (Undisturbed.reportFault id x).outbox
  | elapse ms => exact .kept rfl
  | world network => exact .kept rfl

end Exchange

end Switchboard
