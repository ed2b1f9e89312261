import Switchboard.Proofs.Calls.Bystanders
import Switchboard.Proofs.Losses

/-!
# Calls that are left alone

The caller of an outstanding call waits for its write to go out, and then for what the socket brings
through which that went.  So one would expect that the write is there, or that the socket is
(`Desk.NoOrphans`): whatever takes one of them away should end the call.

Some calls are left to themselves (`not_noOrphans`).  A sweep drops the writes that have no target
and leaves their calls queued, and a change of the transport closes the outbound sockets through
which writes of calls have left.

`Desk.Standing` lists how an outstanding call may stand whose write was queued, and there is no
other way (`standing_of_queued`).  If it is queued, its write waits, and just once, or a sweep
dropped it (`Forgets`), which no other operation does (`waits_or_forgets`).  If it awaits its reply,
the socket of its write is open, or the channel has come with its listener to the next one, or the
transport has changed since.
-/

namespace Switchboard

open Net Settings Relation Directory Outline Exchange

namespace Desk

variable {ν : Type} {c : Channel} {g : Nat}

/-- **The call is attended to:** its write waits, and just once, or has left through a socket that
is still open. -/
def Attended (d : Desk ν) (c : Channel) (g : Nat) : Prop :=
  (d.exchange.directory.call c).pending = .queued g ∧
      (∃ w, d.exchange.outbox.writes.filter (fun w => w.channel = c ∧ w.call = some g) = [w]) ∨
    (d.exchange.directory.call c).pending = .awaiting g ∧
      ∃ dep : Departure, dep.event ∈ d.exchange.journal ∧ dep.Completes c g ∧
        (dep.socket, dep.nature) ∈ d.exchange.outline.sockets

/-- **Every outstanding call whose write was queued is attended to.** -/
def NoOrphans (d : Desk ν) : Prop :=
  ∀ c ∈ d.exchange.directory.channels, ∀ g,
    (d.exchange.directory.call c).pending.generation? = some g →
      ∀ e ∈ d.errands, e.channel = c → e.call = some g → ∀ t, e.progress = .queued t →
        d.Attended c g

/-! ### Calls that nobody attends to -/

/-- A call begins on an inbound channel.  When the lobby turns to connections, there is none to the
guest, and the next poll drops the write. -/
def shunned : List (Act Narrow) := [
  .operate (.bind grille.subject grille.remote), .operate .openUp, .start grille [2], .queue 0,
  .operate (.updateProfile ⟨.table [("transport_type", .text "tcp")]⟩), .operate .poll]

/-- The write of a call leaves through an outbound socket, which goes when the lobby turns to
connections. -/
def severed : List (Act Narrow) := [
  .operate (.bind hatch.subject hatch.remote), .operate .openUp, .start hatch [2], .queue 0,
  .operate (.world { room := 9 }), .operate .poll,
  .operate (.updateProfile ⟨.table [("transport_type", .text "tcp")]⟩)]

theorem left_alone_shunned :
    (counter.run shunned).exchange.directory.channels = [grille] ∧
      ((counter.run shunned).exchange.directory.call grille).pending = .queued 1 ∧
      (counter.run shunned).errands = [⟨grille, [2], some 1, .queued 0⟩] ∧
      (counter.run shunned).exchange.outbox.writes = [] := by
  decide +kernel

theorem left_alone_severed :
    (counter.run severed).exchange.directory.channels = [hatch] ∧
      ((counter.run severed).exchange.directory.call hatch).pending = .awaiting 1 ∧
      (counter.run severed).errands = [⟨hatch, [2], some 1, .queued 0⟩] ∧
      ∀ p ∈ (counter.run severed).exchange.sendings, ∀ s ∈ (counter.run severed).exchange.sockets,
        p.socket ≠ s.1 := by
  decide +kernel

/-- **Some calls are left alone:** their writes were dropped, or the sockets closed through which
they had left. -/
theorem not_noOrphans :
    create "lobby" { transport := .datagram } ({} : Narrow) = .ok counter.exchange ∧
      ¬ (counter.run shunned).NoOrphans ∧ ¬ (counter.run severed).NoOrphans := by
  refine ⟨rfl, fun h => ?_, fun h => ?_⟩
  · obtain ⟨hchannels, hpending, herrands, hwrites⟩ := left_alone_shunned
    obtain ⟨-, w, hw⟩ | ⟨hawaiting, -⟩ := h grille (by simp [hchannels]) 1 (by rw [hpending]; rfl)
      ⟨grille, [2], some 1, .queued 0⟩ (by simp [herrands]) rfl rfl 0 rfl
    · rw [hwrites] at hw
      exact nomatch hw
    · exact nomatch hpending.symm.trans hawaiting
  · obtain ⟨hchannels, hpending, herrands, hclosed⟩ := left_alone_severed
    obtain ⟨hqueued, -⟩ | ⟨-, dep, hevent, -, hsocket⟩ := h hatch (by simp [hchannels]) 1
      (by rw [hpending]; rfl) ⟨hatch, [2], some 1, .queued 0⟩ (by simp [herrands]) rfl rfl 0 rfl
    · exact nomatch hpending.symm.trans hqueued
    · obtain ⟨s, hs, -⟩ := Sockets.mem_natures.mp hsocket
      have hsent : (⟨dep.socket, dep.write, dep.count⟩ : Piece) ∈
          (counter.run severed).exchange.sendings :=
        List.mem_filterMap.mpr ⟨_, List.mem_reverse.mpr hevent, rfl⟩
      exact hclosed _ hsent _ hs rfl

end Desk

namespace Exchange

variable {ν : Type} [Network ν] {x y : Exchange ν} {g : Nat} {w : Write}

/-- **The operation forgets the write of a call:** a sweep drops it before it went out to its end,
and the call goes on as if it waited. -/
structure Forgets (x : Exchange ν) (op : Operation ν) (w : Write) : Prop where
  waited : w ∈ x.outbox.writes
  sweeps : op.sweeps = true
  lost : ¬ x.KeepsWrite op w
  queued : ∃ g, w.call = some g ∧ ((x.apply op).directory.call w.channel).pending = .queued g

/-- In the run, the write of a call with some ticket was forgotten. -/
def ForgottenIn (x : Exchange ν) (ops : List (Operation ν)) (c : Channel) (g t : Nat) : Prop :=
  ∃ before op after, ops = before ++ op :: after ∧ ∃ w : Write, w.ticket = t ∧ w.channel = c ∧
    w.call = some g ∧ (x.run before).Forgets op w

/-! ### Writes of calls in a pass -/

/-- **The write of a call that stays queued waits on.** -/
theorem exists_continues_passSteps (h : x.outline.Sound) (ho : x.outline.Ordered)
    (hsteps : PassSteps x y) (hw : w ∈ x.outbox.writes) (hg : w.call = some g)
    (hq : (y.directory.call w.channel).pending = .queued g) :
    ∃ w' ∈ y.outbox.writes, w.Continues w' := by
  induction hsteps with
  | refl => exact ⟨w, hw, .refl w⟩
  | @tail z y hbefore hstep ih =>
    have hmoves := passMoves_passSteps h hbefore
    have hsound := h.passMoves hmoves
    have hordered := ho.passMoves h hmoves
    have hwas := (onward_passStep hsound hordered hstep).queued _ g hq
    obtain ⟨w', hw', hcont⟩ := ih hwas
    obtain hrest | ⟨id, s, i, sent, target, count, hs, hm, hnext, rfl⟩ :=
      undisturbed_passStep hstep
    · exact ⟨w', hrest.outbox ▸ hw', hcont⟩
    obtain ⟨j, hj⟩ := List.mem_iff_getElem?.mp hw'
    obtain ⟨houtbox, -⟩ | ⟨houtbox, hmarked⟩ := sendBytes_cases id s i sent target count z
    · -- More of a write has gone, perhaps of this one.
      have hget : (z.outbox.advance i count).writes[j]? =
          some (if i = j then w'.advance count else w') := by
        rw [Outbox.advance, List.getElem?_modify, hj]
        rfl
      rw [houtbox]
      refine ⟨_, List.mem_of_getElem? hget, ?_⟩
      split_ifs
      · exact hcont.trans (w'.continues_advance count)
      · exact hcont
    · rw [houtbox]
      by_cases hij : j = i
      · -- The write that left is this one, so its call was marked.
        subst hij
        obtain rfl := Option.some.inj (hj.symm.trans (nextWrite?_spec hnext).1)
        obtain ⟨e, he, hc⟩ := hordered.owned w' hw'
        have hkeeps := keeps_of_mem hsound.numbered he
        rw [hc, hcont.channel] at hkeeps
        rw [hcont.call, hg, Option.elim_some, hcont.channel] at hmarked
        rw [hmarked, call_modifyCall, if_pos ⟨hkeeps, rfl, rfl⟩, CallBox.markSent, if_pos hwas] at hq
        simp at hq
      · exact ⟨w', List.mem_eraseIdx_iff_getElem?.mpr ⟨j, hij, hj⟩, hcont⟩

theorem sendings_retry (r : Retry) (x : Exchange ν) : (retry r x).sendings = x.sendings := by
  unfold retry
  split_ifs
  · rfl
  · split
    · rfl
    · split
      · rfl
      · rename_i remote _
        dsimp only
        split
        · rename_i network _
          obtain ⟨_, _, heq⟩ := scheduleRetry_eq r.socket r.delay
            (({ x.modifySocket r.socket fun s => { s with phase := .retrying } with
              network } : Exchange ν).modifySocket r.socket fun s => { s with phase := .retryScheduled })
          rw [heq]
          rfl
        · rename_i ownEnd network _
          obtain ⟨_, _, -, heq⟩ := outline_substitute r.socket
            (Socket.outgoing x.profile.transport ownEnd remote)
            { x.modifySocket r.socket fun s => { s with phase := .retrying } with network }
          exact congrArg Outline.sendings heq

/-- Retries send nothing. -/
theorem sendings_retryDue (x : Exchange ν) : x.retryDue.sendings = x.sendings := by
  have hfold : ∀ (due : List Retry) (y : Exchange ν),
      (due.foldl (fun x r => retry r x) y).sendings = y.sendings := by
    intro due
    induction due with
    | nil => exact fun _ => rfl
    | cons r due ih => exact fun y => (ih (retry r y)).trans (sendings_retry r y)
  exact hfold _ _

/-- **A write whose call stays queued has not gone out to its end.** -/
theorem not_completed_of_queued (h : x.Reachable) {op : Operation ν} (hop : op.sweeps = true)
    (hw : w ∈ x.outbox.writes) (hg : w.call = some g)
    (hq : ((x.apply op).directory.call w.channel).pending = .queued g) :
    ¬ Completed x (x.apply op) w := by
  have hends : Completed x (x.apply op) w → x.outline.Ends (x.apply op).outline w :=
    fun ⟨earlier, p, later, hsent, hbefore, hcont, _, hlast⟩ =>
      ⟨earlier, p, later, hsent, hbefore, hcont, hlast⟩
  have hswept : ∀ y : Exchange ν, y.armPending.sendings = y.sendings :=
    fun y => congrArg Outline.sendings (outline_armPending y)
  intro hcompleted
  replace hends := hends hcompleted
  cases op with
  | armPending => exact not_ends (hswept x) w hends
  | runDueRetries => exact not_ends ((hswept x.retryDue).trans (sendings_retryDue x)) w hends
  | poll =>
    change ((x.poll.2).directory.call w.channel).pending = .queued g at hq
    change x.outline.Ends x.poll.2.outline w at hends
    obtain ⟨-, heq⟩ | ⟨-, y, hpass, heq⟩ := poll_cases x
    · rw [heq] at hends
      exact not_ends rfl w hends
    · rw [heq] at hends hq
      have hmoves := passMoves_passSteps h.sound hpass
      have hpassed : x.outline.Ends y.outline w := by
        obtain ⟨earlier, p, later, hsent, hrest⟩ := hends
        refine ⟨earlier, p, later, (hswept y).symm.trans hsent, ?_⟩
        rw [← congrArg Outline.transport (outline_armPending y)]
        exact hrest
      have hcalls : y.armPending.directory = y.directory := by
        obtain ⟨_, _, heq⟩ := armPending_eq y
        rw [heq]
      change (y.armPending.directory.call w.channel).pending = .queued g at hq
      rw [hcalls] at hq
      obtain ⟨w', hw', hcont⟩ :=
        exists_continues_passSteps h.sound h.ordered.1 hpass hw hg hq
      exact hpassed.ne_ticket h.sound h.ordered.1 hmoves w' hw' hcont.ticket
  | _ => exact nomatch hop

/-- **The write of a call that stays queued waits on,** or a sweep forgets it. -/
theorem waits_or_forgets (h : x.Reachable) {op : Operation ν} (hfree : op.isFree = true)
    (hw : w ∈ x.outbox.writes) (hg : w.call = some g)
    (hc : w.channel ∈ (x.apply op).directory.channels)
    (hq : ((x.apply op).directory.call w.channel).pending = .queued g) :
    (∃ w' ∈ (x.apply op).outbox.writes, w.Continues w') ∨ x.Forgets op w := by
  by_cases hkept : ∃ w' ∈ (x.apply op).outbox.writes, w.Continues w'
  · exact .inl hkept
  cases requeues_apply h.sound op with
  | kept heq => exact .inl ⟨w, heq ▸ hw, .refl w⟩
  | cleared heq =>
    -- Whoever had something to send was on an open exchange, which ends all calls.
    have hopen : x.isOpen = true := by
      by_contra hclosed
      obtain ⟨-, -, -, -, hnone⟩ := h.sound.closed (eq_false_of_ne_true hclosed)
      exact nomatch hnone ▸ hw
    obtain ⟨e, he, hchannel⟩ := h.ordered.1.owned w hw
    have hidle := pending_deactivate h.sound hopen he
    rw [hchannel] at hidle
    exact nomatch hidle.symm.trans hq
  | retained bindings p heq hp =>
    cases hpw : p w with
    | true => exact .inl ⟨w, heq ▸ List.mem_filter.mpr ⟨hw, hpw⟩, .refl w⟩
    | false => exact absurd rfl (hp w hpw w.channel hc)
  | queued c data call heq hnot => exact nomatch hfree
  | swept hop hz hs heq =>
    refine .inr ⟨hw, hop, ?_, g, hg, hq⟩
    rintro (hcont | hcompleted | rfl | ⟨bindings, rfl, -⟩)
    · exact hkept hcont
    · exact not_completed_of_queued h hop hw hg hq hcompleted
    · exact nomatch hop
    · exact nomatch hop

theorem ForgottenIn.append {ops : List (Operation ν)} {c : Channel} {g t : Nat}
    (h : x.ForgottenIn ops c g t) (more : List (Operation ν)) :
    x.ForgottenIn (ops ++ more) c g t := by
  obtain ⟨before, op, after, rfl, hw⟩ := h
  exact ⟨before, op, after ++ more, by simp, hw⟩

end Exchange

/-! ### Calls of a desk -/

namespace Desk

variable {ν : Type} {d d' : Desk ν} {y : Exchange ν} {c : Channel} {g t : Nat}
  {lost lost' : Errand → Prop}

/-- **The write of every queued call waits,** but for those that are lost. -/
def Minds (d : Desk ν) (lost : Errand → Prop) : Prop :=
  ∀ e ∈ d.errands, ∀ t g, e.progress = .queued t → e.call = some g →
    e.channel ∈ d.exchange.directory.channels →
      (d.exchange.directory.call e.channel).pending = .queued g →
        (∃ w ∈ d.exchange.outbox.writes, e.Wrote w) ∨ lost e

namespace Minds

theorem mono (h : d.Minds lost) (hsub : ∀ e, lost e → lost' e) : d.Minds lost' :=
  fun e he t g ht hg hc hq => (h e he t g ht hg hc hq).imp_right (hsub e)

theorem undisturbed (h : d.Minds lost) (hxy : Undisturbed d.exchange y) :
    Minds { d with exchange := y } lost := by
  intro e he t g ht hg hc hq
  rw [show (Desk.mk y d.errands).exchange = y from rfl, hxy.outbox]
  exact h e he t g ht hg (hxy.channels ▸ hc) (hxy.onward.queued _ g hq)

/-- The new call is none of those before. -/
theorem started (h : d.Minds lost) (ho : d.Orderly) {data : Bytes} {b : CallBox}
    (hb : (d.exchange.directory.call c).start? = some (g, b)) :
    Minds ⟨d.exchange.onDirectory (·.modifyCall c fun _ => b),
      d.errands ++ [{ channel := c, data, call := some g }]⟩ lost := by
  have hnew : b.pending = .queued ((d.exchange.directory.call c).issued + 1) := by
    unfold CallBox.start? at hb
    split at hb
    · rw [← (Prod.mk.inj (Option.some.inj hb)).2]
    · exact nomatch hb
  intro e he t g' ht hg' hc hq
  rcases List.mem_append.mp he with he | he
  · rw [onDirectory, call_modifyCall] at hq
    split_ifs at hq with hsame
    · -- The generation of the new call is greater.
      obtain rfl := Pending.queued.inj (hnew.symm.trans hq)
      have hold := ho.issued e he _ hg'
      rw [call_congr _ hsame.2.1 hsame.2.2] at hold
      exact absurd hold (Nat.not_succ_le_self _)
    · rw [onDirectory, Directory.channels, entries_modifyCall] at hc
      exact h e he t g' ht hg' hc hq
  · rw [List.mem_singleton.mp he] at ht
    simp at ht

variable [Network ν]

theorem operated (h : d.Minds lost) (ho : d.Orderly) (hr : d.exchange.Reachable)
    {op : Operation ν} (hfree : op.isFree = true) :
    Minds { d with exchange := d.exchange.apply op }
      fun e => lost e ∨ ∃ w, e.Wrote w ∧ d.exchange.Forgets op w := by
  intro e he t g ht hg hc hq
  have hgrows := grows_moves (moves_steps hr.sound (steps_apply d.exchange op))
  have hold := (hgrows.mem_channels hc).resolve_right (Nat.not_le.mpr (ho.genuine e he).1.2)
  have hwas := (onward_apply hr.sound hr.ordered.1 hfree).queued _ g hq
  rcases h e he t g ht hg hold hwas with ⟨w, hw, hwrote⟩ | hlost
  · rw [← hwrote.channel] at hc hq
    rcases waits_or_forgets hr hfree hw (hwrote.call.trans hg) hc hq with
      ⟨w', hw', hcont⟩ | hforgets
    · exact .inl ⟨w', hw', hwrote.continues hcont⟩
    · exact .inr (.inr ⟨w, hwrote, hforgets⟩)
  · exact .inr (.inl hlost)

/-- **In a step of a desk no write of a queued call is lost,** but where a sweep forgets it. -/
theorem step (h : d.Minds lost) (ho : d.Orderly) (hr : d.exchange.Reachable)
    {op? : Option (Operation ν)} (hstep : d.Step op? d') :
    d'.Minds fun e => lost e ∨ ∃ op, op? = some op ∧ ∃ w, e.Wrote w ∧ d.exchange.Forgets op w := by
  cases hstep with
  | idle => exact h.mono fun _ => .inl
  | barred c => exact h.mono fun _ => .inl
  | checked c data hc hb =>
    intro e he t g ht
    rcases List.mem_append.mp he with he | he
    · exact fun hg hc hq => (h e he t g ht hg hc hq).imp_right .inl
    · rw [List.mem_singleton.mp he] at ht
      exact nomatch ht
  | started c data hc hb => exact (h.started ho hb).mono fun _ => .inl
  | @queued i c data call hi hok =>
    obtain ⟨hno, -⟩ | ⟨y, -, hxy, -, -, -, hz⟩ := enqueue_cases c data call d.exchange
    · exact absurd hok hno
    · have hqueued : Minds ⟨{ y with outbox := y.outbox.push c data call },
          d.errands.set i ⟨c, data, call, .queued d.exchange.outbox.nextTicket⟩⟩ lost := by
        intro e he t g ht hg hc hq
        rcases List.mem_or_eq_of_mem_set he with he | rfl
        · refine (h.undisturbed hxy e he t g ht hg hc hq).imp_left fun ⟨w, hw, hwrote⟩ => ?_
          exact ⟨w, List.mem_append_left _ hw, hwrote⟩
        · refine .inl ⟨_, List.mem_append_right _ List.mem_cons_self, ?_, rfl, rfl, rfl⟩
          exact congrArg (fun o => Progress.queued o.nextTicket) hxy.outbox.symm
      exact (hqueued.undisturbed hz).mono fun _ => .inl
  | @refused i c data call hi hno =>
    obtain ⟨-, hxy⟩ | ⟨y, hok, -⟩ := enqueue_cases c data call d.exchange
    · intro e he t g ht hg hc hq
      rcases List.mem_or_eq_of_mem_set he with he | rfl
      · exact (h.undisturbed hxy e he t g ht hg hc hq).imp_right .inl
      · exact nomatch ht
    · exact absurd hok hno
  | left c g =>
    have hfinished := Undisturbed.modifyCall ((d.exchange.directory.call c).rests_finish g)
    exact (h.undisturbed hfinished).mono fun _ => .inl
  | operated op hfree =>
    refine (h.operated ho hr hfree).mono fun e => Or.imp_right fun hforgotten => ?_
    exact ⟨op, rfl, hforgotten⟩

end Minds

variable [Network ν]

/-- **The write of every queued call waits,** or it was forgotten in the run. -/
theorem minds_run {name : String} {profile : Profile} {network : ν} {x : Exchange ν}
    (hx : create name profile network = .ok x) (acts : List (Act ν)) :
    (run ⟨x, []⟩ acts).Minds fun e => ∃ t g, e.progress = .queued t ∧ e.call = some g ∧
      x.ForgottenIn (operations ⟨x, []⟩ acts) e.channel g t := by
  induction acts using List.reverseRecOn with
  | nil => exact fun e he => absurd he List.not_mem_nil
  | append_singleton acts a ih =>
    have hstep := step_act (run ⟨x, []⟩ acts) a
    rw [run_snoc, operations_snoc]
    refine (ih.step (orderly_run hx acts) (reachable_run hx acts) hstep).mono fun e he => ?_
    rcases he with ⟨t, g, ht, hg, hforgotten⟩ | ⟨op, hop, w, hwrote, hforgets⟩
    · exact ⟨t, g, ht, hg, hforgotten.append _⟩
    · obtain ⟨g, hg, -⟩ := hforgets.queued
      rw [hop]
      rw [exchange_run] at hforgets
      exact ⟨w.ticket, g, hwrote.progress, hwrote.call.symm.trans hg, _, op, [], rfl, w, rfl,
        hwrote.channel, hg, hforgets⟩

/-! ### How a call stands -/

/-- **How an outstanding call stands,** after some operations, whose write was queued with a
ticket. -/
inductive Standing (x : Exchange ν) (ops : List (Operation ν)) (c : Channel) (g t : Nat) : Prop
  /-- Its write waits, and it has no other. -/
  | waiting (hp : ((x.run ops).directory.call c).pending = .queued g) (w : Write) (ht : w.ticket = t)
      (hw : (x.run ops).outbox.writes.filter (fun w => w.channel = c ∧ w.call = some g) = [w])
  /-- Its write was forgotten. -/
  | forgotten (hp : ((x.run ops).directory.call c).pending = .queued g)
      (h : x.ForgottenIn ops c g t)
  /-- Its write has left.  The socket is still open, or was the listener or a connection that was
  taken in and the channel is on the listener of now, or the transport has changed since. -/
  | awaiting (hp : ((x.run ops).directory.call c).pending = .awaiting g) (dep : Departure)
      (since earlier : List Traffic) (hj : (x.run ops).journal = since ++ dep.event :: earlier)
      (hdep : dep.Completes c g)
      (h : (dep.socket, dep.nature) ∈ (x.run ops).outline.sockets ∨
        (dep.nature.role ≠ .outbound ∧ Traffic.closed dep.socket ∈ since ∧
          (x.run ops).directory.socketOf c.id = (x.run ops).listener) ∨
        ∃ part, part <:+ since ∧ x.ChangedAt ops (part ++ dep.event :: earlier))

omit [Network ν] in
/-- Of writes with ascending tickets, one is all that pass a test if they have its ticket. -/
theorem filter_eq_singleton {ws : List Write} (hws : ws.Pairwise (·.ticket < ·.ticket)) {w : Write}
    (hw : w ∈ ws) {p : Write → Bool} (hp : p w = true)
    (honly : ∀ w' ∈ ws, p w' = true → w'.ticket = w.ticket) : ws.filter p = [w] := by
  have hsorted := hws.filter p
  have hmem : w ∈ ws.filter p := List.mem_filter.mpr ⟨hw, hp⟩
  have hticket : ∀ w' ∈ ws.filter p, w'.ticket = w.ticket := fun w' hw' =>
    honly w' (List.mem_filter.mp hw').1 (List.mem_filter.mp hw').2
  generalize ws.filter p = passing at hsorted hmem hticket
  match passing with
  | [] => exact nomatch hmem
  | [w'] => rw [List.mem_singleton.mp hmem]
  | w₁ :: w₂ :: rest =>
    have hlt := (List.pairwise_cons.mp hsorted).1 w₂ List.mem_cons_self
    rw [hticket w₁ List.mem_cons_self, hticket w₂ (List.mem_cons_of_mem _ List.mem_cons_self)] at hlt
    exact absurd hlt (Nat.lt_irrefl _)

/-- **How an outstanding call may stand whose write was queued,** in whatever way the writes are
interleaved.  While it is queued, its write waits, and just once, or a sweep forgot it.  When it
awaits its reply, its write left through a socket that is still open, or that was closed when the
listener moved or a connection failed, or the transport has changed since. -/
theorem standing_of_queued {name : String} {profile : Profile} {network : ν} {x : Exchange ν}
    (hx : create name profile network = .ok x) (acts : List (Act ν))
    (hc : c ∈ (run ⟨x, []⟩ acts).exchange.directory.channels)
    (hg : ((run ⟨x, []⟩ acts).exchange.directory.call c).pending.generation? = some g)
    {e : Errand} (he : e ∈ (run ⟨x, []⟩ acts).errands) (hchannel : e.channel = c)
    (hcall : e.call = some g) (ht : e.progress = .queued t) :
    Standing x (operations ⟨x, []⟩ acts) c g t := by
  have hrun := exchange_run ⟨x, []⟩ acts
  have hreach := reachable_run hx acts
  subst hchannel
  cases hp : ((run ⟨x, []⟩ acts).exchange.directory.call e.channel).pending with
  | idle =>
    rw [hp] at hg
    exact nomatch hg
  | queued g' =>
    obtain rfl : g' = g := by
      rw [hp] at hg
      exact Option.some.inj hg
    rcases minds_run hx acts e he t g' ht hcall hc hp with
      ⟨w, hw, hwrote⟩ | ⟨t', g, ht', hg', hforgotten⟩
    · obtain rfl : w.ticket = t := Progress.queued.inj (hwrote.progress.symm.trans ht)
      refine .waiting (hrun ▸ hp) w rfl ?_
      rw [← hrun]
      refine filter_eq_singleton hreach.ordered.1.ascending hw ?_ fun w' hw' htest => ?_
      · simp [hwrote.channel, hwrote.call, hcall]
      · rw [decide_eq_true_eq] at htest
        have hwrote' := (orderly_run hx acts).wrote he hcall hw' htest.1 htest.2
        exact Progress.queued.inj (hwrote'.progress.symm.trans ht)
    · obtain rfl := Progress.queued.inj (ht'.symm.trans ht)
      obtain rfl := Option.some.inj (hg'.symm.trans hcall)
      exact .forgotten (hrun ▸ hp) hforgotten
  | awaiting g' =>
    obtain rfl : g' = g := by
      rw [hp] at hg
      exact Option.some.inj hg
    rw [hrun] at hp hc
    obtain ⟨dep, since, earlier, hunder⟩ := exists_underway hx _ hc hp
    refine .awaiting hp dep since earlier hunder.journal hunder.completes ?_
    rcases hunder.stands with hchanged | ⟨entry, hentry, hsame, hstill⟩
    · exact .inr (.inr hchanged)
    · cases hstill with
      | served hmem h => exact .inl hmem
      | home hr hsuits hclosed hl hlink =>
        have hsocket := socketOf_of_mem (hrun ▸ hreach).sound.numbered hentry
        rw [hsame, hlink, ← hl] at hsocket
        exact .inr (.inl ⟨hr, hclosed, hsocket⟩)

/-- The write of the call that was shunned was forgotten. -/
theorem standing_of_queued_shunned :
    create "lobby" { transport := .datagram } ({} : Narrow) = .ok counter.exchange ∧
      grille ∈ (counter.run shunned).exchange.directory.channels ∧
      ((counter.run shunned).exchange.directory.call grille).pending.generation? = some 1 ∧
      ⟨grille, [2], some 1, .queued 0⟩ ∈ (counter.run shunned).errands ∧
      counter.exchange.ForgottenIn (counter.operations shunned) grille 1 0 := by
  obtain ⟨hchannels, hpending, herrands, hwrites⟩ := left_alone_shunned
  have hcreate : create "lobby" { transport := .datagram } ({} : Narrow) = .ok counter.exchange :=
    rfl
  have hc : grille ∈ (counter.run shunned).exchange.directory.channels := by simp [hchannels]
  have hg :
      ((counter.run shunned).exchange.directory.call grille).pending.generation? = some 1 := by
    rw [hpending]
    rfl
  have he : ⟨grille, [2], some 1, .queued 0⟩ ∈ (counter.run shunned).errands := by simp [herrands]
  refine ⟨hcreate, hc, hg, he, ?_⟩
  rw [exchange_run] at hpending hwrites
  cases standing_of_queued hcreate shunned hc hg he rfl rfl rfl with
  | waiting hp w ht hw =>
    have hnone : (counter.exchange.run (operations ⟨counter.exchange, []⟩ shunned)).outbox.writes =
        [] := hwrites
    rw [hnone] at hw
    exact nomatch hw
  | forgotten hp h => exact h
  | awaiting hp => exact nomatch hpending.symm.trans hp

end Desk

end Switchboard
