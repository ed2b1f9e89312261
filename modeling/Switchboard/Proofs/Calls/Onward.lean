import Switchboard.Proofs.Fates

/-!
# How calls get farther

A call gets farther only where it is begun and where its write leaves the outbox.  All other
operations leave every call where it stands or end it (`rests_apply`), and in a pass a call that
begins to await its reply is one whose write was the first of its channel that waited, and is gone
(`onward_passSteps`).

`Onward` says so of two states, together with what becomes of the writes.  It holds for every
operation that does not belong to a write (`onward_apply`).
-/

namespace Switchboard

open Net Settings Relation Directory

/-- Is it an operation of something else than a write? -/
def Operation.isFree {ν : Type} : Operation ν → Bool
  | .enqueue .. | .beginCall _ | .finishCall .. => false
  | _ => true

namespace CallBox

theorem issued_markSent (g : Nat) (b : CallBox) : (b.markSent g).issued = b.issued := by
  unfold markSent
  split_ifs <;> rfl

/-- A mark lets the call that is queued await its reply, and no other. -/
theorem pending_markSent_cases (g : Nat) (b : CallBox) :
    (b.markSent g).pending = b.pending ∧ b.pending ≠ .queued g ∨
      b.pending = .queued g ∧ (b.markSent g).pending = .awaiting g := by
  unfold markSent
  split_ifs with h
  · exact .inr ⟨h, rfl⟩
  · exact .inl ⟨rfl, h⟩

end CallBox

namespace Exchange

open Outline

variable {ν : Type} {x y z : Exchange ν}

/-- **No call begins and no write comes.**  A call that begins to await its reply had its write in
the outbox, and of its channel only later ones are left there. -/
structure Onward (x y : Exchange ν) : Prop where
  nextTicket : x.outbox.nextTicket ≤ y.outbox.nextTicket
  writes : ∀ w ∈ y.outbox.writes, ∃ w₀ ∈ x.outbox.writes, w₀.Continues w
  issued : ∀ c, (y.directory.call c).issued = (x.directory.call c).issued
  queued : ∀ c g, (y.directory.call c).pending = .queued g →
    (x.directory.call c).pending = .queued g
  awaiting : ∀ c g, (y.directory.call c).pending = .awaiting g →
    (x.directory.call c).pending = .awaiting g ∨
      (x.directory.call c).pending = .queued g ∧
        ∃ w ∈ x.outbox.writes, w.channel.id = c.id ∧ w.call = some g ∧
          ∀ w' ∈ y.outbox.writes, w'.channel.id = c.id → w.ticket < w'.ticket

namespace Onward

/-- Where no call gets farther. -/
theorem of_rests (ht : x.outbox.nextTicket ≤ y.outbox.nextTicket)
    (hw : ∀ w ∈ y.outbox.writes, ∃ w₀ ∈ x.outbox.writes, w₀.Continues w)
    (hr : x.directory.Rests y.directory) : Onward x y where
  nextTicket := ht
  writes := hw
  issued c := (hr c).issued
  queued c g hg := by
    rcases (hr c).pending with hsame | hidle
    · exact hsame.symm.trans hg
    · exact nomatch hidle.symm.trans hg
  awaiting c g hg := by
    rcases (hr c).pending with hsame | hidle
    · exact .inl (hsame.symm.trans hg)
    · exact nomatch hidle.symm.trans hg

theorem trans (h : Onward x y) (h' : Onward y z) : Onward x z where
  nextTicket := Nat.le_trans h.nextTicket h'.nextTicket
  writes w hw := by
    obtain ⟨w₁, hw₁, hcont⟩ := h'.writes w hw
    obtain ⟨w₀, hw₀, hcont₀⟩ := h.writes w₁ hw₁
    exact ⟨w₀, hw₀, hcont₀.trans hcont⟩
  issued c := (h'.issued c).trans (h.issued c)
  queued c g hg := h.queued c g (h'.queued c g hg)
  awaiting c g hg := by
    rcases h'.awaiting c g hg with hwaited | ⟨hqueued, w, hw, hid, hcall, hafter⟩
    · -- The call was marked before, and what is left now was left then.
      refine (h.awaiting c g hwaited).imp_right fun ⟨hqueued, w, hw, hid, hcall, hafter⟩ => ?_
      refine ⟨hqueued, w, hw, hid, hcall, fun w' hw' hid' => ?_⟩
      obtain ⟨w₁, hw₁, hcont⟩ := h'.writes w' hw'
      rw [hcont.ticket]
      exact hafter w₁ hw₁ (hcont.channel ▸ hid')
    · obtain ⟨w₀, hw₀, hcont⟩ := h.writes w hw
      refine .inr ⟨h.queued c g hqueued, w₀, hw₀, hcont.channel ▸ hid, hcont.call ▸ hcall, ?_⟩
      rw [← hcont.ticket]
      exact hafter

end Onward

theorem Undisturbed.onward (h : Undisturbed x y) : Onward x y :=
  .of_rests (Nat.le_of_eq (congrArg Outbox.nextTicket h.outbox).symm)
    (fun w hw => ⟨w, h.outbox ▸ hw, .refl w⟩) h.rests

theorem Onward.refl (x : Exchange ν) : Onward x x :=
  (Undisturbed.refl x).onward

/-! ### Passes -/

/-- **What sending does:** the write stays with more of it gone, or it leaves the outbox, and its
call is marked if it has one. -/
theorem sendBytes_cases (id : SocketId) (s : Socket) (i : Nat) (w : Write)
    (target : Option Endpoint) (count : Nat) (x : Exchange ν) :
    (x.sendBytes id s i w target count).outbox = x.outbox.advance i count ∧
        (x.sendBytes id s i w target count).directory = x.directory ∨
      (x.sendBytes id s i w target count).outbox = x.outbox.remove i ∧
        (x.sendBytes id s i w target count).directory =
          w.call.elim x.directory fun g => x.directory.modifyCall w.channel (·.markSent g) := by
  unfold sendBytes settle
  dsimp only
  split_ifs
  · right
    cases w.call with
    | none => exact ⟨rfl, rfl⟩
    | some g => exact ⟨rfl, rfl⟩
  · exact .inl ⟨rfl, rfl⟩

/-- Around the next write of a socket, the writes of the same channel are later ones. -/
theorem ticket_lt_of_nextWrite? (h : x.outline.Sound) (ho : x.outline.Ordered) {id : SocketId}
    {i : Nat} {w : Write} {target : Option Endpoint} (hnext : x.nextWrite? id = some (i, w, target))
    {w' : Write} (hw' : w' ∈ (x.outbox.remove i).writes) (hid : w'.channel.id = w.channel.id) :
    w.ticket < w'.ticket := by
  obtain ⟨hget, htarget, hbefore⟩ := nextWrite?_spec hnext
  have hsplit := eq_take_cons_drop hget
  have hmem : ∀ {v}, v ∈ x.outbox.writes.take i ++ w :: x.outbox.writes.drop (i + 1) →
      v ∈ x.outbox.writes := fun {v} hv => hsplit ▸ hv
  rw [Outbox.remove, List.eraseIdx_eq_take_drop_succ, List.mem_append] at hw'
  rcases hw' with hw' | hw'
  · -- A write of the channel that came before would have been the next one.
    obtain ⟨e', he', hc'⟩ := ho.owned w' (List.mem_of_mem_take hw')
    obtain ⟨e, he, hc⟩ := ho.owned w (hmem (List.mem_append_right _ List.mem_cons_self))
    have hsame := h.numbered.eq_of_id_eq he' he (by rw [hc', hc, hid])
    have hchannel : w'.channel = w.channel := by rw [← hc', ← hc, hsame]
    exact absurd (hchannel ▸ htarget) (hbefore w' hw' target)
  · exact (ho.around hsplit).2 w' hw'

theorem onward_sendBytes (h : x.outline.Sound) (ho : x.outline.Ordered) {id : SocketId} {s : Socket}
    {i : Nat} {w : Write} {target : Option Endpoint} (count : Nat)
    (hs : x.sockets.find? id = some s) (hm : s.medium ≠ .acceptor)
    (hnext : x.nextWrite? id = some (i, w, target)) :
    Onward x (x.sendBytes id s i w target count) := by
  have hmoves : PassMoves x.outline (x.sendBytes id s i w target count).outline :=
    .single (passMove_sendBytes h count hs hm hnext)
  have hticket := (nextTicket_passMoves hmoves).symm
  have hwrites := fun w' hw' => exists_of_mem_passMoves hmoves (show w' ∈ _ from hw')
  have hrests : (x.sendBytes id s i w target count).directory = x.directory →
      Onward x (x.sendBytes id s i w target count) := fun hsame =>
    .of_rests (Nat.le_of_eq hticket) hwrites (.of_eq fun c => by rw [hsame])
  obtain ⟨-, hsame⟩ | ⟨hremoved, hmarked⟩ := sendBytes_cases id s i w target count x
  · exact hrests hsame
  cases hcall : w.call with
  | none =>
    rw [hcall] at hmarked
    exact hrests hmarked
  | some g =>
    rw [hcall, Option.elim_some] at hmarked
    have hbox : ∀ c, (x.sendBytes id s i w target count).directory.call c = x.directory.call c ∨
        c.id = w.channel.id ∧ (x.sendBytes id s i w target count).directory.call c =
          (x.directory.call c).markSent g := by
      intro c
      rw [hmarked, call_modifyCall]
      split_ifs with hkept
      · exact .inr ⟨hkept.2.2, rfl⟩
      · exact .inl rfl
    refine ⟨Nat.le_of_eq hticket, hwrites, fun c => ?_, fun c g' hg' => ?_, fun c g' hg' => ?_⟩
    · rcases hbox c with heq | ⟨-, heq⟩ <;> rw [heq]
      exact CallBox.issued_markSent g _
    · rcases hbox c with heq | ⟨-, heq⟩ <;> rw [heq] at hg'
      · exact hg'
      · rcases CallBox.pending_markSent_cases g (x.directory.call c) with ⟨hp, -⟩ | ⟨-, hp⟩
        · exact hp.symm.trans hg'
        · exact nomatch hp.symm.trans hg'
    · rcases hbox c with heq | ⟨hid, heq⟩ <;> rw [heq] at hg'
      · exact .inl hg'
      · rcases CallBox.pending_markSent_cases g (x.directory.call c) with ⟨hp, -⟩ | ⟨hqueued, hp⟩
        · exact .inl (hp.symm.trans hg')
        · -- The write that has just left is that of the call.
          obtain rfl : g = g' := Pending.awaiting.inj (hp.symm.trans hg')
          have hget := (nextWrite?_spec hnext).1
          refine .inr ⟨hqueued, w, List.mem_of_getElem? hget, hid.symm, hcall, fun w' hw' hid' => ?_⟩
          rw [hremoved] at hw'
          exact ticket_lt_of_nextWrite? h ho hnext hw' (hid'.trans hid)

variable [Network ν]

theorem onward_passStep (h : x.outline.Sound) (ho : x.outline.Ordered) (hstep : PassStep x y) :
    Onward x y := by
  obtain hrest | ⟨id, s, i, w, target, count, hs, hm, hnext, rfl⟩ := undisturbed_passStep hstep
  · exact hrest.onward
  · exact onward_sendBytes h ho count hs hm hnext

/-- **In a pass no call begins,** and one that begins to await its reply was sent. -/
theorem onward_passSteps (h : x.outline.Sound) (ho : x.outline.Ordered) (hsteps : PassSteps x y) :
    Onward x y := by
  induction hsteps with
  | refl => exact .refl x
  | tail hbefore hstep ih =>
    have hmoves := passMoves_passSteps h hbefore
    exact ih.trans (onward_passStep (h.passMoves hmoves) (ho.passMoves h hmoves) hstep)

/-! ### Operations -/

omit [Network ν] in
theorem rests_armPending (x : Exchange ν) : x.directory.Rests x.armPending.directory := by
  obtain ⟨sockets, outbox, heq⟩ := armPending_eq x
  rw [heq]
  exact .of_eq fun _ => rfl

theorem rests_openUp (x : Exchange ν) : x.directory.Rests x.openUp.2.directory := by
  unfold openUp
  split_ifs
  · exact .of_eq fun _ => rfl
  · obtain ⟨e, network, heq⟩ | ⟨ownEnd, network, heq⟩ := openListener_cases { x with isOpen := true }
    · rw [heq]
      exact .of_eq fun _ => rfl
    · have hattached := fun y : Exchange ν => (Undisturbed.attachWaiting y.directory.channels y).rests
      rw [heq]
      exact hattached (raiseListener x.profile ownEnd { x with isOpen := true, network })

theorem rests_deactivate (x : Exchange ν) : x.directory.Rests x.deactivate.directory := by
  unfold deactivate close
  split_ifs
  · exact .of_eq fun _ => rfl
  · obtain ⟨_, _, _, _, h⟩ := discard_eq (x.sockets.map (·.1)) x
    intro c
    dsimp only
    rw [h, call_unlinkAll]
    exact rests_cancelCalls _ _ c

omit [Network ν] in
theorem call_foldl_unlink (ids : List SocketId) (x : Exchange ν) (c : Channel) :
    (ids.foldl (fun x id => x.onDirectory (·.unlink id)) x).directory.call c =
      x.directory.call c := by
  induction ids generalizing x with
  | nil => rfl
  | cons id ids ih => exact (ih _).trans (call_unlink id x.directory c)

theorem call_closeOutbound (x : Exchange ν) (c : Channel) :
    x.closeOutbound.directory.call c = x.directory.call c := by
  unfold closeOutbound
  dsimp only
  obtain ⟨_, _, _, _, h⟩ := discard_eq (x.sockets.idsWhere fun _ s => s.role != .listener)
    ((x.sockets.idsWhere fun _ s => s.role != .listener).foldl
      (fun x id => x.onDirectory (·.unlink id)) x)
  rw [h]
  exact call_foldl_unlink _ x c

/-- Moving the listener leaves the calls alone. -/
theorem call_moveListener (p : Profile) (ownEnd : Endpoint) (x : Exchange ν) (c : Channel) :
    (x.moveListener p ownEnd).directory.call c = x.directory.call c := by
  have hmoved : ∀ old, (((x.raiseListener p ownEnd).closeSocket old).onDirectory
      (·.relink old x.nextSocket)).directory.call c = x.directory.call c := by
    intro old
    obtain ⟨_, _, _, h⟩ := closeSocket_eq old (x.raiseListener p ownEnd)
    rw [h]
    rfl
  unfold moveListener
  dsimp only
  split_ifs <;> split
  · exact call_closeOutbound _ c
  · exact (call_closeOutbound _ c).trans (hmoved _)
  · rfl
  · exact hmoved _

theorem rests_updateProfile (c : Configuration) (x : Exchange ν) :
    x.directory.Rests (x.updateProfile c).2.directory := by
  obtain ⟨network, heq⟩ | ⟨p, -, -, ⟨-, heq⟩ | ⟨-, ownEnd, network, heq⟩⟩ := updateProfile_eq c x
  · rw [heq]
    exact .of_eq fun _ => rfl
  · rw [heq]
    exact .of_eq fun _ => rfl
  · rw [heq]
    exact .of_eq fun c => call_moveListener p ownEnd _ c

theorem rests_retain (kept : List Channel) (x : Exchange ν) :
    x.directory.Rests (x.retain kept).directory := by
  have hsame : ∀ y : Exchange ν, y.closeOrphans.directory = y.directory := by
    intro y
    obtain ⟨_, _, _, _, h⟩ := discard_eq (y.sockets.idsWhere fun id s =>
      s.role == .outbound && !y.directory.linkedSockets.contains id) y
    rw [closeOrphans, h]
  -- Whoever goes keeps the box, only the call ends.
  have hended := rests_cancelCalls (x.directory.keepOnly fun c => kept.any (·.id == c.id)).1
    (x.directory.keepOnly fun c => kept.any (·.id == c.id)).2
  unfold retain
  dsimp only
  rw [hsame]
  exact fun c => hended c

theorem rests_reconfigure (h : x.outline.Sound) (bindings : List (Subject × Remote)) :
    x.directory.Rests (x.reconfigure bindings).2.directory := by
  have hbind := Enlarged.bindAll h bindings
  unfold reconfigure
  split
  · exact .of_eq fun _ => rfl
  · split <;> rename_i y heq <;> rw [heq] at hbind
    · exact hbind.rests
    · exact fun c => (hbind.rests c).trans (rests_retain _ y c)

/-- **No call gets farther** but in a pass and where it begins. -/
theorem rests_apply (h : x.outline.Sound) {op : Operation ν} (hfree : op.isFree = true)
    (hpoll : op ≠ .poll) : x.directory.Rests (x.apply op).directory := by
  cases op with
  | openUp => exact rests_openUp x
  | deactivate => exact rests_deactivate x
  | updateProfile c => exact rests_updateProfile c x
  | bind s r => exact (Enlarged.bind h.opened s r).rests
  | reconfigure bindings => exact rests_reconfigure h bindings
  | ensureSocket c => exact (Undisturbed.ensureSocket c x).rests
  | enqueue c data call => exact nomatch hfree
  | beginCall c => exact nomatch hfree
  | collect c g => exact .modifyCall ((x.directory.call c).rests_collect g)
  | finishCall c g => exact nomatch hfree
  | armPending => exact rests_armPending x
  | takeAnnouncements => exact .of_eq fun _ => rfl
  | poll => exact absurd rfl hpoll
  | runDueRetries =>
    exact fun c => ((Undisturbed.retryDue x).rests c).trans (rests_armPending x.retryDue c)
  | reportFault id => exact (Undisturbed.reportFault id x).rests
  | elapse ms => exact .of_eq fun _ => rfl
  | world network => exact .of_eq fun _ => rfl

/-- What an operation that is not one of a write does to calls and writes. -/
theorem onward_apply (h : x.outline.Sound) (ho : x.outline.Ordered) {op : Operation ν}
    (hfree : op.isFree = true) : Onward x (x.apply op) := by
  by_cases hpoll : op = .poll
  · subst hpoll
    change Onward x x.poll.2
    obtain ⟨-, heq⟩ | ⟨-, y, hpass, heq⟩ := poll_cases x
    · rw [heq]
      exact .refl x
    · rw [heq]
      have hswept : ∀ w ∈ y.armPending.outbox.writes, w ∈ y.outbox.writes := by
        intro w hw
        rw [show y.armPending.outbox = _ from congrArg Outline.outbox (outline_armPending y)] at hw
        exact (List.mem_filter.mp hw).1
      have hticket : y.armPending.outbox.nextTicket = y.outbox.nextTicket :=
        congrArg (fun o => o.outbox.nextTicket) (outline_armPending y)
      refine (onward_passSteps h ho hpass).trans ?_
      exact .of_rests (Nat.le_of_eq hticket.symm) (fun w hw => ⟨w, hswept w hw, .refl w⟩)
        (rests_armPending y)
  · have hrequeues := requeues_apply h op
    refine .of_rests hrequeues.nextTicket_le (fun w hw => ?_) (rests_apply h hfree hpoll)
    refine (hrequeues.exists_of_mem hw).resolve_right ?_
    rintro ⟨⟨c, data, call, rfl⟩, -⟩
    exact nomatch hfree

end Exchange

end Switchboard
