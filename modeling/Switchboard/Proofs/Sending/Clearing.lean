import Switchboard.Proofs.Sending.Frames

/-!
# Clearing a socket

Where the network takes what it is given and nobody awaits a reply on a socket, a pass that is told
that the socket can be written *clears* it (`Exchange.Cleared`): what waits there goes out whole, in
its order, up to the first write whose blocking call is outstanding.  That one goes too, and then its
call holds back those behind it.

What carries the proof is one write after the other (`sendBytes_whole`): either it leaves all calls
where they were, or its own call awaits the reply from then on, and no more may be sent
(`Clears.rests`).  Before and after, the pass changes nothing about the socket (`foldl_serve_cases`).
-/

namespace Switchboard

open Net Settings Directory

namespace Directory

/-- A change of a box that leaves the box as it is leaves the directory as it is. -/
theorem modifyCall_of_eq {d : Directory} {c : Channel} {f : CallBox → CallBox}
    (hf : f (d.call c) = d.call c) : d.modifyCall c f = d := by
  unfold modifyCall modifyStatus
  split_ifs with hhome
  · have hsame : (d.statuses.modify c.id fun s => { s with call := f s.call }) = d.statuses := by
      refine List.ext_getElem (List.length_modify ..) fun i hi hi' => ?_
      rw [List.getElem_modify]
      split_ifs with hid
      · subst hid
        have hcall : d.call c = d.statuses[c.id].call := by
          unfold call status
          rw [if_pos hhome, List.getElem?_eq_getElem hi', Option.getD_some]
        rw [← hcall, hf, hcall]
      · rfl
    rw [hsame]
  · rfl

end Directory

namespace Exchange

variable {ν : Type} {x y z : Exchange ν}

/-- A blocking call is outstanding that has not been told that the write has gone. -/
def Expects (x : Exchange ν) (w : Write) : Prop :=
  ∃ g, w.call = some g ∧ (x.directory.call w.channel).pending = .queued g

/-- The call of a write awaits its reply. -/
def Awaits (x : Exchange ν) (w : Write) : Prop :=
  ∃ g, w.call = some g ∧ (x.directory.call w.channel).pending = .awaiting g

/-- **A socket was cleared:** what waited there first has gone, whole and in order, and nothing is
left, or the last write that went is the first whose call was outstanding, and the call awaits its
reply. -/
def Cleared (id : SocketId) (x y : Exchange ν) : Prop :=
  ∃ sent, x.waiting id = sent ++ y.waiting id ∧
    y.sentThrough id = x.sentThrough id ++ sent.map (fun p => ⟨id, p.1, p.1.remaining.length⟩) ∧
      ((∀ p ∈ sent, ¬ x.Expects p.1) ∧ y.waiting id = [] ∨
        ∃ before p, sent = before ++ [p] ∧ (∀ q ∈ before, ¬ x.Expects q.1) ∧ x.Expects p.1 ∧
          y.Awaits p.1)

/-- Nothing may be sent through the socket now. -/
def Rests (id : SocketId) (x : Exchange ν) : Prop :=
  x.waiting id = [] ∨ x.isHeld id = true

variable {good : ν → Prop} {id : SocketId} {n : Nature}

/-- What lasts while a socket is cleared. -/
structure Clears (good : ν → Prop) (id : SocketId) (n : Nature) (x y : Exchange ν) : Prop
    extends Lasts good id n x y where
  cleared : Cleared id x y

/-! ### Who holds a socket -/

/-- **A socket is held** by the calls of the channels of its owner. -/
theorem isHeld_iff_owner : x.isHeld id = true ↔ ∃ owner, x.owner? id = some owner ∧
    ∃ c ∈ x.directory.onSocket owner, x.directory.isAwaiting c = true := by
  unfold isHeld awaiting?
  cases x.owner? id <;> simp [List.find?_isSome]

/-- A write whose call awaits its reply holds every socket of which its own socket is the owner. -/
theorem isHeld_of_owner (hnumbered : x.directory.core.Numbered) {w : Write} {owner : SocketId}
    (howner : x.owner? id = some owner) (hlink : x.directory.socketOf w.channel.id = some owner)
    (hw : x.Awaits w) : x.isHeld id = true := by
  obtain ⟨g, -, hpending⟩ := hw
  obtain ⟨e, he, hid, hsocket⟩ := exists_of_socketOf hlink
  have hkeeps : x.directory.Keeps w.channel := keeps_of_pending fun h => nomatch h.symm.trans hpending
  have hcall := x.directory.call_congr ((hnumbered.home e he).trans hkeeps.1.symm) hid
  refine isHeld_iff_owner.mpr ⟨owner, howner, e.channel, mem_onSocket.mpr ⟨e, he, hsocket, rfl⟩, ?_⟩
  exact isAwaiting_iff.mpr ⟨g, hcall ▸ hpending⟩

/-- A socket that was not taken in is its own owner. -/
theorem owner?_of_stands (hx : Stands good id n x) (hr : n.role ≠ .accepted) :
    x.owner? id = some id := by
  obtain ⟨s, hs, rfl, -⟩ := hx.found
  unfold owner?
  rw [hs]
  exact if_neg hr

theorem isHeld_iff (hx : Stands good id n x) (hr : n.role ≠ .accepted) :
    x.isHeld id = true ↔ ∃ c ∈ x.directory.onSocket id, x.directory.isAwaiting c = true := by
  rw [isHeld_iff_owner, owner?_of_stands hx hr]
  simp

/-- **Whether the socket is held** is told by the calls of its channels. -/
theorem isHeld_of_calls (hx : Stands good id n x) (h : Lasts good id n x y) (hr : n.role ≠ .accepted)
    (hnumbered : x.directory.core.Numbered)
    (hcalls : ∀ c, x.directory.socketOf c.id = some id → y.directory.call c = x.directory.call c) :
    y.isHeld id = x.isHeld id := by
  have hchannels : y.directory.onSocket id = x.directory.onSocket id := by
    unfold onSocket select
    rw [show y.directory.entries = x.directory.entries from congrArg Core.entries h.core]
  have hsame : ∀ c ∈ x.directory.onSocket id,
      y.directory.isAwaiting c = x.directory.isAwaiting c := by
    intro c hc
    obtain ⟨e, he, hlink, rfl⟩ := mem_onSocket.mp hc
    rw [Bool.eq_iff_iff, isAwaiting_iff, isAwaiting_iff,
      hcalls e.channel ((socketOf_of_mem hnumbered he).trans hlink)]
  rw [Bool.eq_iff_iff, isHeld_iff h.stands hr, isHeld_iff hx hr, hchannels]
  exact exists_congr fun c => and_congr_right fun hc => by rw [hsame c hc]

/-! ### Clearing a socket -/

/-- What waits at the socket is of a channel that is linked to it. -/
theorem link_of_mem_waiting (hx : Stands good id n x) (hr : n.role ≠ .accepted)
    {p : Write × Option Endpoint} (hp : p ∈ x.waiting id) :
    x.directory.socketOf p.1.channel.id = some id :=
  link_of_target? hx hr (mem_waiting.mp hp).2

/-- Where the calls are the same, so are those that are waited for. -/
theorem expects_congr {w : Write}
    (h : y.directory.call w.channel = x.directory.call w.channel) : y.Expects w ↔ x.Expects w := by
  unfold Expects
  rw [h]

theorem awaits_congr {w : Write}
    (h : y.directory.call w.channel = x.directory.call w.channel) : y.Awaits w ↔ x.Awaits w := by
  unfold Awaits
  rw [h]

/-- Where nothing waits there is nothing to clear. -/
theorem Frames.clears (h : Frames good id n x y) (hw : x.waiting id = []) :
    Clears good id n x y where
  toLasts := h.toLasts
  cleared := ⟨[], h.waiting.symm, by rw [h.sent, List.map_nil, List.append_nil],
    .inl ⟨fun _ hp => absurd hp List.not_mem_nil, h.waiting.trans hw⟩⟩

/-- A socket is cleared after nothing changed about it. -/
theorem Frames.trans_clears (hx : Stands good id n x) (hr : n.role ≠ .accepted)
    (h : Frames good id n x y) (h' : Clears good id n y z) : Clears good id n x z where
  toLasts := h.toLasts.trans h'.toLasts
  cleared := by
    obtain ⟨sent, hwaiting, hsent, hend⟩ := h'.cleared
    have hwaiting' : x.waiting id = sent ++ z.waiting id := h.waiting.symm.trans hwaiting
    have hexpects : ∀ p ∈ sent, (y.Expects p.1 ↔ x.Expects p.1) := fun p hp =>
      expects_congr (h.calls _ (link_of_mem_waiting hx hr (hwaiting' ▸ List.mem_append_left _ hp)))
    refine ⟨sent, hwaiting', by rw [hsent, h.sent], ?_⟩
    rcases hend with ⟨hnone, hempty⟩ | ⟨before, p, rfl, hnone, hp, hawaits⟩
    · exact .inl ⟨fun p hp hex => hnone p hp ((hexpects p hp).mpr hex), hempty⟩
    · have hmem : ∀ q ∈ before, q ∈ before ++ [p] := fun q => List.mem_append_left _
      exact .inr ⟨before, p, rfl, fun q hq hex => hnone q hq ((hexpects q (hmem q hq)).mpr hex),
        (hexpects p (List.mem_append_right _ List.mem_cons_self)).mp hp, hawaits⟩

/-- A socket stays cleared while nothing changes about it. -/
theorem Clears.trans_frames (hx : Stands good id n x) (hr : n.role ≠ .accepted)
    (h : Clears good id n x y) (h' : Frames good id n y z) : Clears good id n x z where
  toLasts := h.toLasts.trans h'.toLasts
  cleared := by
    obtain ⟨sent, hwaiting, hsent, hend⟩ := h.cleared
    refine ⟨sent, by rw [h'.waiting, hwaiting], by rw [h'.sent, hsent], ?_⟩
    rcases hend with ⟨hnone, hempty⟩ | ⟨before, p, rfl, hnone, hp, hawaits⟩
    · exact .inl ⟨hnone, h'.waiting.trans hempty⟩
    · have hmem : p ∈ x.waiting id := by rw [hwaiting]; simp
      have hlink := (socketOf_of_core h.core _).trans (link_of_mem_waiting hx hr hmem)
      exact .inr ⟨before, p, rfl, hnone, hp, (awaits_congr (h'.calls _ hlink)).mpr hawaits⟩

/-- A write has gone that no call is outstanding for, and then the socket is cleared of the others. -/
theorem Clears.cons (h : Lasts good id n x y) {p : Write × Option Endpoint}
    (hwaiting : x.waiting id = [p] ++ y.waiting id)
    (hsent : y.sentThrough id = x.sentThrough id ++ [⟨id, p.1, p.1.remaining.length⟩])
    (hp : ¬ x.Expects p.1) (hcalls : ∀ c, y.directory.call c = x.directory.call c)
    (h' : Clears good id n y z) : Clears good id n x z where
  toLasts := h.trans h'.toLasts
  cleared := by
    obtain ⟨sent, hwaiting', hsent', hend⟩ := h'.cleared
    have hexpects : ∀ q : Write × Option Endpoint, ¬ y.Expects q.1 → ¬ x.Expects q.1 := fun q =>
      mt (expects_congr (hcalls q.1.channel)).mpr
    refine ⟨p :: sent, by rw [hwaiting, hwaiting', List.singleton_append, List.cons_append], ?_, ?_⟩
    · rw [hsent', hsent, List.append_assoc, List.singleton_append, List.map_cons]
    · rcases hend with ⟨hnone, hempty⟩ | ⟨before, q, rfl, hnone, hq, hawaits⟩
      · exact .inl ⟨List.forall_mem_cons.mpr ⟨hp, fun q hq => hexpects q (hnone q hq)⟩, hempty⟩
      · exact .inr ⟨p :: before, q, rfl,
          List.forall_mem_cons.mpr ⟨hp, fun q hq => hexpects q (hnone q hq)⟩,
          (expects_congr (hcalls q.1.channel)).mp hq, hawaits⟩

/-- Nothing more may be sent through a socket that was cleared. -/
theorem Clears.rests (hx : Stands good id n x) (hr : n.role ≠ .accepted)
    (hnumbered : x.directory.core.Numbered) (h : Clears good id n x y) : Rests id y := by
  obtain ⟨sent, hwaiting, -, ⟨-, hempty⟩ | ⟨before, p, rfl, -, -, hawaits⟩⟩ := h.cleared
  · exact .inl hempty
  · have hmem : p ∈ x.waiting id := by rw [hwaiting]; simp
    have hlink := (socketOf_of_core h.core _).trans (link_of_mem_waiting hx hr hmem)
    exact .inr (isHeld_of_owner (h.core.symm ▸ hnumbered) (owner?_of_stands h.stands hr) hlink hawaits)

theorem Frames.rests (hx : Stands good id n x) (hr : n.role ≠ .accepted)
    (hnumbered : x.directory.core.Numbered) (h : Frames good id n x y) (hrests : Rests id x) :
    Rests id y :=
  hrests.imp h.waiting.trans (isHeld_of_calls hx h.toLasts hr hnumbered h.calls).trans

/-! ### Telling the calls -/

/-- The call of a write that is expected awaits its reply once it was told. -/
theorem awaits_of_told {w : Write} (hexpects : x.Expects w) (hd : y.directory = x.directory.told w) :
    y.Awaits w := by
  obtain ⟨g, hcall, hqueued⟩ := hexpects
  have hkeeps : x.directory.Keeps w.channel := keeps_of_pending fun h => nomatch h.symm.trans hqueued
  refine ⟨g, hcall, ?_⟩
  rw [hd, told, hcall, Option.elim_some, call_modifyCall, if_pos ⟨hkeeps, rfl, rfl⟩, CallBox.markSent,
    if_pos hqueued]

/-- Telling a call that is not expected changes nothing. -/
theorem told_of_not_expects {w : Write} (hexpects : ¬ x.Expects w) :
    x.directory.told w = x.directory := by
  unfold told
  cases hcall : w.call with
  | none => rfl
  | some g =>
    refine modifyCall_of_eq ?_
    rw [CallBox.markSent, if_neg fun hqueued => hexpects ⟨g, hcall, hqueued⟩]

/-- Nobody but the channel of the write is told. -/
theorem call_told_of_ne (d : Directory) {w : Write} {c : Channel}
    (hc : ¬ (c.home = w.channel.home ∧ c.id = w.channel.id)) : (d.told w).call c = d.call c := by
  unfold told
  cases w.call with
  | none => rfl
  | some g =>
    rw [Option.elim_some, call_modifyCall]
    exact if_neg fun h => hc h.2

/-! ### Sending through the socket -/

/-- **A write has gone, whole.**  The others wait as before.  If its call was outstanding, the call
awaits its reply from now on; if not, all calls are where they were. -/
theorem sendBytes_whole {s : Socket} {i : Nat} {w : Write} {target : Option Endpoint}
    {rest : List (Write × Option Endpoint)} (hnext : x.nextWrite? id = some (i, w, target))
    (hrest : (x.outbox.writes.drop (i + 1)).filterMap (x.through? id) = rest) :
    let y := x.sendBytes id s i w target w.remaining.length
    y.waiting id = rest ∧ y.sentThrough id = x.sentThrough id ++ [⟨id, w, w.remaining.length⟩] ∧
      (x.Expects w ∧ y.Awaits w ∨
        ¬ x.Expects w ∧ ∀ c, y.directory.call c = x.directory.call c) := by
  have hlast : (w.advance w.remaining.length).remaining = [] := by
    rw [w.remaining_advance, List.drop_length]
  have hdirectory : (x.sendBytes id s i w target w.remaining.length).directory = x.directory.told w := by
    rw [sendBytes_last]
  have hsendings : (x.sendBytes id s i w target w.remaining.length).sendings =
      x.sendings ++ [⟨id, w, min w.remaining.length w.remaining.length⟩] :=
    congrArg Outline.sendings (outline_sendBytes s target _ (nextWrite?_spec hnext).1)
  refine ⟨?_, ?_, ?_⟩
  · rw [waiting_sendBytes s hnext, if_pos (.inl hlast), List.nil_append, hrest]
  · unfold sentThrough
    rw [hsendings, List.filter_append, Nat.min_self, List.filter_cons_of_pos (by simp),
      List.filter_nil]
  · by_cases hexpects : x.Expects w
    · exact .inl ⟨hexpects, awaits_of_told hexpects hdirectory⟩
    · exact .inr ⟨hexpects, fun c => by rw [hdirectory, told_of_not_expects hexpects]⟩

variable [Network ν]

theorem attempt_of_rests (hrests : Rests id x) : x.attempt id = .rest x := by
  rcases hrests with hempty | hheld
  · exact attempt_of_none hempty
  · exact attempt_of_held hheld

section

variable (hgood : Obliging good id) (hx : Stands good id n x) (hr : n.role ≠ .accepted)
  (hm : n.medium ≠ .acceptor)

include hx hr

include hm in
/-- Where nothing may be sent, nothing is. -/
theorem frames_sendAll_of_rests (hrests : Rests id x) (fuel : Nat) :
    Frames good id n x (sendAll id fuel x) := by
  cases fuel with
  | zero => exact .refl hx
  | succ fuel =>
    unfold sendAll
    rw [attempt_of_rests hrests]
    exact frames_disarm hx hr hm id

include hgood hm

/-- **Sending clears a socket** that nobody holds. -/
theorem clears_sendAll (hnumbered : x.directory.core.Numbered) (hheld : x.isHeld id = false)
    {fuel : Nat} (hfuel : x.outbox.work < fuel) : Clears good id n x (sendAll id fuel x) := by
  induction fuel generalizing x with
  | zero => exact absurd hfuel (Nat.not_lt_zero _)
  | succ fuel ih =>
    cases hw : x.waiting id with
    | nil => exact (frames_sendAll_of_rests hx hr hm (.inl hw) _).clears hw
    | cons p rest =>
      obtain ⟨w, target⟩ := p
      obtain ⟨s, hs, rfl, -⟩ := hx.found
      obtain ⟨i, hnext, hbehind⟩ := nextWrite?_of_waiting hw
      unfold sendAll
      rw [attempt_of_waiting hheld hs hm hnext]
      have htakes := hgood.takes (if s.medium = .datagram then target else none) w.remaining x.network
        hx.calm
      have hanswer := frames_network hx (hgood.send id (if s.medium = .datagram then target else none)
        w.remaining x.network hx.calm)
      generalize Network.send id _ w.remaining x.network = answer at htakes hanswer
      obtain ⟨taken, network⟩ := answer
      obtain rfl : taken = .took w.remaining.length := htakes
      dsimp only
      rw [if_neg fun h => h.2 (List.eq_nil_of_length_eq_zero h.1)]
      dsimp only
      -- What is left after the write has gone, and whether it holds the others.
      have hlasts := hanswer.toLasts.trans
        (lasts_sendBytes hanswer.stands id s i w target w.remaining.length)
      obtain ⟨hmoved, hsent, hcalls⟩ := sendBytes_whole (x := { x with network }) (s := s) hnext hbehind
      have hless : _ < x.outbox.work :=
        work_sendBytes_lt (x := { x with network }) s hnext List.eq_nil_of_length_eq_zero
      generalize sendBytes id s i w target w.remaining.length { x with network } = z
        at hlasts hmoved hsent hcalls hless ⊢
      have hwaiting : x.waiting id = [(w, target)] ++ z.waiting id := by
        rw [hw, hmoved, List.singleton_append]
      rcases hcalls with ⟨hexpects, hawaits⟩ | ⟨hexpects, hsame⟩
      · -- The call that awaits its reply holds back what is left.
        have hcleared : Clears good id s.nature x z :=
          ⟨hlasts, [(w, target)], hwaiting, hsent, .inr ⟨[], _, rfl, List.forall_mem_nil _, hexpects, hawaits⟩⟩
        have hrests := hcleared.rests hx hr hnumbered
        exact hcleared.trans_frames hx hr (frames_sendAll_of_rests hlasts.stands hr hm hrests fuel)
      · have hfree : z.isHeld id = false :=
          (isHeld_of_calls hx hlasts hr hnumbered fun c _ => hsame c).trans hheld
        have hcleared := ih hlasts.stands (hlasts.core.symm ▸ hnumbered) hfree (by omega)
        exact .cons hlasts hwaiting hsent hexpects hsame hcleared

/-! ### Serving it -/

omit hgood hr in
/-- A socket that stands is read, and then written. -/
theorem serve_of_stands {ready : Readiness} (hid : ready.socket = id) :
    x.serve ready = x.exchangeData id ready.readable ready.writable := by
  obtain ⟨s, hs, rfl, hp⟩ := hx.found
  unfold serve
  rw [hid, hs]
  dsimp only
  rw [if_neg (by simp [Socket.isLive, hp]), if_neg (show s.medium ≠ .acceptor from hm),
    if_neg (by rw [hp]; decide)]

/-- Before the socket is written, nothing changes about it. -/
theorem serve_cases {ready : Readiness} (hid : ready.socket = id) : ∃ y, Frames good id n x y ∧
    x.serve ready = if ready.writable = true then y.writeSocket id else y := by
  rw [serve_of_stands hx hm hid]
  unfold exchangeData
  by_cases hreadable : ready.readable = true
  · rw [if_pos hreadable]
    obtain ⟨hread, husable⟩ := frames_readSocket hgood hx hr hm id
    replace husable := husable rfl
    generalize x.readSocket id = answer at hread husable ⊢
    obtain ⟨usable, y⟩ := answer
    obtain rfl : usable = true := husable
    exact ⟨y, hread, rfl⟩
  · rw [if_neg hreadable]
    exact ⟨x, .refl hx, rfl⟩

variable (hnumbered : x.directory.core.Numbered)

include hnumbered

/-- A pass changes nothing about the socket where nothing may be sent. -/
theorem frames_foldl_serve (hrests : Rests id x) (ready : List Readiness) :
    Frames good id n x (ready.foldl serve x) := by
  induction ready generalizing x with
  | nil => exact .refl hx
  | cons r ready ih =>
    have hfirst : Frames good id n x (x.serve r) := by
      by_cases hid : r.socket = id
      · obtain ⟨y, hy, heq⟩ := serve_cases hgood hx hr hm hid
        rw [heq]
        split_ifs
        · exact hy.trans (frames_sendAll_of_rests hy.stands hr hm (hy.rests hx hr hnumbered hrests) _)
        · exact hy
      · exact frames_serve hgood hx hr hm hid
    exact hfirst.trans (ih hfirst.stands (hfirst.core.symm ▸ hnumbered)
      (hfirst.rests hx hr hnumbered hrests))

/-- **A pass clears the socket** if it is told that the socket can be written, and else changes nothing
about it. -/
theorem foldl_serve_cases (hheld : x.isHeld id = false) (ready : List Readiness) :
    Clears good id n x (ready.foldl serve x) ∨
      Frames good id n x (ready.foldl serve x) ∧
        ∀ r ∈ ready, r.socket = id → r.writable = false := by
  induction ready generalizing x with
  | nil => exact .inr ⟨.refl hx, nofun⟩
  | cons r ready ih =>
    have hnext : Frames good id n x (x.serve r) → (r.socket = id → r.writable = false) →
        Clears good id n x ((r :: ready).foldl serve x) ∨
          Frames good id n x ((r :: ready).foldl serve x) ∧
            ∀ r' ∈ r :: ready, r'.socket = id → r'.writable = false := by
      intro hfirst hr'
      have hfree := (isHeld_of_calls hx hfirst.toLasts hr hnumbered hfirst.calls).trans hheld
      rcases ih hfirst.stands (hfirst.core.symm ▸ hnumbered) hfree with hclears | ⟨hframes, hnone⟩
      · exact .inl (hfirst.trans_clears hx hr hclears)
      · exact .inr ⟨hfirst.trans hframes, List.forall_mem_cons.mpr ⟨hr', hnone⟩⟩
    by_cases hid : r.socket = id
    · obtain ⟨y, hy, heq⟩ := serve_cases hgood hx hr hm hid
      cases hw : r.writable with
      | false =>
        rw [hw, if_neg Bool.false_ne_true] at heq
        exact hnext (heq ▸ hy) fun _ => hw
      | true =>
        rw [hw, if_pos rfl] at heq
        have hfree := (isHeld_of_calls hx hy.toLasts hr hnumbered hy.calls).trans hheld
        have hcleared := hy.trans_clears hx hr (clears_sendAll hgood hy.stands hr hm
          (hy.core.symm ▸ hnumbered) hfree (Nat.lt_succ_self _))
        refine .inl ?_
        rw [List.foldl_cons, heq]
        exact hcleared.trans_frames hx hr (frames_foldl_serve hgood hcleared.stands hr hm
          (hcleared.core.symm ▸ hnumbered) (hcleared.rests hx hr hnumbered) ready)
    · exact hnext (frames_serve hgood hx hr hm hid) fun h => absurd h hid

/-- Whether or not it is held, the socket stands after a pass. -/
theorem lasts_foldl_serve (ready : List Readiness) : Lasts good id n x (ready.foldl serve x) := by
  by_cases hheld : x.isHeld id = true
  · exact (frames_foldl_serve hgood hx hr hm hnumbered (.inr hheld) ready).toLasts
  · rcases foldl_serve_cases hgood hx hr hm hnumbered (Bool.eq_false_iff.mpr hheld) ready
      with hclears | ⟨hframes, -⟩
    · exact hclears.toLasts
    · exact hframes.toLasts

end

end Exchange

end Switchboard
