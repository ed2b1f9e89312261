import Switchboard.Proofs.Senders.Callbacks
import Switchboard.Proofs.Sending.Clearing

/-!
# No write is stranded

A pass that holds writes back asks no longer to be told when their socket can be written, so whoever
lets them go has to ask again.  Every pass does, after it has served the sockets (`armed_armPending`):
it asks for each socket that is not held and where something waits.  So it does not matter how the
writes of a socket came to wait there.  Where nobody awaits a reply on the socket, and the network
takes what it is given, two polls clear it (`Station.cleared_twice`): the first asks for it at the
latest, and the second sends.
-/

namespace Switchboard

open Net Settings Directory

namespace Exchange

variable {ν : Type} {x y : Exchange ν} {good : ν → Prop} {id : SocketId} {n : Nature}

/-- The network is asked to tell when the socket can be written. -/
def Armed (id : SocketId) (x : Exchange ν) : Prop :=
  ∃ s, (id, s) ∈ x.sockets ∧ s.interest.write = true

/-! ### Asking to be told -/

theorem mem_sockets_arm (x : Exchange ν) (i : SocketId) {j : SocketId} {s : Socket}
    (hs : (j, s) ∈ x.sockets) : (j, if j = i ∧ s.isLive = true then
      { s with interest := { s.interest with write := true } } else s) ∈ (x.arm i).sockets := by
  refine List.mem_map.mpr ⟨(j, s), hs, ?_⟩
  by_cases hj : j = i <;> simp [hj]

theorem armed_arm_self (hx : Stands good id n x) : Armed id (x.arm id) := by
  obtain ⟨s, hs, -, hp⟩ := hx.found
  refine ⟨_, mem_sockets_arm x id (Sockets.mem_of_find? hs), ?_⟩
  rw [if_pos ⟨rfl, by simp [Socket.isLive, hp]⟩]

/-- A socket that is asked for stays so while others are. -/
theorem Armed.armUnlessHeld (h : Armed id x) (i : SocketId) : Armed id (x.armUnlessHeld i) := by
  obtain ⟨s, hs, hwrite⟩ := h
  unfold Exchange.armUnlessHeld
  split_ifs
  · exact ⟨s, hs, hwrite⟩
  · refine ⟨_, mem_sockets_arm x i hs, ?_⟩
    split_ifs
    · rfl
    · exact hwrite

theorem natures_armUnlessHeld (i : SocketId) (x : Exchange ν) :
    (x.armUnlessHeld i).sockets.natures = x.sockets.natures := by
  have hkeeps : ∀ s : Socket, (if s.isLive = true then
      { s with interest := { s.interest with write := true } } else s).nature = s.nature :=
    fun s => by split_ifs <;> rfl
  unfold armUnlessHeld
  split_ifs
  · rfl
  · exact Sockets.natures_modify x.sockets i hkeeps

section

variable (hx : Stands good id n x) (hr : n.role ≠ .accepted) (hm : n.medium ≠ .acceptor)

include hx hr hm

theorem frames_armUnlessHeld (i : SocketId) : Frames good id n x (x.armUnlessHeld i) := by
  unfold armUnlessHeld
  split_ifs
  · exact .refl hx
  · exact frames_arm hx hr hm i

theorem frames_armTargets (ws : List Write) : Frames good id n x (x.armTargets ws) := by
  unfold armTargets
  induction ws generalizing x with
  | nil => exact .refl hx
  | cons w ws ih =>
    rw [List.foldl_cons]
    split
    · rename_i i target _
      have hfirst := frames_armUnlessHeld hx hr hm i
      exact hfirst.trans (ih hfirst.stands)
    · exact ih hx

/-- **A socket that is not held is asked for,** if one of the writes goes through it. -/
theorem armed_armTargets (hnumbered : x.directory.core.Numbered) (hheld : x.isHeld id = false)
    {ws : List Write}
    (h : Armed id x ∨ ∃ w ∈ ws, ∃ target, x.target? w.channel = some (id, target)) :
    Armed id (x.armTargets ws) := by
  unfold armTargets
  induction ws generalizing x with
  | nil => exact h.resolve_right fun ⟨_, hw, _⟩ => nomatch hw
  | cons w ws ih =>
    rw [List.foldl_cons]
    cases hw : x.target? w.channel with
    | none =>
      refine ih hx hnumbered hheld (h.imp_right ?_)
      rintro ⟨v, hv, target, ht⟩
      rcases List.mem_cons.mp hv with rfl | hv
      · exact nomatch hw.symm.trans ht
      · exact ⟨v, hv, target, ht⟩
    | some t =>
      obtain ⟨i, target⟩ := t
      have hfirst := frames_armUnlessHeld hx hr hm i
      have htarget := target?_congr (y := x.armUnlessHeld i) (x := x) hfirst.listener
        (natures_armUnlessHeld i x) hfirst.core
      refine ih hfirst.stands (hfirst.core.symm ▸ hnumbered)
        ((isHeld_of_calls hx hfirst.toLasts hr hnumbered hfirst.calls).trans hheld) ?_
      rcases h with harmed | ⟨v, hv, target', ht⟩
      · exact .inl (harmed.armUnlessHeld i)
      · rcases List.mem_cons.mp hv with rfl | hv
        · obtain rfl := (Prod.mk.inj (Option.some.inj (hw.symm.trans ht))).1
          have harmed : Armed i (x.armUnlessHeld i) := by
            rw [armUnlessHeld, if_neg (by simp [hheld])]
            exact armed_arm_self hx
          exact .inl harmed
        · exact .inr ⟨v, hv, target', (htarget _).trans ht⟩

omit hr hm in
/-- Dropping the writes that can reach nobody changes nothing about the socket. -/
theorem frames_keep : Frames good id n x
    { x with outbox := x.outbox.keep fun w => (x.target? w.channel).isSome } := by
  refine ⟨.of_same hx hx.calm rfl rfl rfl rfl rfl rfl, ?_, rfl, fun _ _ => rfl⟩
  change (x.outbox.writes.filter fun w => (x.target? w.channel).isSome).filterMap (x.through? id) = _
  rw [List.filterMap_filter]
  refine List.filterMap_congr fun w _ => ?_
  split_ifs with hsome
  · rfl
  · unfold through?
    rw [Option.not_isSome_iff_eq_none.mp hsome, Option.bind_none]

theorem frames_armPending : Frames good id n x x.armPending :=
  (frames_keep hx).trans (frames_armTargets (frames_keep hx).stands hr hm _)

/-- **After a pass every socket is asked for** where something waits that may go. -/
theorem armed_armPending (hnumbered : x.directory.core.Numbered) (hrests : ¬ Rests id x) :
    Armed id x.armPending := by
  have hkeep := frames_keep hx
  have hheld : x.isHeld id = false := Bool.eq_false_iff.mpr fun h => hrests (.inr h)
  refine armed_armTargets hkeep.stands hr hm hnumbered hheld (.inr ?_)
  obtain ⟨p, hp⟩ := List.exists_mem_of_ne_nil _ fun h => hrests (.inl h)
  obtain ⟨hw, ht⟩ := mem_waiting.mp hp
  exact ⟨p.1, List.mem_filter.mpr ⟨hw, by rw [ht]; rfl⟩, p.2, ht⟩

end

/-! ### Polls -/

/-- What follows a pass changes nothing about the socket. -/
theorem frames_afterPass (hx : Stands good id n x) (hr : n.role ≠ .accepted)
    (hm : n.medium ≠ .acceptor) : Frames good id n x { x.armPending with inbox := [] } := by
  have h := frames_armPending hx hr hm
  have hstands : Stands good id n { x.armPending with inbox := [] } :=
    ⟨h.stands.found, h.stands.only, h.stands.calm⟩
  exact ⟨⟨hstands, h.isOpen, h.listener, h.profile, h.core, h.size, fun _ => rfl⟩, h.waiting, h.sent,
    h.calls⟩

/-- Nor does it when the protocol is told of its channels. -/
theorem frames_takeAnnouncements (hx : Stands good id n x) :
    Frames good id n x x.takeAnnouncements.2 :=
  ⟨.of_same hx hx.calm rfl rfl rfl rfl rfl rfl, rfl, rfl, fun _ _ => rfl⟩

variable [Network ν]

section

variable (hgood : Obliging good id) (hx : Stands good id n x) (ho : x.isOpen = true)

include hgood hx ho

/-- A poll is a pass that begins where nothing has changed about the socket. -/
theorem poll_pass : ∃ (y : Exchange ν) (ready : List Readiness), Frames good id n x y ∧
    (x.sockets.length ≤ x.profile.pollCapacity → Armed id x →
      ∃ r ∈ ready, r.socket = id ∧ r.writable = true) ∧
    x.poll = (.ok (ready.foldl serve y).armPending.inbox,
      { (ready.foldl serve y).armPending with inbox := [] }) := by
  obtain ⟨exceeded, hstart⟩ := exceed_unless (eventsFit x.profile.pollCapacity) .events x
  have hx' := frames_exceeded hx exceeded
  have hwatched : ({ x with exceeded } : Exchange ν).watched = x.watched := rfl
  unfold poll
  rw [if_neg (by simp [ho])]
  dsimp only
  rw [hstart]
  generalize ({ x with exceeded } : Exchange ν) = x' at hx' hwatched ⊢
  have hanswer := hx'.trans (frames_network hx'.stands
    (hgood.poll x'.watched x'.profile.pollCapacity x'.network hx'.stands.calm))
  refine ⟨_, _, hanswer, fun hroom ⟨s, hs, hwrite⟩ => ?_, rfl⟩
  refine hgood.tells _ _ _ hx'.stands.calm ?_ ⟨s.interest, ?_, hwrite⟩
  · rw [hwatched, hx'.profile, watched, List.length_map]
    exact hroom
  · rw [hwatched]
    exact List.mem_map_of_mem hs

end

section

variable (hgood : Obliging good id) (hx : Stands good id n x) (hr : n.role ≠ .accepted)
  (hm : n.medium ≠ .acceptor) (hnumbered : x.directory.core.Numbered) (ho : x.isOpen = true)

include hgood hx hr hm hnumbered ho

/-- As nothing arrives, a poll has nothing for the protocol. -/
theorem poll_silent (hempty : x.inbox = []) : x.poll.1 = .ok [] := by
  obtain ⟨y, ready, hy, -, heq⟩ := poll_pass hgood hx ho
  have hpass := hy.toLasts.trans
    (lasts_foldl_serve hgood hy.stands hr hm (hy.core.symm ▸ hnumbered) ready)
  rw [heq]
  exact congrArg Except.ok ((frames_armPending hpass.stands hr hm).inbox (hpass.inbox hempty))

/-- A poll changes nothing about the socket where nothing may be sent. -/
theorem frames_poll (hrests : Rests id x) : Frames good id n x x.poll.2 := by
  obtain ⟨y, ready, hy, -, heq⟩ := poll_pass hgood hx ho
  have hpass := hy.trans (frames_foldl_serve hgood hy.stands hr hm (hy.core.symm ▸ hnumbered)
    (hy.rests hx hr hnumbered hrests) ready)
  rw [heq]
  exact hpass.trans (frames_afterPass hpass.stands hr hm)

/-- **A poll clears the socket or asks for it,** where nobody holds it.  If it was asked for, and the
poll has room for every socket, the poll clears it. -/
theorem poll_clears_or_arms (hheld : x.isHeld id = false) :
    Clears good id n x x.poll.2 ∨ Frames good id n x x.poll.2 ∧ Armed id x.poll.2 ∧
      ¬ (x.sockets.length ≤ x.profile.pollCapacity ∧ Armed id x) := by
  obtain ⟨y, ready, hy, htold, heq⟩ := poll_pass hgood hx ho
  have hfree := (isHeld_of_calls hx hy.toLasts hr hnumbered hy.calls).trans hheld
  rw [heq]
  rcases foldl_serve_cases hgood hy.stands hr hm (hy.core.symm ▸ hnumbered) hfree ready
    with hclears | ⟨hframes, hnone⟩
  · have hpass := hy.trans_clears hx hr hclears
    exact .inl (hpass.trans_frames hx hr (frames_afterPass hpass.stands hr hm))
  · have hpass := hy.trans hframes
    have hafter := hpass.trans (frames_afterPass hpass.stands hr hm)
    -- It was not told of the socket, so what waits there still does, and is asked for.
    by_cases hempty : x.waiting id = []
    · exact .inl (hafter.clears hempty)
    have hmay : ¬ Rests id (ready.foldl serve y) := by
      rintro (h | h)
      · exact hempty (hpass.waiting.symm.trans h)
      · rw [isHeld_of_calls hx hpass.toLasts hr hnumbered hpass.calls, hheld] at h
        exact nomatch h
    refine .inr ⟨hafter, armed_armPending hpass.stands hr hm (hpass.core.symm ▸ hnumbered) hmay, ?_⟩
    rintro ⟨hroom, harmed⟩
    obtain ⟨r, hmem, hid, hw⟩ := htold hroom harmed
    exact nomatch (hnone r hmem hid).symm.trans hw

/-- **Two polls clear the socket,** where nobody holds it. -/
theorem clears_twice (hheld : x.isHeld id = false)
    (hroom : x.sockets.length ≤ x.profile.pollCapacity) :
    Clears good id n x x.poll.2.takeAnnouncements.2.poll.2.takeAnnouncements.2 := by
  have htold : ∀ {y : Exchange ν}, Clears good id n x y → Clears good id n x y.takeAnnouncements.2 :=
    fun h => h.trans_frames hx hr (frames_takeAnnouncements h.stands)
  refine htold ?_
  rcases poll_clears_or_arms hgood hx hr hm hnumbered ho hheld with hclears | ⟨hframes, harmed, -⟩
  · -- The first poll has cleared it, and then the second has nothing to do.
    have h := htold hclears
    exact h.trans_frames hx hr (frames_poll hgood h.stands hr hm (h.core.symm ▸ hnumbered)
      (h.isOpen.trans ho) (h.rests hx hr hnumbered))
  · -- The first poll has asked for it at the latest, so the second is told and sends.
    have h := hframes.trans (frames_takeAnnouncements hframes.stands)
    have hfree := (isHeld_of_calls hx h.toLasts hr hnumbered h.calls).trans hheld
    rcases poll_clears_or_arms hgood h.stands hr hm (h.core.symm ▸ hnumbered) (h.isOpen.trans ho)
      hfree with hclears | ⟨-, -, hunasked⟩
    · exact h.trans_clears hx hr hclears
    · exact absurd ⟨Nat.le_trans h.size (h.profile.symm ▸ hroom), harmed⟩ hunasked

end

end Exchange

/-! ### Cycles of a station -/

namespace Station

open Exchange

variable {ν ε : Type} [Network ν]

/-- **The protocol does nothing to the exchange** when it is told of a channel. -/
def Idle (st : Station ν ε) : Prop :=
  ∀ c, ∀ x : Exchange ν, ((st.protocol.configure c).runOut x).2.2 = x

/-- Scripts that do nothing leave the station as it is. -/
theorem performAll_of_idle {ss : List (Script ε Unit)}
    (h : ∀ s ∈ ss, ∀ x : Exchange ν, (s.runOut x).2.2 = x) (st : Station ν ε) :
    (st.performAll ss).2 = st := by
  induction ss with
  | nil => rfl
  | cons s ss ih =>
    have hfirst : (st.perform s).2 = st := by
      unfold perform
      dsimp only
      rw [h s List.mem_cons_self]
    rw [performAll_cons, hfirst]
    exact ih fun s hs => h s (List.mem_cons_of_mem _ hs)

/-- Then a cycle that has nothing for it is a poll, after which the announcements are taken. -/
theorem pollCycle_of_idle (st : Station ν ε) (h : st.Idle) (hsilent : st.exchange.poll.1 = .ok []) :
    st.pollCycle.2.2 = { st with exchange := st.exchange.poll.2.takeAnnouncements.2 } := by
  have hpolled : st.exchange.poll = (.ok [], st.exchange.poll.2) := Prod.ext hsilent rfl
  unfold pollCycle
  rw [hpolled]
  have htold : ∀ s ∈ st.exchange.poll.2.takeAnnouncements.1.map st.protocol.configure,
      ∀ x : Exchange ν, (s.runOut x).2.2 = x := by
    intro s hs x
    obtain ⟨c, -, rfl⟩ := List.mem_map.mp hs
    exact h c x
  exact performAll_of_idle htold _

/-- **No write is stranded.**  In every state of an open exchange, an outbound socket or a listener for
datagrams that is active, and on which nobody awaits a reply, is cleared by two poll cycles, if the
network takes what it is given, a poll has room for every socket, and the protocol asks for nothing
meanwhile. -/
theorem cleared_twice (st : Station ν ε) (h : st.exchange.Reachable) (ho : st.exchange.isOpen = true)
    {id : SocketId} {s : Socket} (hs : st.exchange.sockets.find? id = some s) (hp : s.phase = .active)
    (hr : s.role = .outbound ∨ s.role = .listener ∧ s.medium = .datagram)
    (hfree : ∀ c ∈ st.exchange.directory.onSocket id, st.exchange.directory.isAwaiting c = false)
    (hroom : st.exchange.sockets.length ≤ st.exchange.profile.pollCapacity) {good : ν → Prop}
    (hgood : Obliging good id) (hcalm : good st.exchange.network) (hidle : st.Idle) :
    Cleared id st.exchange st.pollCycle.2.2.pollCycle.2.2.exchange := by
  have hn : (id, s.nature) ∈ st.exchange.outline.sockets :=
    Sockets.mem_natures.mpr ⟨s, Sockets.mem_of_find? hs, rfl⟩
  have hstands : Stands good id s.nature st.exchange :=
    ⟨⟨s, hs, rfl, hp⟩, fun s' hs' =>
      h.sound.nature_eq (Sockets.mem_natures.mpr ⟨s', hs', rfl⟩) hn, hcalm⟩
  have hrole : s.nature.role ≠ .accepted := by
    rcases hr with hr | ⟨hr, -⟩ <;> rw [show s.nature.role = s.role from rfl, hr] <;> decide
  have hmedium : s.nature.medium ≠ .acceptor := by
    rcases hr with hr | ⟨-, hm⟩
    · -- Only a listener takes connections in.
      have hsuits : s.medium = s.role.medium st.exchange.profile.transport := h.sound.suits _ hn
      rw [show s.nature.medium = s.medium from rfl, hsuits, hr]
      cases st.exchange.profile.transport <;> decide
    · rw [show s.nature.medium = s.medium from rfl, hm]
      decide
  have hheld : st.exchange.isHeld id = false := by
    rw [Bool.eq_false_iff, Ne, isHeld_iff hstands hrole]
    rintro ⟨c, hc, ha⟩
    exact nomatch (hfree c hc).symm.trans ha
  have hclears := clears_twice hgood hstands hrole hmedium h.sound.numbered ho hheld hroom
  have hpolled : Lasts good id s.nature st.exchange st.exchange.poll.2 := by
    rcases poll_clears_or_arms hgood hstands hrole hmedium h.sound.numbered ho hheld
      with hfirst | ⟨hfirst, -⟩
    · exact hfirst.toLasts
    · exact hfirst.toLasts
  have hlasts := hpolled.trans (frames_takeAnnouncements hpolled.stands).toLasts
  have hfirst := pollCycle_of_idle st hidle
    (poll_silent hgood hstands hrole hmedium h.sound.numbered ho h.inbox)
  have hsecond := pollCycle_of_idle { st with exchange := st.exchange.poll.2.takeAnnouncements.2 } hidle
    (poll_silent hgood hlasts.stands hrole hmedium (hlasts.core.symm ▸ h.sound.numbered)
      (hlasts.isOpen.trans ho) (hlasts.inbox h.inbox))
  rw [hfirst, hsecond]
  exact hclears.cleared

end Station

/-! ### A barn -/

namespace Net

/-- **A network that takes everything,** and where nothing arrives. -/
structure Roomy where
  deriving Repr, DecidableEq

instance : Network Roomy where
  listen _ _ e n := (.ok e, n)
  connect _ _ e n := (.ok e, n)
  poll watched _ n := (watched.map fun (id, i) => ⟨id, i.read, i.write⟩, n)
  accept _ n := ([], n)
  adopt _ _ n := (.error .unreachable, n)
  failure? _ n := (none, n)
  receive _ n := (⟨[], .dry⟩, n)
  send _ _ data n := (.took data.length, n)
  close _ n := n

end Net

namespace Exchange

/-- In every state of it, whatever is sent is taken, and whoever asks is told. -/
theorem obliging_roomy (id : SocketId) : Obliging (fun _ : Roomy => True) id where
  poll _ _ _ _ := trivial
  tells ws _ _ _ _ := by
    rintro ⟨i, hi, hw⟩
    exact ⟨⟨id, i.read, i.write⟩, List.mem_map.mpr ⟨(id, i), hi, rfl⟩, rfl, hw⟩
  accept _ _ _ := ⟨rfl, trivial⟩
  failure _ _ _ := trivial
  receive _ _ _ := ⟨rfl, trivial⟩
  dry _ _ := rfl
  send _ _ _ _ _ := trivial
  takes _ _ _ _ := rfl
  close _ _ _ := trivial

/-- An outbound channel. -/
def crate : Channel :=
  ⟨0, 0, ⟨"crate", "*", .outbound⟩, .endpoint (.of (.v4 .unspecified) 9)⟩

/-- An exchange whose channel has a write that was held back by a call.  The wait for its reply has
run out, and nobody has asked for the socket since. -/
def barn : Exchange Roomy :=
  run { name := "barn", profile := { transport := .datagram }, network := {} } [
    .bind crate.subject crate.remote,
    .openUp,
    .ensureSocket crate,
    .beginCall crate,
    .enqueue crate [1] (some 1),
    .poll,
    .enqueue crate [2] none,
    .finishCall crate 1]

theorem reachable_barn : barn.Reachable :=
  ⟨"barn", { transport := .datagram }, {}, _, _, rfl, rfl⟩

/-- The socket of the barn: it is active, not asked for, and a write waits there. -/
theorem state_barn :
    barn.isOpen = true ∧
    barn.sockets.find? 1001 = some (.outgoing .datagram (.of (.v4 .unspecified) 9) (.of (.v4 .unspecified) 9)) ∧
    (∀ c ∈ barn.directory.onSocket 1001, barn.directory.isAwaiting c = false) ∧
    barn.sockets.length ≤ barn.profile.pollCapacity ∧
    barn.waiting 1001 = [(⟨1, crate, [2], 0, none⟩, none)] := by
  decide +kernel

end Exchange

namespace Station

open Exchange

/-- The protocol of the barn answers whatever it gets. -/
def answering (x : Exchange Roomy) : Station Roomy Unit :=
  ⟨x, echo⟩

/-- Two cycles send what waits at the barn. -/
theorem cleared_twice_barn :
    (barn.Reachable ∧ Obliging (fun _ : Roomy => True) 1001 ∧ (answering barn).Idle ∧
      barn.waiting 1001 ≠ []) ∧
      Cleared 1001 barn (answering barn).pollCycle.2.2.pollCycle.2.2.exchange := by
  obtain ⟨hopen, hfound, hfree, hroom, hwaiting⟩ := state_barn
  have hidle : (answering barn).Idle := fun _ _ => rfl
  refine ⟨⟨reachable_barn, obliging_roomy 1001, hidle, ?_⟩, ?_⟩
  · rw [hwaiting]
    exact List.cons_ne_nil _ _
  · exact cleared_twice (answering barn) reachable_barn hopen hfound rfl (.inl rfl) hfree hroom
      (obliging_roomy 1001) trivial hidle

end Station

end Switchboard
