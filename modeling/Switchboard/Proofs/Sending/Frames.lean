import Switchboard.Proofs.Calls.Onward
import Switchboard.Proofs.Sending.Waiting

/-!
# What the other sockets leave alone

While a pass serves other sockets, nothing changes about one that stands: the same writes wait there,
nothing goes through it, and the calls of its channels stay where they are (`Exchange.Frames`).  This
holds where nothing arrives, whatever else the network answers to the others: a connection may come to
stand or fail, and a send may be refused.

That a socket *stands* (`Exchange.Stands`) says that it is there and active, and that it is an outbound
socket or the listener for datagrams.  Then only the writes of the channels that are linked to it go
through it (`target?_of_link`, `link_of_target?`), so what waits at it does not depend on any other
socket.
-/

namespace Switchboard

open Net Settings Directory

namespace Exchange

variable {ν : Type}

/-- What went out through a socket, the earliest first. -/
def sentThrough (id : SocketId) (x : Exchange ν) : List Piece :=
  x.sendings.filter (·.socket == id)

/-- **The socket stands:** it is there, of a nature, and active.  The network is in a state that is
good. -/
structure Stands (good : ν → Prop) (id : SocketId) (n : Nature) (x : Exchange ν) : Prop where
  found : ∃ s, x.sockets.find? id = some s ∧ s.nature = n ∧ s.phase = .active
  only : ∀ s, (id, s) ∈ x.sockets → s.nature = n
  calm : good x.network

/-- What lasts while a socket stands, whoever is served. -/
structure Lasts (good : ν → Prop) (id : SocketId) (n : Nature) (x y : Exchange ν) : Prop where
  stands : Stands good id n y
  isOpen : y.isOpen = x.isOpen
  listener : y.listener = x.listener
  profile : y.profile = x.profile
  core : y.directory.core = x.directory.core
  size : y.sockets.length ≤ x.sockets.length
  inbox : x.inbox = [] → y.inbox = []

/-- **Nothing changed about the socket:** what waits there, what has gone through it, and the calls
of its channels. -/
structure Frames (good : ν → Prop) (id : SocketId) (n : Nature) (x y : Exchange ν) : Prop
    extends Lasts good id n x y where
  waiting : y.waiting id = x.waiting id
  sent : y.sentThrough id = x.sentThrough id
  calls : ∀ c, x.directory.socketOf c.id = some id → y.directory.call c = x.directory.call c

variable {good : ν → Prop} {id : SocketId} {n : Nature} {x y z : Exchange ν}

theorem Lasts.trans (h : Lasts good id n x y) (h' : Lasts good id n y z) : Lasts good id n x z where
  stands := h'.stands
  isOpen := h'.isOpen.trans h.isOpen
  listener := h'.listener.trans h.listener
  profile := h'.profile.trans h.profile
  core := h'.core.trans h.core
  size := Nat.le_trans h'.size h.size
  inbox hempty := h'.inbox (h.inbox hempty)

/-- Where the sockets are the same. -/
theorem Lasts.of_same (hx : Stands good id n x) (hgood : good y.network) (hs : y.sockets = x.sockets)
    (ho : y.isOpen = x.isOpen) (hl : y.listener = x.listener) (hp : y.profile = x.profile)
    (hc : y.directory.core = x.directory.core) (hi : y.inbox = x.inbox) : Lasts good id n x y where
  stands := ⟨hs ▸ hx.found, hs ▸ hx.only, hgood⟩
  isOpen := ho
  listener := hl
  profile := hp
  core := hc
  size := Nat.le_of_eq (congrArg List.length hs)
  inbox hempty := hi.trans hempty

theorem socketOf_of_core {d d' : Directory} (h : d'.core = d.core) (id : ChannelId) :
    d'.socketOf id = d.socketOf id := by
  unfold socketOf entry?
  rw [show d'.entries = d.entries from congrArg Core.entries h]

theorem Frames.trans (h : Frames good id n x y) (h' : Frames good id n y z) :
    Frames good id n x z where
  toLasts := h.toLasts.trans h'.toLasts
  waiting := h'.waiting.trans h.waiting
  sent := h'.sent.trans h.sent
  calls c hc := (h'.calls c ((socketOf_of_core h.core _).trans hc)).trans (h.calls c hc)

/-! ### Writes that go through a socket that stands -/

/-- The writes of a channel that is linked to the socket go through it, or nowhere. -/
theorem target?_of_link (h : Stands good id n x) (hm : n.medium ≠ .acceptor) {c : Channel}
    (hc : x.directory.socketOf c.id = some id) :
    x.target? c = if x.isListener id = false then some (id, none)
      else (x.far? c).bind fun far =>
        if n.medium = .datagram then some (id, some far) else none := by
  obtain ⟨s, hs, rfl, -⟩ := h.found
  unfold target? far?
  rw [hc]
  dsimp only
  rw [hs, show s.nature.medium = s.medium from rfl]
  by_cases hl : x.isListener id = false
  · rw [if_pos hl, if_pos hl]
  · rw [if_neg hl, if_neg hl]
    cases c.remote.endpoint? <|> (x.directory.status c).lastSender with
    | none => rfl
    | some far =>
      cases hmedium : s.medium with
      | datagram => simp [hmedium]
      | connection => simp [hmedium]
      | acceptor => exact absurd hmedium hm

/-- Only the writes of its channels go through the socket. -/
theorem link_of_target? (h : Stands good id n x) (hr : n.role ≠ .accepted) {c : Channel}
    {target : Option Endpoint} (ht : x.target? c = some (id, target)) :
    x.directory.socketOf c.id = some id := by
  unfold target? at ht
  split at ht
  · exact nomatch ht
  · rename_i link hlink
    split_ifs at ht with hl
    · rw [hlink, (Prod.mk.inj (Option.some.inj ht)).1]
    · split at ht
      · exact nomatch ht
      · split at ht
        · rw [hlink, (Prod.mk.inj (Option.some.inj ht)).1]
        · -- Connections that the listener took in are other sockets.
          obtain ⟨i, hi, heq⟩ := Option.map_eq_some_iff.mp ht
          obtain rfl := (Prod.mk.inj heq).1
          obtain ⟨s, hs, hp⟩ := Sockets.mem_idsWhere.mp (List.mem_of_mem_head? hi)
          rw [Bool.and_eq_true, beq_iff_eq] at hp
          rw [← h.only s hs] at hr
          exact absurd hp.1 hr
        · exact nomatch ht

/-- **What goes through the socket is told by the listener and the core.** -/
theorem through?_of_stands (hx : Stands good id n x) (hy : Stands good id n y)
    (hr : n.role ≠ .accepted) (hm : n.medium ≠ .acceptor) (hl : y.listener = x.listener)
    (hc : y.directory.core = x.directory.core) : y.through? id = x.through? id := by
  have hfar : ∀ c, y.far? c = x.far? c := by
    intro c
    unfold far?
    rw [lastSender_status, lastSender_status, hc]
  have hlistener : y.isListener id = x.isListener id := by rw [isListener, isListener, hl]
  -- Where the channel is linked to the socket, both targets are the same.
  have hlinked : ∀ c, x.directory.socketOf c.id = some id → y.target? c = x.target? c := by
    intro c hlink
    rw [target?_of_link hx hm hlink, target?_of_link hy hm ((socketOf_of_core hc _).trans hlink),
      hlistener, hfar]
  funext w
  refine Option.ext fun p => ?_
  rw [through?_eq_some, through?_eq_some]
  refine and_congr_right fun _ => ⟨fun ht => ?_, fun ht => ?_⟩
  · rwa [← hlinked _ ((socketOf_of_core hc _).symm.trans (link_of_target? hy hr ht))]
  · rwa [hlinked _ (link_of_target? hx hr ht)]

/-- Where the outbox, the calls and the record of what was sent are the same. -/
theorem Frames.of_same (hx : Stands good id n x) (hr : n.role ≠ .accepted)
    (hm : n.medium ≠ .acceptor) (h : Lasts good id n x y) (hq : y.outbox = x.outbox)
    (hs : y.sendings = x.sendings) (hcalls : ∀ c, y.directory.call c = x.directory.call c) :
    Frames good id n x y where
  toLasts := h
  waiting := by
    unfold Exchange.waiting
    rw [through?_of_stands hx h.stands hr hm h.listener h.core, hq]
  sent := by rw [sentThrough, sentThrough, hs]
  calls c _ := hcalls c

theorem Frames.refl (hx : Stands good id n x) : Frames good id n x x :=
  ⟨.of_same hx hx.calm rfl rfl rfl rfl rfl rfl, rfl, rfl, fun _ _ => rfl⟩

/-! ### Small steps -/

section

variable (hx : Stands good id n x)

include hx

/-- The network answers, and stays good. -/
theorem frames_network {m : ν} (hgood : good m) : Frames good id n x { x with network := m } :=
  ⟨.of_same hx hgood rfl rfl rfl rfl rfl rfl, rfl, rfl, fun _ _ => rfl⟩

theorem frames_exceeded (exceeded : Option Limit) : Frames good id n x { x with exceeded } :=
  ⟨.of_same hx hx.calm rfl rfl rfl rfl rfl rfl, rfl, rfl, fun _ _ => rfl⟩

/-- A socket changes, another one or only its interest. -/
theorem stands_modifySocket {i : SocketId} {f : Socket → Socket}
    (hf : i = id → ∀ s, (f s).nature = s.nature ∧ (f s).phase = s.phase) :
    Stands good id n (x.modifySocket i f) where
  found := by
    obtain ⟨s, hs, hn, hp⟩ := hx.found
    unfold modifySocket
    rw [Sockets.find?_modify]
    split_ifs with hid
    · rw [hs]
      obtain ⟨hnature, hphase⟩ := hf hid.symm s
      exact ⟨f s, rfl, hnature.trans hn, hphase.trans hp⟩
    · exact ⟨s, hs, hn, hp⟩
  only s hs := by
    obtain ⟨⟨j, s'⟩, hmem, heq⟩ := List.mem_map.mp hs
    dsimp only at heq
    split_ifs at heq with hji
    · obtain ⟨hj, rfl⟩ := Prod.mk.inj heq
      rw [(hf (hji.symm.trans hj) s').1]
      exact hx.only s' (hj ▸ hmem)
    · obtain ⟨rfl, rfl⟩ := Prod.mk.inj heq
      exact hx.only s' hmem
  calm := hx.calm

variable (hr : n.role ≠ .accepted) (hm : n.medium ≠ .acceptor)

include hr hm

theorem frames_modifySocket {i : SocketId} {f : Socket → Socket}
    (hf : i = id → ∀ s, (f s).nature = s.nature ∧ (f s).phase = s.phase) :
    Frames good id n x (x.modifySocket i f) :=
  .of_same hx hr hm
    ⟨stands_modifySocket hx hf, rfl, rfl, rfl, rfl, Nat.le_of_eq (List.length_map _), fun h => h⟩
    rfl rfl fun _ => rfl

theorem frames_disarm (i : SocketId) : Frames good id n x (x.disarm i) :=
  frames_modifySocket hx hr hm fun _ s => by split_ifs <;> exact ⟨rfl, rfl⟩

theorem frames_arm (i : SocketId) : Frames good id n x (x.arm i) :=
  frames_modifySocket hx hr hm fun _ s => by split_ifs <;> exact ⟨rfl, rfl⟩

theorem frames_announceAll (i : SocketId) (cs : List Channel) :
    Frames good id n x (x.announceAll i cs) := by
  have hsendings := congrArg Outline.sendings (outline_announceAll i cs x)
  rw [announceAll_eq] at hsendings ⊢
  exact .of_same hx hr hm (.of_same hx hx.calm rfl rfl rfl rfl rfl rfl) rfl hsendings
    fun _ => rfl

theorem frames_scheduleRetry (i : SocketId) (delay : Nat) :
    Frames good id n x (x.scheduleRetry i delay) := by
  obtain ⟨_, _, heq⟩ := scheduleRetry_eq i delay x
  rw [heq]
  exact .of_same hx hr hm (.of_same hx hx.calm rfl rfl rfl rfl rfl rfl) rfl rfl
    fun _ => rfl

theorem frames_setReconnecting (i : SocketId) (value : Bool) :
    Frames good id n x (x.onDirectory (·.setReconnecting i value)) :=
  .of_same hx hr hm (.of_same hx hx.calm rfl rfl rfl rfl (core_setReconnecting ..) rfl) rfl rfl
    fun c => call_setReconnecting i value _ c

end

/-! ### A pass that serves other sockets -/

variable [Network ν]

/-- **A network that takes what it is given:** nothing arrives, every send through the socket
succeeds completely, and a poll tells that the socket can be written if it was asked to and has room
for every socket.  What comes of the other sockets is left open. -/
structure Obliging (good : ν → Prop) (id : SocketId) : Prop where
  poll : ∀ ws capacity m, good m → good (Network.poll ws capacity m).2
  tells : ∀ ws capacity m, good m → ws.length ≤ capacity →
    (∃ i : Interest, (id, i) ∈ ws ∧ i.write = true) →
      ∃ r ∈ (Network.poll ws capacity m).1, r.socket = id ∧ r.writable = true
  accept : ∀ i m, good m → (Network.accept i m).1 = [] ∧ good (Network.accept i m).2
  failure : ∀ i m, good m → good (Network.failure? i m).2
  receive : ∀ i m, good m → (Network.receive i m).1.arrivals = [] ∧ good (Network.receive i m).2
  dry : ∀ m, good m → (Network.receive id m).1.ending = .dry
  send : ∀ i target data m, good m → good (Network.send i target data m).2
  takes : ∀ target data m, good m → (Network.send id target data m).1 = .took data.length
  close : ∀ i m, good m → good (Network.close i m)

section

variable (hgood : Obliging good id) (hx : Stands good id n x) (hr : n.role ≠ .accepted)
  (hm : n.medium ≠ .acceptor)

include hgood hx hr hm

theorem frames_closeSocket {i : SocketId} (hi : i ≠ id) : Frames good id n x (x.closeSocket i) := by
  have hsendings := congrArg Outline.sendings (outline_closeSocket i x)
  unfold closeSocket at hsendings ⊢
  split_ifs at hsendings ⊢
  · obtain ⟨s, hs, hs'⟩ := hx.found
    have hfound : (x.sockets.erase i).find? id = some s := by
      rw [Sockets.find?_erase, if_neg (Ne.symm hi), hs]
    exact .of_same hx hr hm
      ⟨⟨⟨s, hfound, hs'⟩, fun s hs => hx.only s (List.mem_of_mem_filter hs),
        hgood.close i _ hx.calm⟩, rfl, rfl, rfl, rfl, List.length_filter_le _ _, fun h => h⟩ rfl
      hsendings fun _ => rfl
  · exact .refl hx

theorem frames_reportFault {i : SocketId} (hi : i ≠ id) :
    Frames good id n x (reportFault i x).2 := by
  unfold reportFault
  split
  · exact .refl hx
  · split
    · exact .refl hx
    · exact frames_closeSocket hgood hx hr hm hi
    · split_ifs
      · exact .refl hx
      · have hphase : Frames good id n x
            (x.modifySocket i fun s => { s with phase := .retryScheduled }) :=
          frames_modifySocket hx hr hm fun h => absurd h hi
        have hnoted := frames_scheduleRetry hphase.stands hr hm i x.profile.retryInterval
        exact (hphase.trans hnoted).trans (frames_setReconnecting hnoted.stands hr hm i true)

omit [Network ν] hgood hr hm in
theorem lasts_sendBytes (i : SocketId) (s : Socket) (k : Nat) (w : Write) (target : Option Endpoint)
    (count : Nat) : Lasts good id n x (x.sendBytes i s k w target count) := by
  obtain ⟨directory, outbox, hcore, heq⟩ := sendBytes_eq i s k w target count x
  rw [heq]
  exact .of_same hx hx.calm rfl rfl rfl rfl hcore rfl

omit [Network ν] hgood hr in
/-- Bytes that go out through another socket are of a write that does not wait here. -/
theorem frames_sendBytes {i : SocketId} (hi : i ≠ id) (s : Socket) {k : Nat} {w : Write}
    {target : Option Endpoint} (hnext : x.nextWrite? i = some (k, w, target)) (count : Nat) :
    Frames good id n x (x.sendBytes i s k w target count) := by
  obtain ⟨hget, htarget, -⟩ := nextWrite?_spec hnext
  have hsendings : (x.sendBytes i s k w target count).sendings =
      x.sendings ++ [⟨i, w, min count w.remaining.length⟩] :=
    congrArg Outline.sendings (outline_sendBytes s target count hget)
  have hwaiting := waiting_sendBytes_of_ne hi s hnext count
  have hcalls : ∀ c, x.directory.socketOf c.id = some id →
      (x.sendBytes i s k w target count).directory.call c = x.directory.call c := by
    intro c hc
    -- The channel of the write is another one, since it is linked to another socket.
    have hid : c.id ≠ w.channel.id := fun heq => by
      have hlink := target?_of_link hx hm (heq ▸ hc)
      rw [htarget] at hlink
      split_ifs at hlink with hl hdatagram
      · exact hi (Prod.mk.inj (Option.some.inj hlink)).1
      · obtain ⟨far, -, hfar⟩ := Option.bind_eq_some_iff.mp hlink.symm
        exact hi (Prod.mk.inj (Option.some.inj hfar)).1.symm
      · simp at hlink
    obtain ⟨-, hsame⟩ | ⟨-, hmarked⟩ := sendBytes_cases i s k w target count x
    · rw [hsame]
    · rw [hmarked]
      cases w.call with
      | none => rfl
      | some g =>
        rw [Option.elim_some, call_modifyCall]
        exact if_neg fun h => hid h.2.2
  refine ⟨lasts_sendBytes hx i s k w target count, hwaiting, ?_, hcalls⟩
  unfold sentThrough
  rw [hsendings, List.filter_append, List.filter_cons_of_neg (by simpa using hi), List.filter_nil,
    List.append_nil]

/-- What an attempt to send through another socket comes to. -/
theorem frames_attempt {i : SocketId} (hi : i ≠ id) :
    match x.attempt i with
    | .again y | .rest y | .stop y => Frames good id n x y := by
  unfold attempt
  split_ifs
  · exact .refl hx
  · rcases hnext : x.nextWrite? i with _ | ⟨k, w, target⟩
    · exact .refl hx
    rcases x.sockets.find? i with _ | s
    · exact .refl hx
    dsimp only
    by_cases hacceptor : s.medium = .acceptor
    · rw [if_pos hacceptor]
      exact .refl hx
    rw [if_neg hacceptor]
    have hanswer := frames_network hx (hgood.send i (if s.medium = .datagram then target else none)
      w.remaining x.network hx.calm)
    generalize Network.send i _ w.remaining x.network = answer at hanswer
    obtain ⟨taken, network⟩ := answer
    cases taken with
    | wouldBlock => exact hanswer
    | failed cause => exact hanswer.trans (frames_reportFault hgood hanswer.stands hr hm hi)
    | took count =>
      dsimp only
      split_ifs
      · exact hanswer
      · exact hanswer.trans (frames_sendBytes hanswer.stands hm hi s hnext count)

/-- Sending through another socket. -/
theorem frames_sendAll {i : SocketId} (hi : i ≠ id) (fuel : Nat) :
    Frames good id n x (sendAll i fuel x) := by
  induction fuel generalizing x with
  | zero => exact .refl hx
  | succ fuel ih =>
    have hattempt := frames_attempt hgood hx hr hm hi
    unfold sendAll
    split <;> rename_i y heq <;> rw [heq] at hattempt
    · exact hattempt.trans (ih hattempt.stands)
    · exact hattempt.trans (frames_disarm hattempt.stands hr hm i)
    · exact hattempt

/-- Reading any socket, as nothing arrives.  The socket itself can still be used. -/
theorem frames_readSocket (i : SocketId) :
    Frames good id n x (x.readSocket i).2 ∧ (i = id → (x.readSocket i).1 = true) := by
  unfold readSocket
  split
  · rename_i hnone
    obtain ⟨s, hs, -⟩ := hx.found
    exact ⟨.refl hx, fun h => nomatch (h ▸ hnone).symm.trans hs⟩
  · rename_i s hs
    split
    · exact ⟨.refl hx, fun _ => rfl⟩
    · obtain ⟨exceeded, hstart⟩ := exceed_if (largestBuffer < x.profile.bufferSize) .buffer x
      have hx' := frames_exceeded hx exceeded
      dsimp only
      rw [hstart]
      generalize ({ x with exceeded } : Exchange ν) = x' at hx' ⊢
      obtain ⟨hnothing, hcalm⟩ := hgood.receive i x'.network hx'.stands.calm
      have hdry : i = id → (Network.receive i x'.network).1.ending = .dry := fun h =>
        h ▸ hgood.dry x'.network hx'.stands.calm
      have hread := hx'.trans (frames_network hx'.stands hcalm)
      generalize Network.receive i x'.network = answer at hnothing hdry hread
      obtain ⟨⟨arrivals, ending⟩, network⟩ := answer
      obtain rfl : arrivals = [] := hnothing
      have hsame : readable s.medium x'.profile.bufferSize ⟨[], ending⟩ = ⟨[], ending⟩ :=
        if_neg (by simp)
      dsimp only
      rw [hsame]
      have hfault : ending ≠ .dry → Frames good id n x (reportFault i { x' with network }).2 ∧
          (i = id → false = true) := fun hending =>
        have hi : i ≠ id := fun h => hending (hdry h)
        ⟨hread.trans (frames_reportFault hgood hread.stands hr hm hi), fun h => absurd h hi⟩
      cases ending with
      | dry => exact ⟨hread, fun _ => rfl⟩
      | closed => exact hfault nofun
      | failed cause =>
        by_cases hlistener : s.role = .listener
        · rw [if_pos hlistener]
          exact ⟨hread, fun _ => rfl⟩
        · rw [if_neg hlistener]
          exact hfault nofun

/-- Completing another connection. -/
theorem frames_finishConnect {i : SocketId} (hi : i ≠ id) :
    Frames good id n x (x.finishConnect i).2 := by
  unfold finishConnect
  split
  · have hanswer := frames_network hx (hgood.failure i x.network hx.calm)
    generalize Network.failure? i x.network = answer at hanswer
    obtain ⟨failure, network⟩ := answer
    cases failure with
    | none =>
      have hstands : Frames good id n x ({ x with network }.modifySocket i fun s =>
          { s with phase := .active, interest := ⟨true, true⟩ }) :=
        hanswer.trans (frames_modifySocket hanswer.stands hr hm fun h => absurd h hi)
      exact hstands.trans (frames_announceAll hstands.stands hr hm i _)
    | some cause => exact hanswer.trans (frames_reportFault hgood hanswer.stands hr hm hi)
  · exact .refl hx

omit hr hm in
/-- No connection waits at the listener. -/
theorem frames_acceptConnections (i : SocketId) : Frames good id n x (x.acceptConnections i) := by
  obtain ⟨hnothing, hcalm⟩ := hgood.accept i x.network hx.calm
  have hanswer := frames_network hx hcalm
  unfold acceptConnections
  generalize Network.accept i x.network = answer at hnothing hanswer
  obtain ⟨waiting, network⟩ := answer
  obtain rfl : waiting = [] := hnothing
  exact hanswer

theorem frames_exchangeData {i : SocketId} (hi : i ≠ id) (readable writable : Bool) :
    Frames good id n x (x.exchangeData i readable writable) := by
  have hread := (frames_readSocket hgood hx hr hm i).1
  have hwrite : ∀ {y : Exchange ν}, Frames good id n x y → Frames good id n x (y.writeSocket i) :=
    fun h => h.trans (frames_sendAll hgood h.stands hr hm hi _)
  cases readable with
  | false =>
    cases writable with
    | false => exact .refl hx
    | true => exact hwrite (.refl hx)
  | true =>
    rw [exchangeData, if_pos rfl]
    split <;> rename_i y heq <;> rw [heq] at hread
    · cases writable with
      | false => exact hread
      | true => exact hwrite hread
    · exact hread

/-- **Serving another socket** changes nothing about this one. -/
theorem frames_serve {ready : Readiness} (hi : ready.socket ≠ id) :
    Frames good id n x (x.serve ready) := by
  unfold serve
  split
  · exact .refl hx
  · split_ifs
    · exact .refl hx
    · exact frames_acceptConnections hgood hx ready.socket
    · exact .refl hx
    · have hconnect := frames_finishConnect hgood hx hr hm hi
      split <;> rename_i y heq <;> rw [heq] at hconnect
      · exact hconnect.trans (frames_exchangeData hgood hconnect.stands hr hm hi _ _)
      · exact hconnect
    · exact frames_exchangeData hgood hx hr hm hi _ _

end

end Exchange

end Switchboard
