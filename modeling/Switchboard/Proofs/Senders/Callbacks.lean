import Switchboard.Proofs.Senders.Answers

/-!
# Whom a callback answers

A poll reads all that has arrived before the protocol is given the first buffer of it, so a masked
channel may have heard from several senders by then.  The protocol is not told who sent a buffer; the
channel remembers whom it heard last, which need not be the sender of the buffer at hand
(`Station.not_showsSenders`).

All through the callbacks of a poll, and until the next poll, a masked channel remembers the sender of
the last buffer that the poll has read for it, and an answer that is queued meanwhile goes there, as
long as the channel hears from nobody else (`Station.lastSender_atBuffer`).  Where a callback finds
itself is `Station.atBuffer`, and `Station.pollCycle_atBuffer` says that a poll gets there.
-/

namespace Switchboard

open Net Settings Relation Directory Outline Exchange

/-! ### What a poll hands on -/

/-- What an event hands to the protocol, each buffer with its sender. -/
def Traffic.handed : Traffic → List (Option Endpoint × Delivery)
  | .received _ sender data (.protocol cs) => cs.map fun c => (sender, ⟨c, data⟩)
  | _ => []

/-- **What some events hand to the protocol,** the earliest first; of the events, the latest stands
first. -/
def handedOn (events : List Traffic) : List (Option Endpoint × Delivery) :=
  events.reverse.flatMap Traffic.handed

theorem handedOn_append (later earlier : List Traffic) :
    handedOn (later ++ earlier) = handedOn earlier ++ handedOn later := by
  simp [handedOn]

theorem handedOn_cons (t : Traffic) (events : List Traffic) :
    handedOn (t :: events) = handedOn events ++ t.handed := by
  simp [handedOn]

theorem handedOn_eq_nil {events : List Traffic} (h : ∀ t ∈ events, t.isTransfer = false) :
    handedOn events = [] := by
  refine List.flatMap_eq_nil_iff.mpr fun t ht => ?_
  have hstill := h t (List.mem_reverse.mp ht)
  cases t with
  | received socket sender data taker => exact nomatch hstill
  | _ => rfl

/-- The sender of what was handed on, if that was for the channel. -/
def senderFor? (c : Channel) (p : Option Endpoint × Delivery) : Option Endpoint :=
  if p.2.channel = c then p.1 else none

theorem findSome?_map_senderFor? (c : Channel) (sender : Option Endpoint) (data : Bytes)
    (cs : List Channel) :
    (cs.map fun c' => (sender, (⟨c', data⟩ : Delivery))).findSome? (senderFor? c) =
      if c ∈ cs then sender else none := by
  induction cs with
  | nil => rfl
  | cons c' cs ih =>
    rw [List.map_cons, List.findSome?_cons, ih]
    by_cases hc : c' = c
    · cases sender <;> simp [senderFor?, hc]
    · simp [senderFor?, hc, Ne.symm hc]

/-- Whom the channel hears in an event is the sender of what the event hands on for it. -/
theorem heardBy?_eq_findSome? (c : Channel) (t : Traffic) :
    t.heardBy? c = t.handed.reverse.findSome? (senderFor? c) := by
  cases t with
  | received socket sender data taker =>
    cases taker with
    | caller c' => rfl
    | protocol cs =>
      simp only [Traffic.handed, Traffic.heardBy?, ← List.map_reverse, findSome?_map_senderFor?,
        List.mem_reverse]
  | _ => rfl

theorem lastHeard?_eq_findSome? (c : Channel) (events : List Traffic) :
    lastHeard? c events = (handedOn events).reverse.findSome? (senderFor? c) := by
  induction events with
  | nil => rfl
  | cons t events ih =>
    rw [handedOn_cons, List.reverse_append, List.findSome?_append, ← heardBy?_eq_findSome?, ← ih,
      ← List.singleton_append, lastHeard?_append, lastHeard?, List.findSome?_singleton]

/-- Where what is handed on for a channel has senders, the one whom it heard last is that of the last
buffer. -/
theorem exists_last_of_mem {c : Channel} {events : List Traffic}
    (hnamed : ∀ p ∈ handedOn events, p.2.channel = c → p.1 ≠ none)
    (hmem : ∃ p ∈ handedOn events, p.2.channel = c) :
    ∃ last data before after, lastHeard? c events = some last ∧
      handedOn events = before ++ (some last, ⟨c, data⟩) :: after ∧
        ∀ p ∈ after, p.2.channel ≠ c := by
  have hsome : lastHeard? c events ≠ none := by
    rw [lastHeard?_eq_findSome?]
    intro hnone
    obtain ⟨p, hp, hc⟩ := hmem
    have hsender := List.findSome?_eq_none_iff.mp hnone p (List.mem_reverse.mpr hp)
    rw [senderFor?, if_pos hc] at hsender
    exact hnamed p hp hc hsender
  obtain ⟨last, hlast⟩ := Option.ne_none_iff_exists'.mp hsome
  obtain ⟨after, ⟨sender, c', data⟩, before, heq, hsender, hafter⟩ :=
    List.findSome?_eq_some_iff.mp ((lastHeard?_eq_findSome? c events).symm.trans hlast)
  have hlist : handedOn events = before.reverse ++ (sender, ⟨c', data⟩) :: after.reverse := by
    have hrev := congrArg List.reverse heq
    simpa using hrev
  unfold senderFor? at hsender
  split_ifs at hsender with hc
  obtain rfl : c' = c := hc
  obtain rfl : sender = some last := hsender
  refine ⟨last, data, before.reverse, after.reverse, hlast, hlist, fun p hp hc => ?_⟩
  have hnone := hafter p (List.mem_reverse.mp hp)
  rw [senderFor?, if_pos hc] at hnone
  exact hnamed p (hlist ▸ List.mem_append_right _ (List.mem_cons_of_mem _ hp)) hc hnone

namespace Exchange

variable {ν : Type} {x y z : Exchange ν}

/-- **What was read for the protocol is in the inbox,** in the order in which it was read.  The
channels that it is for are there, and of what is for a masked channel the sender is known. -/
structure Hands (since : List Traffic) (x y : Exchange ν) : Prop where
  journal : y.journal = since ++ x.journal
  inbox : y.inbox = x.inbox ++ (handedOn since).map Prod.snd
  channels : y.directory.channels = x.directory.channels
  known : ∀ p ∈ handedOn since, p.2.channel ∈ x.directory.channels ∧
    (p.2.channel.remote.isMask = true → p.1 ≠ none)

theorem Hands.trans {since since' : List Traffic} (h : Hands since x y) (h' : Hands since' y z) :
    Hands (since' ++ since) x z where
  journal := by rw [h'.journal, h.journal, List.append_assoc]
  inbox := by rw [h'.inbox, h.inbox, handedOn_append, List.map_append, List.append_assoc]
  channels := h'.channels.trans h.channels
  known p hp := by
    rw [handedOn_append] at hp
    rcases List.mem_append.mp hp with hp | hp
    · exact h.known p hp
    · exact h.channels ▸ h'.known p hp

theorem hands_of_still (h : Still x y) (hc : y.directory.channels = x.directory.channels) :
    ∃ since, Hands since x y := by
  obtain ⟨since, hj, hstill⟩ := h.logged
  have hnone := handedOn_eq_nil hstill
  refine ⟨since, hj, ?_, hc, ?_⟩
  · rw [hnone, List.map_nil, List.append_nil]
    exact h.inbox
  · rw [hnone]
    exact nofun

theorem hands_route (h : x.outline.Sound) {id : SocketId} {s : Socket}
    (hs : x.sockets.find? id = some s) (sender : Option Endpoint) (data : Bytes) :
    ∃ since, Hands since x (x.route id s.role sender data) := by
  unfold route
  dsimp only
  split
  · rename_i c _
    have hchannels := (Undisturbed.modifyCall (f := fun b => (b.fulfil data).2)
      ((x.directory.call c).rests_fulfil data)).channels
    refine ⟨[.received id sender data (.caller c)], rfl, ?_, hchannels, nofun⟩
    simp [handedOn, Traffic.handed, record, onDirectory]
  · have hchannels := (Undisturbed.foldl_deliver sender data (x.audience id s.role sender) x).channels
    obtain ⟨_, hfold⟩ := foldl_deliver_eq sender data (x.audience id s.role sender) x
    refine ⟨[.received id sender data (.protocol (x.audience id s.role sender))], ?_, ?_, hchannels,
      fun p hp => ?_⟩
    · rw [hfold]
      rfl
    · rw [hfold]
      simp [handedOn, Traffic.handed, record]
    · have hp : p ∈ (x.audience id s.role sender).map fun c => (sender, (⟨c, data⟩ : Delivery)) := by
        simpa [handedOn, Traffic.handed] using hp
      obtain ⟨c, hc, rfl⟩ := List.mem_map.mp hp
      obtain ⟨⟨e, he, rfl⟩, hmask⟩ := exists_of_mem_audience h hs hc
      refine ⟨List.mem_map_of_mem he, fun hm => ?_⟩
      obtain ⟨-, far, rfl, -⟩ := hmask hm
      exact Option.some_ne_none far

theorem hands_sendBytes (id : SocketId) (s : Socket) (i : Nat) (w : Write)
    (target : Option Endpoint) (count : Nat) (x : Exchange ν) :
    ∃ since, Hands since x (x.sendBytes id s i w target count) := by
  obtain ⟨directory, outbox, hcore, hsent⟩ := sendBytes_eq id s i w target count x
  rw [hsent]
  exact ⟨[_], rfl, by simp [handedOn, Traffic.handed],
    congrArg (fun d => d.entries.map Entry.channel) hcore, nofun⟩

variable [Network ν]

theorem hands_passStep (h : x.outline.Sound) (hstep : PassStep x y) : ∃ since, Hands since x y := by
  rcases still_passStep hstep with ⟨hstill, hcalm⟩ | ⟨id, s, sender, data, hs, rfl⟩ |
    ⟨id, s, i, w, target, count, hs, hnext, rfl⟩
  · exact hands_of_still hstill hcalm.channels
  · exact hands_route h hs sender data
  · exact hands_sendBytes id s i w target count x

theorem hands_passSteps (h : x.outline.Sound) (hsteps : PassSteps x y) :
    ∃ since, Hands since x y := by
  induction hsteps with
  | refl => exact hands_of_still (.refl x) rfl
  | tail hbefore hstep ih =>
    obtain ⟨since, hsince⟩ := ih
    obtain ⟨more, hmore⟩ := hands_passStep (h.passMoves (passMoves_passSteps h hbefore)) hstep
    exact ⟨_, hsince.trans hmore⟩

/-- Between operations, the inbox is empty. -/
theorem Reachable.inbox (h : x.Reachable) : x.inbox = [] := by
  obtain ⟨name, profile, network, start, ops, hc, rfl⟩ := h
  induction ops using List.reverseRecOn with
  | nil =>
    unfold create at hc
    split at hc
    · exact nomatch hc
    · rw [← Except.ok.inj hc]
      rfl
  | append_singleton ops op ih =>
    rw [run_snoc]
    by_cases hop : op = .poll
    · subst hop
      obtain ⟨-, heq⟩ | ⟨-, y, -, heq⟩ := poll_cases (start.run ops)
      · exact (congrArg Exchange.inbox heq).trans ih
      · exact congrArg Exchange.inbox heq
    · exact (still_apply _ hop).inbox.trans ih

/-- **A poll gives what was read for the protocol,** and says so in its journal. -/
theorem Reachable.hands_poll (h : x.Reachable) (ho : x.isOpen = true) :
    ∃ since, x.poll.2.journal = since ++ x.journal ∧
      x.poll.1 = .ok ((handedOn since).map Prod.snd) ∧
      ∀ p ∈ handedOn since, p.2.channel ∈ x.directory.channels ∧
        (p.2.channel.remote.isMask = true → p.1 ≠ none) := by
  obtain ⟨y, hpass, heq⟩ := poll_eq ho
  obtain ⟨since, hsince⟩ := hands_passSteps h.sound hpass
  obtain ⟨_, _, harm⟩ := armPending_eq y
  refine ⟨since, ?_, ?_, hsince.known⟩
  · rw [heq, harm]
    exact hsince.journal
  · rw [heq, hsince.inbox, h.inbox, List.nil_append]

/-- **What is queued for the channel goes to an endpoint,** each piece of it, unless the channel hears
from somebody before the piece leaves. -/
def RepliesTo (x : Exchange ν) (c : Channel) (far : Endpoint) : Prop :=
  ∀ data call, (x.enqueue c data call).1 = .ok true → ∀ ops later earlier id target w count,
    ((x.enqueue c data call).2.run ops).journal = later ++ .sent id target w count :: earlier →
      w.ticket = x.outbox.nextTicket → (w.channel = c ∧ w.data = data) ∧
        ∃ since, earlier = since ++ x.journal ∧ target = (lastHeard? c since).or (some far)

theorem Reachable.repliesTo (h : x.Reachable) {c : Channel} (hm : c.remote.isMask = true)
    {far : Endpoint} (hfar : x.directory.lastSender c = some far) : x.RepliesTo c far := by
  intro data call hq ops later earlier id target w count hj ht
  rw [← hfar]
  exact h.target_eq_lastHeard hm hq ops hj ht

end Exchange

namespace Station

variable {ν ε : Type} [Network ν]

/-! ### The callbacks of a poll -/

/-- **What the protocol finds when it is given a buffer** of a poll: the sockets that became active
were told, and the buffers before it were given. -/
def atBuffer (i : Nat) (st : Station ν ε) : Station ν ε :=
  match st.exchange.poll with
  | (.error _, x) => { st with exchange := x }
  | (.ok ds, x) =>
    ((announce { st with exchange := x }).2.performAll
      ((ds.take i).map fun d => st.protocol.parse d.channel d.data)).2

/-- **The channel shows who sent the buffer** that the protocol is given, and an answer that is queued
then goes there, unless the channel hears from somebody else before. -/
def ShowsSenders (st : Station ν ε) : Prop :=
  ∀ since, st.exchange.poll.2.journal = since ++ st.exchange.journal →
    ∀ i sender d, (handedOn since)[i]? = some (some sender, d) → d.channel.remote.isMask = true →
      d.channel.direction = .inbound →
        (st.atBuffer i).exchange.directory.lastSender d.channel = some sender ∧
          (st.atBuffer i).exchange.RepliesTo d.channel sender

/-- A protocol that sends back whatever it gets. -/
def echo : Protocol Unit where
  parse c data := .write c data fun _ => .done ()
  command _ _ := .done false

/-- At the lobby, a buffer of the guest has arrived and one of the stranger after it. -/
def doorway : Station Narrow Unit where
  exchange := (lobby .datagram).run [
    .bind porch.subject porch.remote, .openUp, .ensureSocket porch,
    .world { arrivals := [(1000, ⟨[1], guest⟩), (1000, ⟨[2], stranger⟩)] }]
  protocol := echo

/-- When the protocol is given the buffer of the guest, the channel remembers the stranger. -/
theorem state_doorway :
    (doorway.exchange.isOpen = true ∧ doorway.exchange.poll.2.journal =
      [.received 1000 (some stranger) [2] (.protocol [porch]),
        .received 1000 (some guest) [1] (.protocol [porch])] ++ doorway.exchange.journal) ∧
    (doorway.atBuffer 0).exchange.directory.lastSender porch = some stranger := by
  decide +kernel

/-- **A callback need not see who sent its buffer,** where several senders were read in one poll. -/
theorem not_showsSenders : doorway.exchange.Reachable ∧ ¬ doorway.ShowsSenders := by
  obtain ⟨⟨-, hj⟩, hlast⟩ := state_doorway
  refine ⟨(reachable_lobby _).run _, fun h => ?_⟩
  have hguest := (h _ hj 0 guest ⟨porch, [1]⟩ rfl rfl rfl).1
  exact absurd (hlast.symm.trans hguest) (by decide)

/-! ### What a callback does see -/

/-- A poll gives the protocol a buffer where `atBuffer` says, and the ones after it afterwards. -/
theorem pollCycle_atBuffer {st : Station ν ε} {ds : List Delivery} {x : Exchange ν}
    (hp : st.exchange.poll = (.ok ds, x)) {i : Nat} {d : Delivery} (hd : ds[i]? = some d) :
    st.pollCycle.2.2 = (((st.atBuffer i).perform (st.protocol.parse d.channel d.data)).2.performAll
      ((ds.drop (i + 1)).map fun d => st.protocol.parse d.channel d.data)).2 := by
  have hprotocol : (announce { st with exchange := x }).2.protocol = st.protocol :=
    protocol_performAll _ _
  unfold pollCycle atBuffer
  rw [hp]
  dsimp only
  rw [hprotocol]
  exact performAll_map_at _ hd _

/-- **What a poll notes** is what the protocol notes when it is told of the channels, and then what it
notes for each buffer, where it is given it, in the order in which they were read. -/
theorem notes_pollCycle {st : Station ν ε} {ds : List Delivery} {x : Exchange ν}
    (hp : st.exchange.poll = (.ok ds, x)) :
    st.pollCycle.2.1 = (announce { st with exchange := x }).1 ++ (ds.mapIdx fun i d =>
      ((st.atBuffer i).perform (st.protocol.parse d.channel d.data)).1).flatten := by
  have hprotocol : (announce { st with exchange := x }).2.protocol = st.protocol :=
    protocol_performAll _ _
  unfold pollCycle atBuffer
  rw [hp]
  dsimp only
  rw [hprotocol, notes_performAll_map]

/-- From the poll to a buffer of it, nothing is polled again. -/
theorem unpolled_atBuffer (st : Station ν ε) (i : Nat) :
    Unpolled st.exchange.poll.2 (st.atBuffer i).exchange := by
  unfold atBuffer
  split <;> rename_i heq <;> rw [heq]
  · exact .refl _
  · exact (unpolled_announce _).trans (unpolled_performAll _ _)

/-- **In the callbacks of a poll, a masked channel remembers the last sender of the poll.**  The
protocol is given what was read, buffer by buffer; from the poll to the next one, whatever is done
meanwhile, a masked channel remembers who sent the last of the buffers that were for it, and what is
queued for the channel goes to that sender. -/
theorem lastSender_atBuffer {st : Station ν ε} (h : st.exchange.Reachable)
    (ho : st.exchange.isOpen = true) :
    ∃ since, st.exchange.poll.2.journal = since ++ st.exchange.journal ∧
      st.exchange.poll.1 = .ok ((handedOn since).map Prod.snd) ∧
      (∀ i p, (handedOn since)[i]? = some p →
        Unpolled st.exchange.poll.2 (st.atBuffer i).exchange ∧
        st.pollCycle.2.2 =
          (((st.atBuffer i).perform (st.protocol.parse p.2.channel p.2.data)).2.performAll
            (((handedOn since).drop (i + 1)).map fun q => st.protocol.parse q.2.channel q.2.data)).2) ∧
      ∀ p ∈ handedOn since, p.2.channel.remote.isMask = true →
        ∃ last data before after,
          handedOn since = before ++ (some last, ⟨p.2.channel, data⟩) :: after ∧
          (∀ q ∈ after, q.2.channel ≠ p.2.channel) ∧
          ∀ x, Unpolled st.exchange.poll.2 x →
            x.directory.lastSender p.2.channel = some last ∧ x.RepliesTo p.2.channel last := by
  obtain ⟨since, hj, hds, hknown⟩ := h.hands_poll ho
  refine ⟨since, hj, hds, fun i p hp => ⟨unpolled_atBuffer st i, ?_⟩, fun p hp hm => ?_⟩
  · have hgiven : ((handedOn since).map Prod.snd)[i]? = some p.2 := by
      rw [List.getElem?_map, hp, Option.map_some]
    have hcycle := pollCycle_atBuffer (Prod.ext hds rfl) hgiven
    rw [← List.map_drop, List.map_map] at hcycle
    exact hcycle
  · obtain ⟨last, data, before, after, hlast, hlist, hafter⟩ := exists_last_of_mem
      (fun q hq hc => (hknown q hq).2 (hc ▸ hm)) ⟨p, hp, rfl⟩
    have hsender : st.exchange.poll.2.directory.lastSender p.2.channel = some last := by
      obtain ⟨since', hsince⟩ := h.recalls_run (hknown p hp).1 hm [.poll]
      obtain rfl := List.append_cancel_right (hj.symm.trans hsince.journal)
      exact hsince.sender.trans (by rw [hlast, Option.some_or])
    refine ⟨last, data, before, after, hlist, hafter, fun x hx => ?_⟩
    obtain ⟨ops, hops, rfl⟩ := hx
    have hsame := ((still_run _ hops).senders p.2.channel).trans hsender
    exact ⟨hsame, ((h.run [.poll]).run ops).repliesTo hm hsame⟩

/-- At the doorway, the callback for the buffer of the guest answers the stranger. -/
theorem lastSender_atBuffer_doorway :
    (doorway.exchange.Reachable ∧ doorway.exchange.isOpen = true) ∧
      (doorway.atBuffer 0).exchange.directory.lastSender porch = some stranger ∧
      (doorway.atBuffer 0).exchange.RepliesTo porch stranger := by
  obtain ⟨⟨hopen, hjournal⟩, hstranger⟩ := state_doorway
  have hreached : doorway.exchange.Reachable := (reachable_lobby _).run _
  obtain ⟨since, hj, -, hcallback, hsees⟩ := lastSender_atBuffer hreached hopen
  obtain rfl := List.append_cancel_right (hj.symm.trans hjournal)
  obtain ⟨last, -, -, -, -, -, hlast⟩ := hsees (some guest, ⟨porch, [1]⟩) List.mem_cons_self rfl
  obtain ⟨hremembered, hreplies⟩ := hlast _ (hcallback 0 _ rfl).1
  obtain rfl := Option.some.inj (hremembered.symm.trans hstranger)
  exact ⟨⟨hreached, hopen⟩, hremembered, hreplies⟩

end Station

end Switchboard
