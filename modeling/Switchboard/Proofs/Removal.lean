import Switchboard.Proofs.Holding
import Switchboard.Proofs.Refusals

/-!
# Channels that were let go

A channel that a reconfiguration leaves out is dead for the rest of the run, whoever still holds it:
nothing of it is sent, it is handed nothing and holds nobody back, and what is written to it is
refused (`Reachable.removed`).

What carries this is its number.  Numbers of channels are given out once, so one that no channel has
and that was given out before is never had again (`Retired.run`).  Everything else asks the directory
first: a buffer that is read goes to channels that are there, and so does what is sent come from
them, since every write that waits is of a channel that is there (`named_passSteps`).
-/

namespace Switchboard

open Net Settings Directory Outline

/-- The channels whose bytes were sent, or to whom a buffer went, in an event. -/
def Traffic.parties : Traffic → List Channel
  | .sent _ _ w _ => [w.channel]
  | .received _ _ _ (.caller c) => [c]
  | .received _ _ _ (.protocol cs) => cs
  | _ => []

theorem Traffic.parties_eq_nil {t : Traffic} (h : t.isTransfer = false) : t.parties = [] := by
  cases t with
  | sent socket target w count => exact nomatch h
  | received socket sender data taker => exact nomatch h
  | _ => rfl

namespace Exchange

variable {ν : Type} {x y z : Exchange ν}

/-! ### Who is named in the journal -/

/-- **All channels that sent or got something since are there.** -/
structure Named (since : List Traffic) (x y : Exchange ν) : Prop where
  journal : y.journal = since ++ x.journal
  parties : ∀ t ∈ since, ∀ c ∈ t.parties, c ∈ x.directory.channels

theorem named_of_still (h : Still x y) : ∃ since, Named since x y := by
  obtain ⟨since, hj, hstill⟩ := h.logged
  refine ⟨since, hj, fun t ht c hc => ?_⟩
  rw [Traffic.parties_eq_nil (hstill t ht)] at hc
  exact nomatch hc

theorem Named.trans {since since' : List Traffic} (h : Named since x y) (h' : Named since' y z)
    (hc : y.directory.channels = x.directory.channels) : Named (since' ++ since) x z where
  journal := by rw [h'.journal, h.journal, List.append_assoc]
  parties t ht := by
    rcases List.mem_append.mp ht with ht | ht
    · exact hc ▸ h'.parties t ht
    · exact h.parties t ht

/-- A buffer goes to channels that are there. -/
theorem named_route (h : x.outline.Sound) {id : SocketId} {s : Socket}
    (hs : x.sockets.find? id = some s) (sender : Option Endpoint) (data : Bytes) :
    ∃ since, Named since x (x.route id s.role sender data) := by
  have hthere : ∀ c ∈ x.audience id s.role sender, c ∈ x.directory.channels := by
    intro c hc
    obtain ⟨⟨e, he, rfl⟩, -⟩ := exists_of_mem_audience h hs hc
    exact List.mem_map_of_mem he
  unfold route
  dsimp only
  split
  · rename_i c hfind
    refine ⟨[_], rfl, fun t ht c' hc' => ?_⟩
    rw [List.mem_singleton.mp ht] at hc'
    rw [List.mem_singleton.mp hc']
    exact hthere c (List.mem_of_find?_eq_some hfind)
  · obtain ⟨_, hfold⟩ := foldl_deliver_eq sender data (x.audience id s.role sender) x
    rw [hfold]
    refine ⟨[_], rfl, fun t ht c' hc' => ?_⟩
    rw [List.mem_singleton.mp ht] at hc'
    exact hthere c' hc'

/-- What is sent is of a channel that is there. -/
theorem named_sendBytes (h : x.outline.Ordered) {id : SocketId} (s : Socket) {i : Nat} {w : Write}
    {target : Option Endpoint} (hnext : x.nextWrite? id = some (i, w, target)) (count : Nat) :
    ∃ since, Named since x (x.sendBytes id s i w target count) := by
  obtain ⟨_, _, -, hsent⟩ := sendBytes_eq id s i w target count x
  rw [hsent]
  refine ⟨[_], rfl, fun t ht c hc => ?_⟩
  rw [List.mem_singleton.mp ht] at hc
  rw [List.mem_singleton.mp hc]
  obtain ⟨e, he, hw⟩ := h.owned w (List.mem_of_getElem? (nextWrite?_spec hnext).1)
  exact List.mem_map.mpr ⟨e, he, hw⟩

variable [Network ν]

theorem named_passStep (h : x.outline.Sound) (ho : x.outline.Ordered) (hstep : PassStep x y) :
    ∃ since, Named since x y := by
  rcases still_passStep hstep with ⟨hstill, -⟩ | ⟨id, s, sender, data, hs, rfl⟩ |
    ⟨id, s, i, w, target, count, -, hnext, rfl⟩
  · exact named_of_still hstill
  · exact named_route h hs sender data
  · exact named_sendBytes ho s hnext count

/-- A pass brings no channel and lets none go. -/
theorem channels_passSteps (h : x.outline.Sound) (hsteps : PassSteps x y) :
    y.directory.channels = x.directory.channels :=
  congrArg (List.map Entry.channel) (entries_passMoves (passMoves_passSteps h hsteps)).1

theorem named_passSteps (h : x.outline.Sound) (ho : x.outline.Ordered) (hsteps : PassSteps x y) :
    ∃ since, Named since x y := by
  induction hsteps with
  | refl => exact named_of_still (.refl x)
  | tail hbefore hstep ih =>
    obtain ⟨since, hsince⟩ := ih
    have hmoves := passMoves_passSteps h hbefore
    obtain ⟨more, hmore⟩ := named_passStep (h.passMoves hmoves) (ho.passMoves h hmoves) hstep
    exact ⟨_, hsince.trans hmore (channels_passSteps h hbefore)⟩

/-- **Only channels that are there send or get something in an operation.** -/
theorem named_apply (h : x.Reachable) (op : Operation ν) : ∃ since, Named since x (x.apply op) := by
  by_cases hop : op = .poll
  · subst hop
    obtain ⟨-, heq⟩ | ⟨-, y, hpass, heq⟩ := poll_cases x
    · exact named_of_still (Still.of_same (congrArg inbox heq) (congrArg directory heq)
        (congrArg journal heq))
    · obtain ⟨since, hsince⟩ := named_passSteps h.sound h.ordered.1 hpass
      obtain ⟨_, _, harm⟩ := armPending_eq y
      have hjournal : x.poll.2.journal = y.journal := by rw [heq, harm]
      exact ⟨since, hjournal.trans hsince.journal, hsince.parties⟩
  · exact named_of_still (still_apply x hop)

/-! ### Numbers that are not given out again -/

/-- **The number was given to a channel that is gone.** -/
def Retired (id : ChannelId) (x : Exchange ν) : Prop :=
  id < x.outline.directory.senders.length ∧ ∀ c ∈ x.directory.channels, c.id ≠ id

namespace Retired

variable {id : ChannelId}

/-- **What is retired stays so.** -/
theorem run (h : x.outline.Sound) (hr : Retired id x) (ops : List (Operation ν)) :
    Retired id (x.run ops) := by
  have hgrows := grows_moves (moves_run h ops)
  refine ⟨Nat.lt_of_lt_of_le hr.1 hgrows.senders, fun c hc hid => ?_⟩
  obtain ⟨e, he, rfl⟩ := List.mem_map.mp hc
  rcases hgrows.channels e he with ⟨e', he', hold⟩ | hnew
  · exact hr.2 _ (List.mem_map_of_mem he') (hold ▸ hid)
  · exact Nat.not_lt.mpr hnew (hid.symm ▸ hr.1)

/-- Nobody with a retired number sends or gets anything. -/
theorem silent (h : x.Reachable) (hr : Retired id x) (ops : List (Operation ν)) :
    ∃ since, (x.run ops).journal = since ++ x.journal ∧
      ∀ t ∈ since, ∀ c ∈ t.parties, c.id ≠ id := by
  induction ops using List.reverseRecOn with
  | nil => exact ⟨[], rfl, nofun⟩
  | append_singleton ops op ih =>
    obtain ⟨since, hj, hsilent⟩ := ih
    obtain ⟨more, hmore⟩ := named_apply (h.run ops) op
    rw [run_snoc]
    refine ⟨more ++ since, by rw [hmore.journal, hj, List.append_assoc], fun t ht c hc => ?_⟩
    rcases List.mem_append.mp ht with ht | ht
    · exact (hr.run h.sound ops).2 c (hmore.parties t ht c hc)
    · exact hsilent t ht c hc

end Retired

/-! ### What a reconfiguration leaves out -/

omit [Network ν] in
/-- A channel that was bound is there, for the pair that was asked for. -/
theorem mem_of_bind {s : Subject} {r : Remote} {c : Channel} (h : (x.bind s r).1 = .ok c) :
    c ∈ (x.bind s r).2.directory.channels ∧ (c.subject, c.remote) = (s, r) := by
  unfold Exchange.bind enrol at h ⊢
  cases hv : vet s r x.profile.sharing.masks with
  | error e =>
    rw [hv] at h
    exact nomatch h
  | ok u =>
    rw [hv] at h
    cases hb : x.directory.bound? s r with
    | some c' =>
      -- The channel that there is already is the one that was found.
      rw [hb] at h
      obtain rfl : c' = c := by simpa using h
      obtain ⟨e, hfind, rfl⟩ := Option.map_eq_some_iff.mp hb
      refine ⟨List.mem_map_of_mem (List.mem_of_find?_eq_some hfind), ?_⟩
      simpa using List.find?_some hfind
    | none =>
      rw [hb] at h
      have hcame : (x.directory.append s r).1 ∈ (x.directory.append s r).2.channels :=
        List.mem_map_of_mem (List.mem_append_right _ (List.mem_singleton_self _))
      have hjoined := Undisturbed.attachInbound (x.directory.append s r).1
        { x with directory := (x.directory.append s r).2 }
      dsimp only at h ⊢
      split_ifs at h ⊢
      · split at h <;> rename_i heq <;> rw [heq] at hjoined
        · exact nomatch h
        · obtain rfl := Except.ok.inj h
          exact ⟨hjoined.channels ▸ hcame, rfl⟩
      · obtain rfl := Except.ok.inj h
        exact ⟨hcame, rfl⟩

theorem mem_of_bindAll (h : x.outline.Sound) {bindings : List (Subject × Remote)}
    {cs : List Channel} (hcs : (x.bindAll bindings).1 = .ok cs) {c : Channel} (hc : c ∈ cs) :
    c ∈ (x.bindAll bindings).2.directory.channels ∧ (c.subject, c.remote) ∈ bindings := by
  induction bindings generalizing x cs with
  | nil =>
    obtain rfl := Except.ok.inj hcs
    exact nomatch hc
  | cons binding bindings ih =>
    obtain ⟨s, r⟩ := binding
    have hbind := fun c => mem_of_bind (x := x) (s := s) (r := r) (c := c)
    have hsound := h.moves (moves_steps h (steady_bind s r x).steps)
    have hmore := Enlarged.bindAll hsound bindings
    have hrest : ∀ cs, ((x.bind s r).2.bindAll bindings).1 = .ok cs → c ∈ cs → _ := fun _ =>
      ih hsound
    unfold bindAll at hcs ⊢
    split at hcs <;> rename_i heq <;> rw [heq] at hbind hmore hrest
    · exact nomatch hcs
    · rename_i first y
      split at hcs <;> rename_i hall <;> rw [hall] at hmore hrest
      · exact nomatch hcs
      · obtain rfl := Except.ok.inj hcs
        rcases List.mem_cons.mp hc with rfl | hc
        · obtain ⟨hmem, hpair⟩ := hbind _ rfl
          exact ⟨hmore.channels hmem, hpair ▸ List.mem_cons_self⟩
        · obtain ⟨hmem, hpair⟩ := hrest _ rfl hc
          exact ⟨hmem, List.mem_cons_of_mem _ hpair⟩

/-- **The number of a channel that is left out is retired.** -/
theorem retired_reconfigure (h : x.outline.Sound) {bindings : List (Subject × Remote)}
    (hok : (x.reconfigure bindings).1 = .ok ()) {c : Channel} (hc : c ∈ x.directory.channels)
    (hout : (c.subject, c.remote) ∉ bindings) : Retired c.id (x.reconfigure bindings).2 := by
  have hgrows := grows_moves (moves_run h [.reconfigure bindings])
  obtain ⟨e, he, rfl⟩ := List.mem_map.mp hc
  refine ⟨Nat.lt_of_lt_of_le (h.numbered.below e he) hgrows.senders, fun c' hc' hid => ?_⟩
  -- Some kept channel would have the number, and it would be this one.
  have hbind := Enlarged.bindAll h bindings
  have hsound := h.moves (moves_steps h (SteadySteps.steps (steady_bindAll bindings x)))
  have hkept : ∀ cs, (x.bindAll bindings).1 = .ok cs → ∀ k ∈ cs, _ := fun _ hcs _ =>
    mem_of_bindAll h hcs
  unfold reconfigure at hok hc'
  split at hok <;> rename_i hrefusal <;> rw [hrefusal] at hc'
  · exact nomatch hok
  · dsimp only at hc'
    split at hok <;> rename_i y heq <;> rw [heq] at hbind hsound hkept hc'
    · exact nomatch hok
    · rename_i kept
      have hc' : c' ∈ (y.retain kept).directory.channels := hc'
      cases hany : kept.any (·.id == c'.id) with
      | false => exact not_mem_channels_retain hany hc'
      | true =>
        obtain ⟨k, hk, hkid⟩ := List.any_eq_true.mp hany
        obtain ⟨hmem, hpair⟩ := hkept kept rfl k hk
        obtain ⟨e', he', rfl⟩ := List.mem_map.mp hmem
        obtain ⟨e'', he'', hsame⟩ := List.mem_map.mp (hbind.channels hc)
        have hnumber : e'.channel.id = e''.channel.id := by
          rw [hsame, ← hid]
          exact beq_iff_eq.mp hkid
        rw [hsound.numbered.eq_of_id_eq he' he'' hnumber, hsame] at hpair
        exact hout hpair

/-! ### Channels that are dead -/

section

variable {c : Channel}

omit [Network ν] in
theorem knows_retired (hr : Retired c.id x) : x.directory.knows c = false := by
  by_contra hknows
  obtain ⟨e, he, rfl⟩ := mem_of_knows (eq_true_of_ne_false hknows)
  exact hr.2 _ (List.mem_map_of_mem he) rfl

/-- Who has no number gets no socket. -/
theorem ensureSocket_retired (hr : Retired c.id x) : ∃ e, x.ensureSocket c = (.error e, x) := by
  unfold ensureSocket
  split_ifs with hopen hknows
  · exact ⟨_, rfl⟩
  · exact ⟨_, rfl⟩
  · exact absurd (knows_retired hr) hknows

theorem enqueue_retired (hr : Retired c.id x) (data : Bytes) (call : Option Nat) :
    ∃ e, x.enqueue c data call = (.error e, x) := by
  obtain ⟨e, he⟩ := ensureSocket_retired hr
  unfold enqueue
  rw [he]
  exact ⟨e, rfl⟩

theorem write_retired (hr : Retired c.id x) (data : Bytes) :
    ∃ e, x.write c data = (.error e, x) := by
  obtain ⟨e, he⟩ := enqueue_retired hr data none
  unfold write
  rw [he]
  split_ifs
  · exact ⟨_, rfl⟩
  · exact ⟨e, rfl⟩

/-- A call may begin, but its buffer is refused, so that it is over at once. -/
theorem startCall_retired (hr : Retired c.id x) (data : Bytes) :
    ∃ e, (x.startCall c data).1 = .error e := by
  unfold startCall beginCall
  cases (x.directory.status c).call.start? with
  | none => exact ⟨_, rfl⟩
  | some started =>
    obtain ⟨g, b⟩ := started
    let begun := x.onDirectory (·.modifyCall c fun _ => b)
    have hcore : begun.directory.core = x.directory.core := core_modifyCall ..
    have hchannels : begun.directory.channels = x.directory.channels :=
      congrArg (fun d => d.entries.map Entry.channel) hcore
    have hr' : Retired c.id begun :=
      ⟨(congrArg (fun d => d.senders.length) hcore).symm ▸ hr.1, fun c' hc' => hr.2 c' (hchannels ▸ hc')⟩
    obtain ⟨e, he⟩ := enqueue_retired hr' data (some g)
    dsimp only
    rw [he]
    exact ⟨e, rfl⟩

/-- **A channel is dead.**  Since a certain moment it has sent nothing and got nothing, and whatever
is done with it now does nothing. -/
structure Dead (c : Channel) (since : List Traffic) (x : Exchange ν) : Prop where
  silent : ∀ t ∈ since, ∀ c' ∈ t.parties, c'.id ≠ c.id
  /-- Nothing of it waits to be sent. -/
  unsent : ∀ w ∈ x.outbox.writes, w.channel.id ≠ c.id
  /-- A poll gives nothing for it to the protocol. -/
  unread : ∀ ds, x.poll.1 = .ok ds → ∀ d ∈ ds, d.channel.id ≠ c.id
  /-- Whoever holds the writes of a socket back is another channel. -/
  idle : ∀ id holder, x.directory.awaiting? id = some holder → holder.id ≠ c.id
  refusesWrite : ∀ data, ∃ e, x.write c data = (.error e, x)
  refusesCall : ∀ data, (∃ e, (x.startCall c data).1 = .error e) ∧
    (x.startCall c data).2.visible = x.visible
  /-- A call that had begun before is refused its buffer, too. -/
  refusesBuffer : ∀ data call, ∃ e, x.enqueue c data call = (.error e, x)
  gone : ∀ c' ∈ x.directory.channels, c'.id ≠ c.id
  /-- Its number is not given to a channel that is bound, be it for the same pair. -/
  replaced : ∀ s r c', (x.bind s r).1 = .ok c' → c'.id ≠ c.id

/-- A channel with a retired number is dead. -/
theorem dead_of_retired (h : x.Reachable) (hr : Retired c.id x) {since : List Traffic}
    (hs : ∀ t ∈ since, ∀ c' ∈ t.parties, c'.id ≠ c.id) : Dead c since x where
  silent := hs
  unsent w hw := by
    obtain ⟨e, he, hc⟩ := h.ordered.1.owned w hw
    exact hr.2 _ (List.mem_map.mpr ⟨e, he, hc⟩)
  unread ds hds d hd := by
    cases ho : x.isOpen with
    | false =>
      rw [poll, if_pos ho] at hds
      exact nomatch hds
    | true =>
      obtain ⟨since', -, hpoll, hknown⟩ := h.hands_poll ho
      obtain rfl := Except.ok.inj (hpoll.symm.trans hds)
      obtain ⟨p, hp, rfl⟩ := List.mem_map.mp hd
      exact hr.2 _ (hknown p hp).1
  idle id holder hholder := by
    obtain ⟨e, he, -, hc⟩ := mem_onSocket.mp (List.mem_of_find?_eq_some hholder)
    exact hr.2 _ (List.mem_map.mpr ⟨e, he, hc⟩)
  refusesWrite := write_retired hr
  refusesCall data := by
    obtain ⟨e, he⟩ := startCall_retired hr data
    exact ⟨⟨e, he⟩, startCall_error he⟩
  refusesBuffer := enqueue_retired hr
  gone := hr.2
  replaced s r c' hc' :=
    (hr.run h.sound [.bind s r]).2 c' (mem_of_bind hc').1

/-- **A channel that is left out is dead for the rest of the run.**  Whatever is reconfigured, every
write that waits is of a channel that is there. -/
theorem Reachable.removed (h : x.Reachable) :
    (∀ w ∈ x.outbox.writes, w.channel ∈ x.directory.channels) ∧
    ∀ bindings c, (x.reconfigure bindings).1 = .ok () → c ∈ x.directory.channels →
      (c.subject, c.remote) ∉ bindings → ∀ ops, ∃ since,
        ((x.reconfigure bindings).2.run ops).journal = since ++ (x.reconfigure bindings).2.journal ∧
          Dead c since ((x.reconfigure bindings).2.run ops) := by
  refine ⟨fun w hw => List.mem_map.mpr (h.ordered.1.owned w hw), fun bindings c hok hc hout ops => ?_⟩
  have hreached : (x.reconfigure bindings).2.Reachable := h.run [.reconfigure bindings]
  have hr := retired_reconfigure h.sound hok hc hout
  obtain ⟨since, hj, hsilent⟩ := hr.silent hreached ops
  exact ⟨since, hj, dead_of_retired (hreached.run ops) (hr.run hreached.sound ops) hsilent⟩

/-- At the lab, a channel with a write that waits is left out, and its pair is bound again: what is
written to the new channel is sent, and the old one is dead. -/
theorem removed_lab :
    let lamp : Channel := ⟨0, 1, ⟨"lamp", "*", .outbound⟩, .endpoint (.of (.v4 .unspecified) 9)⟩
    let again : Channel := { lamp with id := 2 }
    let x := lab.run [.enqueue lamp [1] none]
    let ops : List (Operation Narrow) := [.bind lamp.subject lamp.remote,
      .enqueue again [2] none, .world { room := 8 }, .poll]
    (x.Reachable ∧ (x.reconfigure []).1 = .ok () ∧ lamp ∈ x.directory.channels ∧
      (lamp.subject, lamp.remote) ∉ ([] : List (Subject × Remote))) ∧
    ∃ since, ((x.reconfigure []).2.run ops).journal = since ++ (x.reconfigure []).2.journal ∧
      Dead lamp since ((x.reconfigure []).2.run ops) := by
  intro lamp again x ops
  have hreached : x.Reachable := reachable_lab.run _
  have hok : (x.reconfigure []).1 = .ok () := by decide +kernel
  have hthere : lamp ∈ x.directory.channels := by decide +kernel
  exact ⟨⟨hreached, hok, hthere, List.not_mem_nil⟩,
    (Reachable.removed hreached).2 [] lamp hok hthere List.not_mem_nil ops⟩

end

end Exchange

end Switchboard
