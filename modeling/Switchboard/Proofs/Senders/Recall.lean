import Switchboard.Proofs.Destinations
import Switchboard.Proofs.Senders.Still
import Mathlib.Data.List.Induction

/-!
# Whom a channel remembers

A masked channel remembers the sender of the last buffer that was handed to the protocol for it, and
what is sent for it goes there.  Both are read off the journal: `lastHeard?` finds the sender, and
`Exchange.Recalls` says that the channel remembers what the journal says, on top of what it
remembered before, and that every piece sent for it went to whom it had heard last by then.  Every
run keeps it so (`Reachable.recalls_run`).

A reply that a caller took is no part of this: the channel does not remember who sent it.
-/

namespace Switchboard

open Net Settings Relation Directory Outline

/-! ### The journal -/

/-- Whom the channel hears in an event: the sender of a buffer that the protocol got for it. -/
def Traffic.heardBy? (c : Channel) : Traffic → Option Endpoint
  | .received _ sender _ (.protocol cs) => if c ∈ cs then sender else none
  | _ => none

/-- **Whom the channel heard last** in some events, the latest of which stands first. -/
def lastHeard? (c : Channel) (events : List Traffic) : Option Endpoint :=
  events.findSome? (Traffic.heardBy? c)

theorem lastHeard?_append (c : Channel) (later earlier : List Traffic) :
    lastHeard? c (later ++ earlier) = (lastHeard? c later).or (lastHeard? c earlier) :=
  List.findSome?_append

/-- Where no data was read, nobody was heard. -/
theorem lastHeard?_eq_none {c : Channel} {events : List Traffic}
    (h : ∀ t ∈ events, t.isTransfer = false) : lastHeard? c events = none := by
  refine List.findSome?_eq_none_iff.mpr fun t ht => ?_
  have hstill := h t ht
  cases t with
  | received socket sender data taker => exact nomatch hstill
  | _ => rfl

namespace Exchange

variable {ν : Type} {x y z : Exchange ν} {c : Channel}

/-- **The channel remembers whom it heard last,** and what was sent for it went there. -/
structure Recalls (c : Channel) (since : List Traffic) (x y : Exchange ν) : Prop where
  journal : y.journal = since ++ x.journal
  sender : y.directory.lastSender c = (lastHeard? c since).or (x.directory.lastSender c)
  sent : ∀ later earlier id target w count, since = later ++ .sent id target w count :: earlier →
    w.channel = c → target = (lastHeard? c earlier).or (x.directory.lastSender c)

namespace Recalls

variable {since since' : List Traffic}

theorem of_still (h : Still x y) : ∃ since, Recalls c since x y := by
  obtain ⟨since, hj, hstill⟩ := h.logged
  refine ⟨since, hj, ?_, fun later earlier id target w count heq => ?_⟩
  · rw [lastHeard?_eq_none hstill, Option.none_or]
    exact h.senders c
  · have hmem : Traffic.sent id target w count ∈ since := heq ▸ by simp
    exact nomatch hstill _ hmem

/-- Where one event happened. -/
theorem of_event {t : Traffic} (hj : y.journal = t :: x.journal)
    (hs : y.directory.lastSender c = (t.heardBy? c).or (x.directory.lastSender c))
    (hsent : ∀ id target w count, t = .sent id target w count → w.channel = c →
      target = x.directory.lastSender c) : Recalls c [t] x y where
  journal := hj
  sender := by
    rw [hs, lastHeard?, List.findSome?_singleton]
  sent later earlier id target w count heq hw := by
    rcases List.cons_eq_append_iff.mp heq with ⟨rfl, hcons⟩ | ⟨rest, -, hrest⟩
    · obtain ⟨ht, rfl⟩ := List.cons.inj hcons
      exact hsent id target w count ht.symm hw
    · simp at hrest

theorem trans (h : Recalls c since x y) (h' : Recalls c since' y z) :
    Recalls c (since' ++ since) x z where
  journal := by rw [h'.journal, h.journal, List.append_assoc]
  sender := by rw [h'.sender, h.sender, lastHeard?_append, Option.or_assoc]
  sent later earlier id target w count heq hw := by
    rcases List.append_eq_append_iff.mp heq with ⟨more, rfl, hrest⟩ | ⟨more, rfl, hrest⟩
    · exact h.sent more earlier id target w count hrest hw
    · cases more with
      | nil => exact h.sent [] earlier id target w count hrest.symm hw
      | cons t more =>
        -- What was sent after the middle state knew what the channel had heard before it.
        obtain rfl := (List.cons.inj hrest).1
        have hearlier : earlier = more ++ since := (List.cons.inj hrest).2
        rw [h'.sent later more id target w count rfl hw, h.sender, hearlier, lastHeard?_append,
          Option.or_assoc]

end Recalls

/-! ### Reading -/

theorem lastSender_deliver {sender : Option Endpoint} (data : Bytes) (hm : c.remote.isMask = true)
    (hk : x.directory.Keeps c) {c' : Channel} (hown : c'.id = c.id → c' = c) :
    (deliver sender data x c').directory.lastSender c =
      (if c' = c then sender else none).or (x.directory.lastSender c) := by
  cases sender with
  | none => simp [deliver]
  | some e =>
    unfold deliver
    by_cases hc : c' = c
    · subst hc
      simp [hm, onDirectory, lastSender, status_modifyStatus, hk]
    · have hid : ¬ c.id = c'.id := fun hid => hc (hown hid.symm)
      dsimp only
      split_ifs <;> simp [onDirectory, lastSender, status_modifyStatus, hid]

/-- Handing a buffer on, a masked channel hears its sender, if it is among those it is for. -/
theorem lastSender_foldl_deliver {sender : Option Endpoint} (data : Bytes) {cs : List Channel}
    (hm : c.remote.isMask = true) (hk : x.directory.Keeps c)
    (hown : ∀ c' ∈ cs, c'.id = c.id → c' = c) :
    (cs.foldl (deliver sender data) x).directory.lastSender c =
      (if c ∈ cs then sender else none).or (x.directory.lastSender c) := by
  induction cs generalizing x with
  | nil => simp
  | cons c' cs ih =>
    have hk' := ((Undisturbed.deliver sender data x c').keeps c).mpr hk
    rw [List.foldl_cons, ih hk' fun c₀ h => hown c₀ (List.mem_cons_of_mem _ h),
      lastSender_deliver data hm hk (hown c' List.mem_cons_self), ← Option.or_assoc]
    by_cases hc : c' = c
    · subst hc
      by_cases hcs : c' ∈ cs <;> cases sender <;> simp [hcs]
    · simp [hc, Ne.symm hc]

theorem recalls_route (h : x.outline.Sound) (hc : Heard c x.outline) (hm : c.remote.isMask = true)
    {id : SocketId} {s : Socket} (hs : x.sockets.find? id = some s) (sender : Option Endpoint)
    (data : Bytes) : ∃ since, Recalls c since x (x.route id s.role sender data) := by
  unfold route
  dsimp only
  split
  · rename_i c' _
    have hstill := Still.modifyCall c' (fun b => (b.fulfil data).2) x
    exact ⟨[.received id sender data (.caller c')], .of_event rfl (hstill.senders c) nofun⟩
  · refine ⟨[.received id sender data (.protocol (x.audience id s.role sender))],
      .of_event ?_ ?_ nofun⟩
    · obtain ⟨_, hfold⟩ := foldl_deliver_eq sender data (x.audience id s.role sender) x
      rw [hfold]
      rfl
    · have hk : x.directory.Keeps c := ⟨hc.home, Nat.lt_of_lt_of_eq hc.made (List.length_map _)⟩
      refine lastSender_foldl_deliver data hm hk fun c' hc' hid => ?_
      obtain ⟨⟨e, he, rfl⟩, -⟩ := exists_of_mem_audience h hs hc'
      exact hc.own e he hid

/-! ### Sending -/

/-- What is sent for a masked channel goes to whom it has heard from last: on a listener for
datagrams it is addressed there, and over connections the one from there was chosen. -/
theorem target_of_sent (h : x.outline.Sound) (hc : Heard c x.outline) (hm : c.remote.isMask = true)
    {id : SocketId} {s : Socket} (hs : x.sockets.find? id = some s) {target : Option Endpoint}
    (ht : x.target? c = some (id, target)) : (target <|> s.farEnd) = x.directory.lastSender c := by
  have hn : (id, s.nature) ∈ x.outline.sockets :=
    Sockets.mem_natures.mpr ⟨s, Sockets.mem_of_find? hs, rfl⟩
  have hfar : x.far? c = x.directory.lastSender c := by
    unfold far?
    cases hr : c.remote with
    | endpoint e =>
      rw [hr] at hm
      exact nomatch hm
    | mask host port => rfl
  rcases links_of_target? h ht with ⟨⟨e, he, hid, hlink⟩, hlistener⟩ | ⟨l, n, hl, -, hn', hr, hf⟩
  · -- A masked channel is linked to the listener alone.
    obtain rfl := hc.own e he hid
    rcases h.nature_of_link he hlink hn with ⟨hr, -⟩ | ⟨-, remote, -, hremote⟩
    · obtain ⟨htarget, hne, -⟩ := hlistener (h.only _ hn hr)
      obtain ⟨far, rfl⟩ := Option.ne_none_iff_exists'.mp hne
      exact htarget.trans hfar
    · rw [hremote] at hm
      exact nomatch hm
  · obtain rfl := h.nature_eq hn hn'
    cases target with
    | none => exact hf.trans hfar
    | some far =>
      -- A write that is given an address goes through a listener for datagrams.
      obtain ⟨hl', -⟩ := listener_of_target? ht
      obtain ⟨n, hn'', hrole⟩ := h.listener id hl'
      rw [← h.nature_eq hn hn''] at hrole
      exact nomatch hr.symm.trans hrole

theorem recalls_sendBytes (h : x.outline.Sound) (hc : Heard c x.outline)
    (hm : c.remote.isMask = true) {id : SocketId} {s : Socket} {i : Nat} {w : Write}
    {target : Option Endpoint} (count : Nat) (hs : x.sockets.find? id = some s)
    (hnext : x.nextWrite? id = some (i, w, target)) :
    ∃ since, Recalls c since x (x.sendBytes id s i w target count) := by
  obtain ⟨directory, outbox, hcore, hsent⟩ := sendBytes_eq id s i w target count x
  rw [hsent]
  refine ⟨_, .of_event rfl (lastSender_of_core_eq hcore c) fun id' target' w' count' ht hw => ?_⟩
  obtain ⟨rfl, rfl, rfl, rfl⟩ := Traffic.sent.inj ht
  exact target_of_sent h hc hm hs (hw ▸ (nextWrite?_spec hnext).2.1)

/-! ### Runs -/

variable [Network ν]

theorem recalls_passStep (h : x.outline.Sound) (hc : Heard c x.outline)
    (hm : c.remote.isMask = true) (hstep : PassStep x y) : ∃ since, Recalls c since x y := by
  rcases still_passStep hstep with ⟨hstill, -⟩ | ⟨id, s, sender, data, hs, rfl⟩ |
    ⟨id, s, i, w, target, count, hs, hnext, rfl⟩
  · exact Recalls.of_still hstill
  · exact recalls_route h hc hm hs sender data
  · exact recalls_sendBytes h hc hm count hs hnext

theorem recalls_passSteps (h : x.outline.Sound) (hc : Heard c x.outline)
    (hm : c.remote.isMask = true) (hsteps : PassSteps x y) : ∃ since, Recalls c since x y := by
  induction hsteps with
  | refl => exact Recalls.of_still (.refl x)
  | tail hbefore hstep ih =>
    have hmoves := passMoves_passSteps h hbefore
    obtain ⟨since, hsince⟩ := ih
    obtain ⟨more, hmore⟩ :=
      recalls_passStep (h.passMoves hmoves) (hc.passMoves hmoves) hm hstep
    exact ⟨_, hsince.trans hmore⟩

theorem recalls_apply (h : x.outline.Sound) (hc : Heard c x.outline) (hm : c.remote.isMask = true)
    (op : Operation ν) : ∃ since, Recalls c since x (x.apply op) := by
  by_cases hop : op = .poll
  · subst hop
    change ∃ since, Recalls c since x x.poll.2
    obtain ⟨-, heq⟩ | ⟨-, y, hpass, heq⟩ := poll_cases x
    · rw [heq]
      exact Recalls.of_still (.refl x)
    · obtain ⟨since, hsince⟩ := recalls_passSteps h hc hm hpass
      obtain ⟨_, _, harm⟩ := armPending_eq y
      rw [heq, harm]
      exact ⟨since, hsince.journal, hsince.sender, hsince.sent⟩
  · exact Recalls.of_still (still_apply x hop)

/-- **In every run, a masked channel remembers whom it heard last,** and what is sent for it goes
there. -/
theorem Reachable.recalls_run (h : x.Reachable) (hc : c ∈ x.directory.channels)
    (hm : c.remote.isMask = true) (ops : List (Operation ν)) :
    ∃ since, Recalls c since x (x.run ops) := by
  obtain ⟨e, he, rfl⟩ := List.mem_map.mp hc
  have hheard := h.heard e he
  induction ops using List.reverseRecOn with
  | nil => exact Recalls.of_still (.refl x)
  | append_singleton ops op ih =>
    obtain ⟨since, hsince⟩ := ih
    rw [run_snoc]
    obtain ⟨more, hmore⟩ :=
      recalls_apply (h.run ops).sound (hheard.moves (moves_run h.sound ops)) hm op
    exact ⟨_, hsince.trans hmore⟩

end Exchange

end Switchboard
