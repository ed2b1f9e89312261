import Mathlib.Data.List.Induction
import Switchboard.Proofs.Step.Operations

/-!
# What settings ask of the machine

The settings of an exchange may ask for more than the machine has: for an instant that the clock
cannot show, for a read buffer or for a list of readiness events that no address space holds.  An
operation that meets such a bound notes it.

`Confined` says which bounds have been noted in a state, or may yet be by the settings in effect and
by the attempts on the schedule, whose delays come from settings that were in effect before.  Every
operation keeps it, if the settings in effect afterwards do (`Confined.apply`), and so does a run
(`confined_run`).  So no bound is ever noted but one that some settings of the run ask too much of
(`exceeds_of_exceeded`), and none where no settings do (`exceeded_eq_none_of_settings`).
-/

namespace Switchboard

open Net Settings Exchange

/-! ### Settings and bounds -/

/-- **The settings ask more of a bound than there is:** when an attempt is noted at some instant,
when a socket is read, and when the network is polled. -/
def Settings.Profile.Exceeds (p : Profile) (clock : Nat) : Limit → Prop
  | .instant => latestSecond < clock / 1000 + p.retryInterval
  | .buffer => largestBuffer < p.bufferSize
  | .events => largestBuffer < p.pollCapacity * 12

/-- The milliseconds that pass in an operation. -/
def Operation.time {ν : Type} : Operation ν → Nat
  | .elapse ms => ms
  | _ => 0

/-- The milliseconds that pass in some operations. -/
def Operation.timeOf {ν : Type} (ops : List (Operation ν)) : Nat :=
  ops.foldl (fun ms op => ms + op.time) 0

theorem Operation.timeOf_snoc {ν : Type} (ops : List (Operation ν)) (op : Operation ν) :
    timeOf (ops ++ [op]) = timeOf ops + op.time := by
  rw [timeOf, List.foldl_append]
  rfl

namespace Exchange

variable {ν : Type} {blamed : Limit → Prop} {horizon now : Nat} {x y : Exchange ν}

/-- **Only some bounds are to blame until an instant that is yet to come:** no other was noted, and
neither the settings nor the attempts on the schedule ask too much of another. -/
structure Confined (blamed : Limit → Prop) (horizon now : Nat) (x : Exchange ν) : Prop where
  exceeded : ∀ l, x.exceeded = some l → blamed l
  settings : ∀ l, x.profile.Exceeds horizon l → blamed l
  clock : x.clock = now
  early : now ≤ horizon
  delays : ∀ r ∈ x.schedule, latestSecond < horizon / 1000 + r.delay → blamed .instant
  due : ∀ r ∈ x.schedule, r.due ≤ horizon + 1000 * r.delay

/-! ### Small steps -/

theorem Confined.of_subset (h : Confined blamed horizon now x) (hp : y.profile = x.profile)
    (hc : y.clock = x.clock) (he : y.exceeded = x.exceeded) (hs : y.schedule ⊆ x.schedule) :
    Confined blamed horizon now y where
  exceeded := he ▸ h.exceeded
  settings := hp ▸ h.settings
  clock := hc.trans h.clock
  early := h.early
  delays r hr := h.delays r (hs hr)
  due r hr := h.due r (hs hr)

theorem Confined.of_same (h : Confined blamed horizon now x) (hp : y.profile = x.profile)
    (hc : y.clock = x.clock) (he : y.exceeded = x.exceeded) (hs : y.schedule = x.schedule) :
    Confined blamed horizon now y :=
  h.of_subset hp hc he (hs ▸ List.Subset.refl _)

/-- The network answered a call, or changed by itself. -/
theorem Confined.answered (h : Confined blamed horizon now x) (network : ν) :
    Confined blamed horizon now { x with network } :=
  h.of_same rfl rfl rfl rfl

/-- A bound is noted that is to blame. -/
theorem Confined.exceed (h : Confined blamed horizon now x) {l : Limit} (hl : blamed l) :
    Confined blamed horizon now (x.exceed l) where
  exceeded l' hl' := by
    cases hx : x.exceeded with
    | none =>
      have hnoted : (x.exceed l).exceeded = some l := by simp [Exchange.exceed, hx]
      rwa [← Option.some.inj (hnoted.symm.trans hl')]
    | some first =>
      have hnoted : (x.exceed l).exceeded = some first := by simp [Exchange.exceed, hx]
      rw [← Option.some.inj (hnoted.symm.trans hl')]
      exact h.exceeded first hx
  settings := h.settings
  clock := h.clock
  early := h.early
  delays := h.delays
  due := h.due

theorem Confined.scheduleRetry (h : Confined blamed horizon now x) (id : SocketId) {delay : Nat}
    (hdelay : latestSecond < horizon / 1000 + delay → blamed .instant) :
    Confined blamed horizon now (x.scheduleRetry id delay) := by
  unfold Exchange.scheduleRetry
  by_cases hnoted : x.schedule.any (·.socket == id) = true
  · rw [if_pos hnoted]
    exact h
  · rw [if_neg hnoted]
    have hclock : x.clock ≤ horizon := h.clock ▸ h.early
    have hadd : ∀ r ∈ x.schedule.add id x.clock delay,
        r ∈ x.schedule ∨ r = ⟨id, x.clock + 1000 * delay, delay⟩ := by
      intro r hr
      rw [Schedule.add, if_neg hnoted] at hr
      simpa using hr
    have hconfined : Confined blamed horizon now
        { x with schedule := x.schedule.add id x.clock delay } := by
      refine ⟨h.exceeded, h.settings, h.clock, h.early, fun r hr => ?_, fun r hr => ?_⟩
      · obtain hr | rfl := hadd r hr
        · exact h.delays r hr
        · exact hdelay
      · obtain hr | rfl := hadd r hr
        · exact h.due r hr
        · exact Nat.add_le_add_right hclock _
    dsimp only
    split_ifs with hlate
    · refine hconfined.exceed (hdelay (Nat.lt_of_lt_of_le hlate ?_))
      exact Nat.add_le_add_right (Nat.div_le_div_right hclock) _
    · exact hconfined

theorem Confined.announceAll (h : Confined blamed horizon now x) (id : SocketId) (cs : List Channel) :
    Confined blamed horizon now (x.announceAll id cs) := by
  rw [announceAll_eq]
  exact h.of_same rfl rfl rfl rfl

theorem Confined.join (h : Confined blamed horizon now x) (c : Channel) (id : SocketId) :
    Confined blamed horizon now (x.join c id) := by
  obtain ⟨newcomers, heq⟩ := join_eq c id x
  rw [heq, announceAll_eq]
  exact h.of_same rfl rfl rfl rfl

theorem Confined.armPending (h : Confined blamed horizon now x) :
    Confined blamed horizon now x.armPending := by
  obtain ⟨sockets, outbox, heq⟩ := armPending_eq x
  rw [heq]
  exact h.of_same rfl rfl rfl rfl

variable [Network ν]

theorem Confined.closeSocket (h : Confined blamed horizon now x) (id : SocketId) :
    Confined blamed horizon now (x.closeSocket id) := by
  obtain ⟨sockets, network, journal, heq⟩ := closeSocket_eq id x
  rw [heq]
  exact h.of_same rfl rfl rfl rfl

theorem Confined.discard (h : Confined blamed horizon now x) (ids : List SocketId) :
    Confined blamed horizon now (x.discard ids) := by
  refine List.foldlRecOn ids _ h fun y hy id _ => ?_
  have hcancelled : Confined blamed horizon now { y with schedule := y.schedule.cancel id } :=
    hy.of_subset rfl rfl rfl List.filter_sublist.subset
  exact hcancelled.closeSocket id

theorem Confined.closeOutbound (h : Confined blamed horizon now x) :
    Confined blamed horizon now x.closeOutbound := by
  unfold Exchange.closeOutbound
  dsimp only
  rw [foldl_onDirectory]
  refine Confined.discard ?_ _
  exact h.of_same rfl rfl rfl rfl

/-! ### Faults and attempts -/

/-- A fault is noted with the delay of the settings in effect. -/
theorem Confined.reportFault (h : Confined blamed horizon now x) (id : SocketId) :
    Confined blamed horizon now (reportFault id x).2 := by
  unfold Exchange.reportFault
  split
  · exact h
  · split
    · exact h
    · exact h.closeSocket id
    · split_ifs
      · exact h
      · have hfailed : Confined blamed horizon now
            (x.modifySocket id fun s => { s with phase := .retryScheduled }) :=
          h.of_same rfl rfl rfl rfl
        exact (hfailed.scheduleRetry id (h.settings .instant)).of_same rfl rfl rfl rfl

theorem Confined.substitute (h : Confined blamed horizon now x) (old : SocketId) (fresh : Socket) :
    Confined blamed horizon now (x.substitute old fresh) := by
  unfold Exchange.substitute
  dsimp only
  have hmoved : ∀ f, Confined blamed horizon now ((track fresh (x.closeSocket old)).onDirectory f) :=
    fun f => (h.closeSocket old).of_same rfl rfl rfl rfl
  split_ifs
  · exact (hmoved _).announceAll _ _
  · exact hmoved _

/-- An attempt that fails is noted again with its own delay. -/
theorem Confined.retry (h : Confined blamed horizon now x) {r : Retry}
    (hdelay : latestSecond < horizon / 1000 + r.delay → blamed .instant) :
    Confined blamed horizon now (retry r x) := by
  unfold Exchange.retry
  split_ifs
  · exact h
  · split
    · exact h
    · split
      · exact h
      · dsimp only
        split
        · refine Confined.scheduleRetry ?_ _ hdelay
          exact h.of_same rfl rfl rfl rfl
        · refine Confined.substitute ?_ _ _
          exact h.of_same rfl rfl rfl rfl

theorem Confined.runDueRetries (h : Confined blamed horizon now x) :
    Confined blamed horizon now x.runDueRetries := by
  unfold Exchange.runDueRetries Schedule.takeDue
  rw [List.partition_eq_filter_filter]
  have hrest : Confined blamed horizon now
      { x with schedule := x.schedule.filter fun r => !decide (r.due ≤ x.clock) } :=
    h.of_subset rfl rfl rfl List.filter_sublist.subset
  refine Confined.armPending (List.foldlRecOn _ _ hrest fun y hy r hr => ?_)
  exact hy.retry (h.delays r (List.mem_filter.mp hr).1)

/-! ### A pass -/

theorem Confined.acceptConnections (h : Confined blamed horizon now x) (id : SocketId) :
    Confined blamed horizon now (x.acceptConnections id) := by
  unfold Exchange.acceptConnections
  generalize Network.accept id x.network = answer
  obtain ⟨waiting, network⟩ := answer
  refine List.foldlRecOn waiting takeIn (h.answered network) fun y hy connection _ => ?_
  unfold takeIn
  split <;> exact hy.of_same rfl rfl rfl rfl

theorem Confined.finishConnect (h : Confined blamed horizon now x) (id : SocketId) :
    Confined blamed horizon now (x.finishConnect id).2 := by
  unfold Exchange.finishConnect
  split
  · split
    · refine Confined.announceAll ?_ _ _
      exact h.of_same rfl rfl rfl rfl
    · exact (h.answered _).reportFault id
  · exact h

omit [Network ν] in
theorem Confined.take (h : Confined blamed horizon now x) (id : SocketId) (s : Socket) (a : Arrival) :
    Confined blamed horizon now (take id s x a) := by
  refine List.foldlRecOn _ _ h fun y hy data _ => ?_
  obtain ⟨_, _, _, heq⟩ := route_eq id s.role
    (if s.role = .listener then some a.sender else s.farEnd) data y
  rw [heq]
  exact hy.of_same rfl rfl rfl rfl

/-- A read asks for a buffer of the size in effect. -/
theorem Confined.readSocket (h : Confined blamed horizon now x) (id : SocketId) :
    Confined blamed horizon now (x.readSocket id).2 := by
  unfold Exchange.readSocket
  split
  · exact h
  · rename_i s _
    split
    · exact h
    · have hstart : Confined blamed horizon now
          (if largestBuffer < x.profile.bufferSize then x.exceed .buffer else x) := by
        split_ifs with hlarge
        · exact h.exceed (h.settings .buffer hlarge)
        · exact h
      dsimp only
      generalize (if largestBuffer < x.profile.bufferSize then x.exceed .buffer else x) = x'
        at hstart ⊢
      generalize Network.receive id x'.network = answer
      obtain ⟨answered, network⟩ := answer
      dsimp only
      generalize readable s.medium x'.profile.bufferSize answered = inflow
      have hread := List.foldlRecOn inflow.arrivals (Exchange.take id s) (hstart.answered network)
        fun y hy a _ => hy.take id s a
      split
      · exact hread
      · exact hread.reportFault id
      · split_ifs
        · exact hread
        · exact hread.reportFault id

theorem Confined.attempt (h : Confined blamed horizon now x) (id : SocketId) :
    match x.attempt id with
    | .again y | .rest y | .stop y => Confined blamed horizon now y := by
  unfold Exchange.attempt
  split_ifs
  · exact h
  · rcases x.nextWrite? id with _ | ⟨i, w, target⟩
    · exact h
    rcases x.sockets.find? id with _ | s
    · exact h
    dsimp only
    by_cases hm : s.medium = .acceptor
    · rw [if_pos hm]
      exact h
    · rw [if_neg hm]
      generalize Network.send id _ w.remaining x.network = answer
      obtain ⟨taken, network⟩ := answer
      have hanswered := h.answered network
      cases taken with
      | wouldBlock => exact hanswered
      | failed cause => exact hanswered.reportFault id
      | took count =>
        dsimp only
        split_ifs
        · exact hanswered
        · obtain ⟨_, _, -, heq⟩ := settle_eq s i w count { x with network }
          rw [heq]
          exact h.of_same rfl rfl rfl rfl

theorem Confined.sendAll (h : Confined blamed horizon now x) (id : SocketId) (fuel : Nat) :
    Confined blamed horizon now (sendAll id fuel x) := by
  induction fuel generalizing x with
  | zero => exact h
  | succ fuel ih =>
    have hattempt := h.attempt id
    unfold Exchange.sendAll
    split <;> rename_i y heq <;> rw [heq] at hattempt
    · exact ih hattempt
    · exact hattempt.of_same rfl rfl rfl rfl
    · exact hattempt

theorem Confined.exchangeData (h : Confined blamed horizon now x) (id : SocketId)
    (readable writable : Bool) : Confined blamed horizon now (x.exchangeData id readable writable) := by
  cases readable with
  | false =>
    cases writable with
    | false => exact h
    | true => exact h.sendAll id _
  | true =>
    have hread := h.readSocket id
    rw [Exchange.exchangeData, if_pos rfl]
    split <;> rename_i y heq <;> rw [heq] at hread
    · cases writable with
      | false => exact hread
      | true => exact hread.sendAll id _
    · exact hread

theorem Confined.serve (h : Confined blamed horizon now x) (r : Readiness) :
    Confined blamed horizon now (x.serve r) := by
  have hconnect := h.finishConnect r.socket
  unfold Exchange.serve
  split
  · exact h
  · split_ifs
    · exact h
    · exact h.acceptConnections r.socket
    · exact h
    · split <;> rename_i y heq <;> rw [heq] at hconnect
      · exact hconnect.exchangeData _ _ _
      · exact hconnect
    · exact h.exchangeData _ _ _

/-- A poll asks for a list of as many events as the settings say. -/
theorem Confined.poll (h : Confined blamed horizon now x) : Confined blamed horizon now x.poll.2 := by
  unfold Exchange.poll
  split
  · exact h
  · have hstart : Confined blamed horizon now
        (if eventsFit x.profile.pollCapacity then x else x.exceed .events) := by
      split_ifs with hfit
      · exact h
      · exact h.exceed (h.settings .events (by simpa [eventsFit, Profile.Exceeds] using hfit))
    dsimp only
    generalize (if eventsFit x.profile.pollCapacity then x else x.exceed .events) = x'
      at hstart ⊢
    generalize Network.poll x'.watched x'.profile.pollCapacity x'.network = answer
    obtain ⟨ready, network⟩ := answer
    have hpassed : Confined blamed horizon now (ready.foldl Exchange.serve { x' with network }) :=
      List.foldlRecOn ready Exchange.serve (hstart.answered network) fun y hy r _ => hy.serve r
    exact hpassed.armPending.of_same rfl rfl rfl rfl

/-! ### In and out of service -/

/-- Opening a listener makes no call on any bound. -/
theorem Confined.openListener (h : Confined blamed horizon now x) :
    Confined blamed horizon now x.openListener.2 := by
  obtain ⟨e, network, heq⟩ | ⟨ownEnd, network, heq⟩ := openListener_cases x
  · rw [heq]
    exact h.answered network
  · rw [heq]
    exact h.of_same rfl rfl rfl rfl

omit [Network ν] in
theorem Confined.attachInbound (h : Confined blamed horizon now x) (c : Channel) :
    Confined blamed horizon now (x.attachInbound c).2 := by
  unfold Exchange.attachInbound
  split
  · exact h
  · exact h.join c _

theorem Confined.attachOutbound (h : Confined blamed horizon now x) (c : Channel) :
    Confined blamed horizon now (x.attachOutbound c).2 := by
  unfold Exchange.attachOutbound
  split
  · exact h.join c _
  · split
    · exact h
    · split
      · exact h.answered _
      · refine Confined.join ?_ c _
        exact h.of_same rfl rfl rfl rfl

theorem Confined.ensureSocket (h : Confined blamed horizon now x) (c : Channel) :
    Confined blamed horizon now (x.ensureSocket c).2 := by
  unfold Exchange.ensureSocket
  split_ifs
  · exact h
  · exact h
  · split
    · exact h
    · split
      · exact h.attachInbound c
      · exact h.attachOutbound c

omit [Network ν] in
theorem Confined.attachWaiting (h : Confined blamed horizon now x) (cs : List Channel) :
    Confined blamed horizon now (attachWaiting cs x).2 := by
  induction cs generalizing x with
  | nil => exact h
  | cons c cs ih =>
    have hattach := h.attachInbound c
    unfold Exchange.attachWaiting
    split
    · split <;> rename_i y heq <;> rw [heq] at hattach
      · exact hattach
      · exact ih hattach
    · exact ih h

theorem Confined.openUp (h : Confined blamed horizon now x) : Confined blamed horizon now x.openUp.2 := by
  have hopened : Confined blamed horizon now { x with isOpen := true } := h.of_same rfl rfl rfl rfl
  have hlistener := hopened.openListener
  unfold Exchange.openUp
  split
  · exact h
  · split <;> rename_i y heq <;> rw [heq] at hlistener
    · exact hlistener.of_same rfl rfl rfl rfl
    · exact hlistener.attachWaiting _

/-- A closed exchange has no attempts to come. -/
theorem Confined.deactivate (h : Confined blamed horizon now x) :
    Confined blamed horizon now x.deactivate := by
  unfold Exchange.deactivate close
  dsimp only
  split_ifs
  · exact h.of_same rfl rfl rfl rfl
  · exact (h.discard (x.sockets.map (·.1))).of_subset rfl rfl rfl (List.nil_subset _)

/-! ### Settings -/

theorem profile_moveListener (p : Profile) (ownEnd : Endpoint) (x : Exchange ν) :
    (x.moveListener p ownEnd).profile = p := by
  obtain ⟨_, _, _, _, _, _, _, heq⟩ := moveListener_eq p ownEnd x
  rw [heq]

omit [Network ν] in
/-- Other settings take effect that ask too much of no other bound. -/
theorem Confined.adopt (h : Confined blamed horizon now x) {p : Profile}
    (hp : ∀ l, p.Exceeds horizon l → blamed l) : Confined blamed horizon now { x with profile := p } :=
  ⟨h.exceeded, hp, h.clock, h.early, h.delays, h.due⟩

theorem Confined.moveListener (h : Confined blamed horizon now x) {p : Profile}
    (hp : ∀ l, p.Exceeds horizon l → blamed l) (ownEnd : Endpoint) :
    Confined blamed horizon now (x.moveListener p ownEnd) := by
  have hraised : Confined blamed horizon now (x.raiseListener p ownEnd) :=
    (h.adopt hp).of_same rfl rfl rfl rfl
  unfold Exchange.moveListener
  dsimp only
  cases x.listener with
  | none =>
    split_ifs
    · exact hraised.closeOutbound
    · exact hraised
  | some old =>
    have hmoved : Confined blamed horizon now (((x.raiseListener p ownEnd).closeSocket old).onDirectory
        (·.relink old x.nextSocket)) := (hraised.closeSocket old).of_same rfl rfl rfl rfl
    split_ifs
    · exact hmoved.closeOutbound
    · exact hmoved

theorem Confined.updateProfile (h : Confined blamed horizon now x) (c : Configuration)
    (hp : ∀ l, (x.updateProfile c).2.profile.Exceeds horizon l → blamed l) :
    Confined blamed horizon now (x.updateProfile c).2 := by
  obtain ⟨network, heq⟩ | ⟨p, -, -, ⟨-, heq⟩ | ⟨-, ownEnd, network, heq⟩⟩ := updateProfile_eq c x <;>
    rw [heq] at hp ⊢
  · exact h.answered network
  · exact h.adopt hp
  · rw [profile_moveListener] at hp
    exact (h.answered network).moveListener hp ownEnd

/-! ### Channels and writes -/

omit [Network ν] in
theorem Confined.bind (h : Confined blamed horizon now x) (s : Subject) (r : Remote) :
    Confined blamed horizon now (x.bind s r).2 := by
  unfold Exchange.bind
  split
  · exact h
  · rename_i enrolled _
    have henrolled : Confined blamed horizon now { x with directory := enrolled.directory } :=
      h.of_same rfl rfl rfl rfl
    have hattach := henrolled.attachInbound enrolled.channel
    dsimp only
    split_ifs
    · split <;> rename_i heq <;> rw [heq] at hattach <;> exact hattach
    · exact henrolled

theorem Confined.reconfigure (h : Confined blamed horizon now x) (bindings : List (Subject × Remote)) :
    Confined blamed horizon now (x.reconfigure bindings).2 := by
  have hbound : Confined blamed horizon now (bindAll bindings x).2 := by
    induction bindings generalizing x with
    | nil => exact h
    | cons binding bindings ih =>
      have hbind := h.bind binding.1 binding.2
      unfold bindAll
      split <;> rename_i y heq <;> rw [heq] at hbind
      · exact hbind
      · have hrest := ih hbind
        split <;> rename_i hall <;> rw [hall] at hrest <;> exact hrest
  unfold Exchange.reconfigure
  split
  · exact h
  · split <;> rename_i y heq <;> rw [heq] at hbound
    · exact hbound
    · -- The channels that go take their sockets along, and the attempts for these.
      unfold retain closeOrphans
      refine Confined.of_same (Confined.discard ?_ _) rfl rfl rfl rfl
      exact hbound.of_same rfl rfl rfl rfl

theorem Confined.enqueue (h : Confined blamed horizon now x) (c : Channel) (data : Bytes)
    (call : Option Nat) : Confined blamed horizon now (x.enqueue c data call).2 := by
  have hensure := h.ensureSocket c
  unfold Exchange.enqueue
  split <;> rename_i y heq <;> rw [heq] at hensure
  · exact hensure
  · split
    · exact hensure
    · unfold armUnlessHeld
      dsimp only
      split_ifs <;> exact hensure.of_same rfl rfl rfl rfl

/-! ### Operations and runs -/

/-- **Every operation** notes no other bound, if the settings in effect after it ask too much of no
other. -/
theorem Confined.apply (h : Confined blamed horizon now x) (op : Operation ν)
    (hp : ∀ l, (x.apply op).profile.Exceeds horizon l → blamed l) (hc : now + op.time ≤ horizon) :
    Confined blamed horizon (now + op.time) (x.apply op) := by
  cases op with
  | openUp => exact h.openUp
  | deactivate => exact h.deactivate
  | updateProfile c => exact h.updateProfile c hp
  | bind s r => exact h.bind s r
  | reconfigure bindings => exact h.reconfigure bindings
  | ensureSocket c => exact h.ensureSocket c
  | enqueue c data call => exact h.enqueue c data call
  | beginCall c =>
    change Confined blamed horizon (now + 0) (x.beginCall c).2
    unfold beginCall
    split
    · exact h
    · exact h.of_same rfl rfl rfl rfl
  | collect c g => exact h.of_same rfl rfl rfl rfl
  | finishCall c g => exact h.of_same rfl rfl rfl rfl
  | armPending => exact h.armPending
  | takeAnnouncements => exact h.of_same rfl rfl rfl rfl
  | poll => exact h.poll
  | runDueRetries => exact h.runDueRetries
  | reportFault id => exact h.reportFault id
  | elapse ms => exact ⟨h.exceeded, h.settings, congrArg (· + ms) h.clock, hc, h.delays, h.due⟩
  | world network => exact h.answered network

omit [Network ν] in
/-- A new exchange has noted nothing, and works by the settings it was given. -/
theorem create_eq {name : String} {profile : Profile} {network : ν} {start : Exchange ν}
    (hc : create name profile network = .ok start) : start = { name, profile, network } := by
  unfold create at hc
  split at hc
  · exact nomatch hc
  · exact (Except.ok.inj hc).symm

section

variable {name : String} {profile : Profile} {network : ν} {start : Exchange ν}

/-- **A run** notes no other bound, if none of the settings that were in effect asks too much of
another. -/
theorem confined_run (hc : create name profile network = .ok start) (ops : List (Operation ν))
    (hp : ∀ before, before <+: ops → ∀ l, (start.run before).profile.Exceeds horizon l → blamed l)
    (htime : Operation.timeOf ops ≤ horizon) :
    Confined blamed horizon (Operation.timeOf ops) (start.run ops) := by
  induction ops using List.reverseRecOn with
  | nil =>
    have hstart := hp [] List.nil_prefix
    rw [create_eq hc] at hstart ⊢
    exact ⟨nofun, hstart, rfl, Nat.zero_le _, nofun, nofun⟩
  | append_singleton ops op ih =>
    rw [Operation.timeOf_snoc] at htime ⊢
    have hlast := hp (ops ++ [op]) (List.prefix_refl _)
    rw [run_snoc] at hlast ⊢
    have hbefore := ih (fun before hb => hp before (hb.trans (List.prefix_append _ _)))
      (Nat.le_trans (Nat.le_add_right _ _) htime)
    exact hbefore.apply op hlast htime

/-- The clock shows the time that passed. -/
theorem clock_run (hc : create name profile network = .ok start) (ops : List (Operation ν)) :
    (start.run ops).clock = Operation.timeOf ops := by
  have hconfined : Confined (fun _ => True) _ _ (start.run ops) :=
    confined_run hc ops (fun _ _ _ _ => trivial) (Nat.le_refl _)
  exact hconfined.clock

/-- **An exchange breaks down through its settings only:** a bound that was noted is one that some
settings of the run ask too much of. -/
theorem exceeds_of_exceeded (hc : create name profile network = .ok start)
    (ops : List (Operation ν)) {l : Limit} (hl : (start.run ops).exceeded = some l) :
    ∃ before, before <+: ops ∧ (start.run before).profile.Exceeds (start.run ops).clock l := by
  have hconfined : Confined (fun l => ∃ before, before <+: ops ∧
      (start.run before).profile.Exceeds (start.run ops).clock l) _ _ (start.run ops) :=
    confined_run hc ops (fun before hb l hl => ⟨before, hb, hl⟩)
      (Nat.le_of_eq (clock_run hc ops).symm)
  exact hconfined.exceeded l hl

/-- So no bound was noted where none of the settings of the run asks too much of any. -/
theorem exceeded_eq_none_of_settings (hc : create name profile network = .ok start)
    (ops : List (Operation ν)) (hp : ∀ before, before <+: ops →
      ∀ l, ¬ (start.run before).profile.Exceeds (start.run ops).clock l) :
    (start.run ops).exceeded = none := by
  refine Option.eq_none_iff_forall_ne_some.mpr fun l hl => ?_
  obtain ⟨before, hbefore, hexceeds⟩ := exceeds_of_exceeded hc ops hl
  exact hp before hbefore l hexceeds

end

end Exchange

end Switchboard
