import Switchboard.Proofs.Limits.Confined
import Switchboard.Proofs.Supervision.Renewal

/-!
# Settings that an exchange endures

No number is refused for a retry interval or a poll capacity, and none but zero for a buffer size,
so settings that were read may ask for more than the machine has.  `Profile.Fits` says which do not,
until an instant.  They are exactly those under which no exchange breaks down until then
(`endured_iff_fits`), whatever the network answers and whatever a host asks for: no bound is noted,
every attempt on the schedule is at an instant that the clock can show, and a fault of a live
outbound socket leaves that socket waiting for an attempt (`Unbroken`).

That fitting settings are enough follows from what confines a run to its settings (`unbroken_run`).
That they are needed shows on a network where a socket can be read at once: there the next fault or
the next poll breaks down whatever does not fit (`fits_of_endured`).

An exchange that has broken down stays so, whatever a run goes on to do with it (`exceeded_run`).
-/

namespace Switchboard

open Net Settings Exchange

/-! ### Fitting settings -/

namespace Settings

/-- **Settings that ask for no more than the machine has,** until an instant. -/
structure Profile.Fits (p : Profile) (horizon : Nat) : Prop where
  retryInterval : horizon / 1000 + p.retryInterval ≤ latestSecond
  bufferSize : p.bufferSize ≤ largestBuffer
  pollCapacity : p.pollCapacity * 12 ≤ largestBuffer

theorem Profile.fits_iff {p : Profile} {horizon : Nat} :
    p.Fits horizon ↔ ∀ l, ¬ p.Exceeds horizon l := by
  constructor
  · intro h l
    cases l with
    | instant => exact Nat.not_lt.mpr h.retryInterval
    | buffer => exact Nat.not_lt.mpr h.bufferSize
    | events => exact Nat.not_lt.mpr h.pollCapacity
  · intro h
    exact ⟨Nat.not_lt.mp (h .instant), Nat.not_lt.mp (h .buffer), Nat.not_lt.mp (h .events)⟩

end Settings

namespace Exchange

variable {ν : Type} [Network ν] {x y : Exchange ν}

/-! ### Unbroken exchanges -/

/-- **A fault is noted of a live socket:** the socket waits from then on for an attempt, which comes
last on the schedule, and no bound is exceeded. -/
structure FaultNoted (id : SocketId) (s : Socket) (x : Exchange ν) : Prop where
  reported : (reportFault id x).1 = true
  exceeded : (reportFault id x).2.exceeded = none
  waits : (reportFault id x).2.sockets.find? id = some { s with phase := .retryScheduled }
  schedule : (reportFault id x).2.schedule = x.schedule ++
    [⟨id, x.clock + 1000 * x.profile.retryInterval, x.profile.retryInterval⟩]

/-- **An exchange that no setting has broken down.** -/
structure Unbroken (x : Exchange ν) : Prop where
  exceeded : x.exceeded = none
  due : ∀ r ∈ x.schedule, r.due / 1000 ≤ latestSecond
  faults : ∀ id s, x.sockets.find? id = some s → s.role = .outbound → s.isLive = true →
    FaultNoted id s x

/-- **What a fault of a live outbound socket leads to,** in every state. -/
theorem Reachable.reportFault_live (h : x.Reachable) {id : SocketId} {s : Socket}
    (hs : x.sockets.find? id = some s) (hr : s.role = .outbound) (hlive : s.isLive = true) :
    reportFault id x = (true, { x with
      sockets := x.sockets.modify id fun s => { s with phase := .retryScheduled }
      schedule := x.schedule ++
        [⟨id, x.clock + 1000 * x.profile.retryInterval, x.profile.retryInterval⟩]
      exceeded := if latestSecond < x.clock / 1000 + x.profile.retryInterval then
        x.exceeded <|> some .instant else x.exceeded
      directory := x.directory.setReconnecting id true }) := by
  have hnew : id ∉ x.outline.retries := (h.attended.isLive_iff hs).mp hlive
  rw [reportFault_of_live hs hr hlive]
  have hnoted := scheduleRetry_of_new (x := x.modifySocket id fun s =>
    { s with phase := .retryScheduled }) (r := ⟨id, 0, x.profile.retryInterval⟩) hnew
  rw [hnoted]
  rfl

/-- **Under fitting settings no exchange breaks down.** -/
theorem unbroken_run {name : String} {profile : Profile} {network : ν} {start : Exchange ν}
    {horizon : Nat} (hc : create name profile network = .ok start) (ops : List (Operation ν))
    (hfits : ∀ before, before <+: ops → (start.run before).profile.Fits horizon)
    (hclock : (start.run ops).clock ≤ horizon) : (start.run ops).Unbroken := by
  have hconfined : Confined (fun _ => False) horizon _ (start.run ops) :=
    confined_run hc ops (fun before hb l => Profile.fits_iff.mp (hfits before hb) l)
      (clock_run hc ops ▸ hclock)
  have hreachable : (start.run ops).Reachable := ⟨name, profile, network, start, ops, hc, rfl⟩
  have hnow := (hfits ops (List.prefix_refl _)).retryInterval
  generalize start.run ops = x at hconfined hreachable hnow hclock
  have hnone : x.exceeded = none := Option.eq_none_iff_forall_ne_some.mpr hconfined.exceeded
  refine ⟨hnone, fun r hr => ?_, fun id s hs hrole hlive => ?_⟩
  · have hdelay := Nat.not_lt.mp (hconfined.delays r hr)
    have hdue := hconfined.due r hr
    omega
  · have hfault := hreachable.reportFault_live hs hrole hlive
    have hfit : ¬ latestSecond < x.clock / 1000 + x.profile.retryInterval := by omega
    rw [if_neg hfit] at hfault
    refine ⟨?_, ?_, ?_, ?_⟩ <;> rw [hfault]
    · exact hnone
    · rw [Sockets.find?_modify, if_pos rfl, hs]
      rfl

/-! ### What has broken down stays so -/

omit [Network ν] in
theorem exceed_ne_none (l : Limit) (x : Exchange ν) : (x.exceed l).exceeded ≠ none := by
  cases hx : x.exceeded <;> simp [exceed, hx]

omit [Network ν] in
/-- A bound is noted once. -/
theorem exceed_exceed (l : Limit) (x : Exchange ν) : (x.exceed l).exceed l = x.exceed l := by
  cases hx : x.exceeded <;> simp [exceed, hx]

omit [Network ν] in
theorem exceeded_armPending (x : Exchange ν) : x.armPending.exceeded = x.exceeded := by
  obtain ⟨_, _, heq⟩ := armPending_eq x
  rw [heq]

omit [Network ν] in
theorem exceeded_join (c : Channel) (id : SocketId) (x : Exchange ν) :
    (x.join c id).exceeded = x.exceeded := by
  obtain ⟨_, heq⟩ := join_eq c id x
  rw [heq, announceAll_eq]
  rfl

theorem exceeded_discard (ids : List SocketId) (x : Exchange ν) :
    (x.discard ids).exceeded = x.exceeded := by
  obtain ⟨_, _, _, _, heq⟩ := discard_eq ids x
  rw [heq]

theorem exceeded_moveListener (p : Profile) (ownEnd : Endpoint) (x : Exchange ν) :
    (x.moveListener p ownEnd).exceeded = x.exceeded := by
  obtain ⟨_, _, _, _, _, _, _, heq⟩ := moveListener_eq p ownEnd x
  rw [heq]

theorem exceeded_substitute (old : SocketId) (fresh : Socket) (x : Exchange ν) :
    (x.substitute old fresh).exceeded = x.exceeded := by
  obtain ⟨_, _, _, _, _, _, heq⟩ := substitute_eq old fresh x
  rw [heq]

theorem exceeded_deactivate (x : Exchange ν) : x.deactivate.exceeded = x.exceeded := by
  unfold deactivate close
  split_ifs
  · rfl
  · exact exceeded_discard _ x

omit [Network ν] in
theorem exceeded_scheduleRetry (h : x.exceeded ≠ none) (id : SocketId) (delay : Nat) :
    (x.scheduleRetry id delay).exceeded ≠ none := by
  unfold scheduleRetry
  dsimp only
  split_ifs
  · exact h
  · exact exceed_ne_none _ _
  · exact h

theorem exceeded_reportFault (h : x.exceeded ≠ none) (id : SocketId) :
    (reportFault id x).2.exceeded ≠ none := by
  unfold reportFault
  split
  · exact h
  · split
    · exact h
    · obtain ⟨_, _, _, heq⟩ := closeSocket_eq id x
      dsimp only
      rw [heq]
      exact h
    · split_ifs
      · exact h
      · exact exceeded_scheduleRetry (x := x.modifySocket id fun s =>
          { s with phase := .retryScheduled }) h id _

theorem exceeded_retry (h : x.exceeded ≠ none) (r : Retry) : (retry r x).exceeded ≠ none := by
  unfold retry
  split_ifs
  · exact h
  · split
    · exact h
    · split
      · exact h
      · dsimp only
        split
        · apply exceeded_scheduleRetry
          exact h
        · exact (exceeded_substitute _ _ _).trans_ne h

theorem exceeded_retryDue (h : x.exceeded ≠ none) : x.retryDue.exceeded ≠ none :=
  List.foldlRecOn (motive := fun y : Exchange ν => y.exceeded ≠ none) _ _ h
    fun _ hy r _ => exceeded_retry hy r

theorem exceeded_passStep (hstep : PassStep x y) (h : x.exceeded ≠ none) : y.exceeded ≠ none := by
  cases hstep with
  | answered network => exact h
  | exceeded l => exact exceed_ne_none l x
  | admitted ownEnd remote hs hm => exact h
  | established hs hm hp =>
    unfold establish
    dsimp only
    rw [announceAll_eq]
    exact h
  | faulted id => exact exceeded_reportFault h id
  | @routed id s sender data hs hp hm hsender =>
    obtain ⟨_, _, _, heq⟩ := route_eq id s.role sender data x
    rw [heq]
    exact h
  | @sent id s i w target count hs hp hm hheld hnext hcount =>
    obtain ⟨_, _, -, heq⟩ := sendBytes_eq id s i w target count x
    rw [heq]
    exact h
  | disarmed id => exact h

theorem exceeded_passSteps (hsteps : PassSteps x y) (h : x.exceeded ≠ none) :
    y.exceeded ≠ none := by
  induction hsteps with
  | refl => exact h
  | tail _ hstep ih => exact exceeded_passStep hstep ih

theorem exceeded_singleStep (hstep : SingleStep x y) (h : x.exceeded ≠ none) :
    y.exceeded ≠ none := by
  cases hstep with
  | answered network => exact h
  | elapsed ms => exact h
  | opened ownEnd ho => exact h
  | adopted p hs hm ht => exact h
  | moved p ownEnd hs hm ho => exact (exceeded_moveListener p ownEnd x).trans_ne h
  | enrolled s r hv hb => exact h
  | joined ho hc hu hid => exact (exceeded_join _ _ x).trans_ne h
  | connected ownEnd ho hc hu hd hr hn => exact (exceeded_join _ _ _).trans_ne h
  | retained kept => exact (exceeded_discard _ _).trans_ne h
  | queued data call ho hc ht => exact h
  | armed id => exact h
  | rearmed => exact (exceeded_armPending x).trans_ne h
  | began c hb => exact h
  | collected c g => exact h
  | finished c g => exact h
  | faulted id => exact exceeded_reportFault h id

theorem exceeded_step (hstep : Step x y) (h : x.exceeded ≠ none) : y.exceeded ≠ none := by
  cases hstep with
  | plain hstep =>
    cases hstep with
    | single hstep => exact exceeded_singleStep hstep h
    | retried => exact exceeded_retryDue h
    | passed ho hpass =>
      exact (exceeded_armPending _).trans_ne (exceeded_passSteps hpass h)
  | deactivated => exact (exceeded_deactivate x).trans_ne h
  | told => exact h

/-- **Whatever is done to an exchange that has broken down, it stays so.** -/
theorem exceeded_run (h : x.exceeded ≠ none) (ops : List (Operation ν)) :
    (x.run ops).exceeded ≠ none := by
  have hsteps := steps_run x ops
  generalize x.run ops = y at hsteps
  induction hsteps with
  | refl => exact h
  | tail _ hstep ih => exact exceeded_step hstep ih

/-- **An exchange where no bound was noted has come through every operation of its run.** -/
theorem exceeded_of_run {ops : List (Operation ν)} (h : (x.run ops).exceeded = none)
    {before : List (Operation ν)} (hbefore : before <+: ops) : (x.run before).exceeded = none := by
  obtain ⟨after, rfl⟩ := hbefore
  by_contra hbroken
  rw [run_append] at h
  exact exceeded_run hbroken after h

/-! ### Breaking down -/

/-- A fault breaks an exchange down whose next attempt the clock cannot show. -/
theorem Reachable.exceeded_of_late (h : x.Reachable) {id : SocketId} {s : Socket}
    (hs : x.sockets.find? id = some s) (hr : s.role = .outbound) (hlive : s.isLive = true)
    (hlate : x.profile.Exceeds x.clock .instant) : (reportFault id x).2.exceeded ≠ none := by
  have hlate' : latestSecond < x.clock / 1000 + x.profile.retryInterval := hlate
  rw [h.reportFault_live hs hr hlive]
  dsimp only
  rw [if_pos hlate']
  exact exceed_ne_none .instant x

/-- A poll breaks an open exchange down that asks for too long a list of events. -/
theorem exceeded_poll_of_events (ho : x.isOpen = true)
    (hlarge : x.profile.Exceeds x.clock .events) : x.poll.2.exceeded ≠ none := by
  have hfit : ¬ eventsFit x.profile.pollCapacity = true := by
    simpa [eventsFit, Profile.Exceeds] using hlarge
  have hsame : x.poll = (x.exceed .events).poll := by
    have hfit' : ¬ eventsFit (x.exceed .events).profile.pollCapacity = true := hfit
    have ho' : ¬ (x.exceed .events).isOpen = false := by simp [exceed, ho]
    unfold poll
    rw [if_neg (by simp [ho]), if_neg hfit, if_neg ho', if_neg hfit', exceed_exceed]
  obtain ⟨y, hpass, heq⟩ := poll_eq (x := x.exceed .events) ho
  rw [hsame, heq]
  dsimp only
  rw [exceeded_armPending]
  exact exceeded_passSteps hpass (exceed_ne_none .events x)

/-- A read asks for a buffer first, whether or not the bound has been noted before. -/
theorem readSocket_exceed {id : SocketId} {s : Socket} (hs : x.sockets.find? id = some s)
    (hm : s.medium ≠ .acceptor) (hlarge : largestBuffer < x.profile.bufferSize) :
    (x.exceed .buffer).readSocket id = x.readSocket id := by
  have hs' : (x.exceed .buffer).sockets.find? id = some s := hs
  have hlarge' : largestBuffer < (x.exceed .buffer).profile.bufferSize := hlarge
  unfold readSocket
  rw [hs, hs']
  dsimp only
  rw [if_neg hm, if_neg hm, if_pos hlarge, if_pos hlarge', exceed_exceed]

/-- A read breaks an exchange down that asks for too large a buffer. -/
theorem exceeded_exchangeData {id : SocketId} {s : Socket} (hs : x.sockets.find? id = some s)
    (hm : s.medium ≠ .acceptor) (hp : s.phase = .active)
    (hlarge : x.profile.Exceeds x.clock .buffer) (writable : Bool) :
    (x.exchangeData id true writable).exceeded ≠ none := by
  have hsame : x.exchangeData id true writable =
      (x.exceed .buffer).exchangeData id true writable := by
    unfold exchangeData
    rw [readSocket_exceed hs hm hlarge]
    rfl
  rw [hsame]
  refine exceeded_passSteps (passSteps_exchangeData (fun s' hs' => ?_) true writable)
    (exceed_ne_none .buffer x)
  rw [← Option.some.inj (hs.symm.trans hs')]
  exact hp

end Exchange

/-! ### An eager network -/

/-- **A network where every call succeeds,** and where the second socket can be read and written. -/
inductive Net.Eager where
  | eager
  deriving Repr, DecidableEq

instance : Network Net.Eager where
  listen _ _ e n := (.ok e, n)
  connect _ _ e n := (.ok e, n)
  poll _ _ n := ([⟨1001, true, true⟩], n)
  accept _ n := ([], n)
  adopt _ _ n := (.error .unreachable, n)
  failure? _ n := (none, n)
  receive _ n := (⟨[], .dry⟩, n)
  send _ _ data n := (.took data.length, n)
  close _ n := n

namespace Exchange

/-- An outbound channel gets a socket of its own. -/
def moor : List (Operation Eager) :=
  [.bind lantern.subject lantern.remote, .openUp, .ensureSocket lantern]

theorem moored (name : String) (p : Profile) :
    let x : Exchange Eager := run { name, profile := p, network := .eager } moor
    x.profile = p ∧ x.isOpen = true ∧ ∃ e remote, x.sockets.find? 1001 =
      some (Socket.outgoing p.transport e remote) := by
  intro y
  let x : Exchange Eager := run { name, profile := p, network := .eager }
    [.bind lantern.subject lantern.remote, .openUp]
  -- No channel has a socket that the new one could share, whatever the sharing flags are.
  have hshared : x.directory.sharedSocket? lantern x.profile.sharing x.listener = none := by
    rw [Directory.sharedSocket?, List.findSome?_eq_none_iff]
    exact fun _ _ => rfl
  let far : Endpoint := .of (.v4 .unspecified) 9
  have hsocket : y = (track (Socket.outgoing p.transport far far) x).join lantern 1001 := by
    have hattach : y = (x.attachOutbound lantern).2 := rfl
    rw [hattach, attachOutbound, hshared]
    rfl
  obtain ⟨newcomers, hjoin⟩ := join_eq lantern 1001 (track (Socket.outgoing p.transport far far) x)
  rw [announceAll_eq] at hjoin
  rw [hsocket, hjoin]
  exact ⟨rfl, rfl, far, far, rfl⟩

/-- The second socket is read at once, whether its connection is to be completed first or not. -/
theorem exceeded_serve_of_buffer {x : Exchange Eager} {t : Transport} {e remote : Endpoint}
    (hs : x.sockets.find? 1001 = some (Socket.outgoing t e remote))
    (hlarge : x.profile.Exceeds x.clock .buffer) : (x.serve ⟨1001, true, true⟩).exceeded ≠ none := by
  unfold serve
  rw [hs]
  dsimp only
  cases t with
  | datagram => exact exceeded_exchangeData hs nofun rfl hlarge true
  | stream =>
    -- The connection stands, for the network reports no failure of it.
    let y : Exchange Eager := x.modifySocket 1001 fun s =>
      { s with phase := .active, interest := ⟨true, true⟩ }
    have hfinish : x.finishConnect 1001 = (true, y.announceAll 1001 (y.directory.onSocket 1001)) := by
      unfold finishConnect
      rw [hs]
      rfl
    have hactive : (y.announceAll 1001 (y.directory.onSocket 1001)).sockets.find? 1001 =
        some { Socket.outgoing .stream e remote with phase := .active, interest := ⟨true, true⟩ } := by
      rw [announceAll_eq]
      dsimp only [y, modifySocket]
      rw [Sockets.find?_modify, if_pos rfl, hs]
      rfl
    have hlive : ¬ (Socket.outgoing .stream e remote).isLive = false := nofun
    have hmedium : (Socket.outgoing .stream e remote).medium ≠ .acceptor := nofun
    have hphase : (Socket.outgoing .stream e remote).phase = .connecting := rfl
    rw [if_neg hlive, if_neg hmedium, if_pos hphase, if_neg (by decide : ¬ true = false), hfinish]
    refine exceeded_exchangeData hactive nofun rfl ?_ true
    rw [announceAll_eq]
    exact hlarge

theorem exceeded_poll_of_buffer {x : Exchange Eager} (ho : x.isOpen = true) {t : Transport}
    {e remote : Endpoint} (hs : x.sockets.find? 1001 = some (Socket.outgoing t e remote))
    (hlarge : x.profile.Exceeds x.clock .buffer) : x.poll.2.exceeded ≠ none := by
  obtain ⟨exceeded, hstart⟩ := exceed_unless (eventsFit x.profile.pollCapacity) .events x
  unfold poll
  rw [if_neg (by simp [ho]), hstart]
  dsimp only
  rw [exceeded_armPending]
  exact exceeded_serve_of_buffer (x := { x with exceeded }) hs hlarge

/-! ### Endurance -/

section

variable {ν : Type} [Network ν]

/-- An operation that reads no other settings leaves them alone. -/
theorem profile_apply (x : Exchange ν) {op : Operation ν} (hop : ∀ c, op ≠ .updateProfile c) :
    (x.apply op).profile = x.profile := by
  obtain ⟨c, rfl⟩ | rfl | rfl | hsteady := apply_cases x op
  · exact absurd rfl (hop c)
  · exact profile_deactivate x
  · rfl
  · exact hsteady.profile

theorem profile_run (x : Exchange ν) (ops : List (Operation ν))
    (hops : ∀ op ∈ ops, ∀ c, op ≠ .updateProfile c) : (x.run ops).profile = x.profile := by
  induction ops generalizing x with
  | nil => rfl
  | cons op ops ih =>
    have hrest := ih (x.apply op) fun op' hop' => hops op' (List.mem_cons_of_mem op hop')
    exact hrest.trans (profile_apply x (hops op List.mem_cons_self))

end

end Exchange

/-- **Settings that every exchange endures** until an instant: over whatever network and in whatever
run, no setting has broken it down, as long as other settings that come into effect fit. -/
def Settings.Profile.Endured (p : Profile) (horizon : Nat) : Prop :=
  ∀ (ν : Type) [Network ν] (name : String) (network : ν) (start : Exchange ν)
    (ops : List (Operation ν)), create name p network = .ok start →
    (∀ before, before <+: ops →
      (start.run before).profile = p ∨ (start.run before).profile.Fits horizon) →
    (start.run ops).clock ≤ horizon → (start.run ops).Unbroken

namespace Exchange

/-- The operation that breaks an exchange down whose settings ask too much of a bound. -/
def strain : Limit → Operation Eager
  | .instant => .reportFault 1001
  | .buffer => .poll
  | .events => .poll

/-- An open exchange with one outbound socket breaks down under settings that ask too much. -/
theorem exceeded_strain {x : Exchange Eager} (h : x.Reachable) (ho : x.isOpen = true) {t : Transport}
    {e remote : Endpoint} (hs : x.sockets.find? 1001 = some (Socket.outgoing t e remote)) {l : Limit}
    (hl : x.profile.Exceeds x.clock l) : (x.apply (strain l)).exceeded ≠ none := by
  cases l with
  | instant =>
    have hlive : (Socket.outgoing t e remote).isLive = true := by
      cases t <;> rfl
    exact h.exceeded_of_late hs rfl hlive hl
  | buffer => exact exceeded_poll_of_buffer ho hs hl
  | events => exact exceeded_poll_of_events ho hl

/-- **Settings that are endured fit.**  Where they ask too much of a bound, an exchange with one
outbound socket breaks down in the next operation that comes to it. -/
theorem fits_of_endured {p : Profile} {horizon : Nat} (hs : p.sharing.check = .ok ())
    (h : p.Endured horizon) : p.Fits horizon := by
  rw [Profile.fits_iff]
  intro l hl
  let start : Exchange Eager := { name := "desk", profile := p, network := .eager }
  have hc : create "desk" p Eager.eager = .ok start := by
    unfold create
    rw [hs]
  have hops : ∀ op ∈ moor ++ [.elapse horizon, strain l], ∀ c, op ≠ .updateProfile c := by
    cases l <;> simp [moor, strain]
  have hclock : (start.run (moor ++ [.elapse horizon, strain l])).clock ≤ horizon := by
    rw [clock_run hc]
    cases l <;> simp [moor, strain, Operation.timeOf, Operation.time]
  have hunbroken := h Eager "desk" .eager start _ hc
    (fun before hb => .inl (profile_run start before fun op hop => hops op (hb.subset hop))) hclock
  refine absurd hunbroken.exceeded ?_
  -- The state in front of the operation that breaks it down.
  let x : Exchange Eager := start.run (moor ++ [.elapse horizon])
  have hrun : start.run (moor ++ [.elapse horizon, strain l]) = x.apply (strain l) := by
    rw [← run_snoc, List.append_assoc]
    rfl
  obtain ⟨hprofile, hopen, e, remote, hsocket⟩ := moored "desk" p
  have hx : x = { start.run moor with clock := (start.run moor).clock + horizon } :=
    run_snoc start moor _
  have hnow : x.clock = horizon := by
    rw [show x.clock = _ from clock_run hc _]
    simp [moor, Operation.timeOf, Operation.time]
  have hexceeds : x.profile.Exceeds x.clock l := by
    rw [hnow, hx]
    exact hprofile.symm ▸ hl
  have hsocket' : x.sockets.find? 1001 = some (Socket.outgoing p.transport e remote) := by
    rw [hx]
    exact hsocket
  have hopen' : x.isOpen = true := by
    rw [hx]
    exact hopen
  rw [hrun]
  exact exceeded_strain ⟨"desk", p, .eager, start, _, hc, rfl⟩ hopen' hsocket' hexceeds

/-- **The settings that every exchange endures are those that fit.**  Whatever was read for a retry
interval, a buffer size and a poll capacity, no run breaks down until an instant if and only if the
machine can show the instants of the attempts until then and has room for the buffer and for the
events. -/
theorem endured_iff_fits {c : Configuration} {name : String} {p : Profile}
    (h : Profile.read c name = .ok p) (horizon : Nat) : p.Endured horizon ↔ p.Fits horizon := by
  constructor
  · exact fits_of_endured (Profile.check_sharing_of_read h)
  · intro hfits ν _ name network start ops hc hsettings hclock
    refine unbroken_run hc ops (fun before hb => ?_) hclock
    obtain heq | hother := hsettings before hb
    · exact heq ▸ hfits
    · exact hother

/-- The largest settings that fit in the first second of the clock. -/
def brim : Profile where
  retryInterval := 0x7FFFFFFFFFFFFFFF
  bufferSize := 0x7FFFFFFFFFFFFFFF
  pollCapacity := 768614336404564650

/-- A configuration that asks for them. -/
def brimful : Configuration :=
  ⟨.table [("retryinterval", .integer 0x7FFFFFFFFFFFFFFF),
    ("buffersize", .integer 0x7FFFFFFFFFFFFFFF),
    ("poll_capacity", .integer 768614336404564650)]⟩

/-- They are read, and no exchange breaks down before the second ends, but one does as it ends. -/
theorem endured_brim :
    Profile.read brimful "desk" = .ok brim ∧ brim.Endured 999 ∧ ¬ brim.Endured 1000 := by
  have hread : Profile.read brimful "desk" = .ok brim := rfl
  refine ⟨hread, (endured_iff_fits hread 999).mpr ?_, fun h => ?_⟩
  · exact ⟨by decide, by decide, by decide⟩
  · exact absurd ((endured_iff_fits hread 1000).mp h).retryInterval (by decide)

/-- The largest number of 64 bits under a key. -/
def vast (key : String) : Configuration :=
  ⟨.table [(key, .integer Configuration.maxNatural)]⟩

/-- **No settings that are read exceed a bound,** over whatever network and in whatever run. -/
def Respected (l : Limit) : Prop :=
  ∀ (c : Configuration) (name : String) (p : Profile), Profile.read c name = .ok p →
    ∀ (ν : Type) [Network ν] (network : ν) (start : Exchange ν) (ops : List (Operation ν)),
      create name p network = .ok start → (start.run ops).exceeded ≠ some l

/-- **Not all settings that are read are endured:** each of the bounds is exceeded by a number that is
read without complaint. -/
theorem not_endured : ¬ Respected .instant ∧ ¬ Respected .buffer ∧ ¬ Respected .events := by
  refine ⟨fun h => ?_, fun h => ?_, fun h => ?_⟩
  · refine h (vast "retryinterval") "desk" { retryInterval := Configuration.maxNatural } rfl
      Eager .eager _ (moor ++ [.reportFault 1001]) rfl ?_
    decide +kernel
  · refine h (vast "buffersize") "desk" { bufferSize := Configuration.maxNatural } rfl
      Eager .eager _ (moor ++ [.poll]) rfl ?_
    decide +kernel
  · refine h (vast "poll_capacity") "desk" { pollCapacity := Configuration.maxNatural } rfl
      Eager .eager _ [.openUp, .poll] rfl ?_
    decide +kernel

end Exchange

end Switchboard
