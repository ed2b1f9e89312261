import Switchboard.Proofs.Supervision.Outcomes

/-!
# Attempts to replace sockets

One attempt renews the exchange by one outcome (`renewed_retry`): either the socket comes to the end
of the schedule again, or it goes and a new one takes its place, under the next number.  Renewals
follow one another (`Renewed.cons`), so the attempts that are due renew the exchange by a list of
outcomes, one for each of them (`renewed_foldl_retry`).

So a run of the attempts is a renaming of sockets (`Reachable.runDueRetries_renames`).  Where writes go
is renamed with the rest (`Renewed.target?_eq`), so none is dropped afterwards that had somewhere to
go before.
-/

namespace Switchboard

open Net Settings Directory Outcome

namespace Exchange

variable {ν : Type} {x y z : Exchange ν} [Network ν]

/-- **The exchange after some attempts to replace sockets.**  The network was asked for each of them
once.  The old sockets that were replaced are gone, and the new ones stand at the end; the links and
the states of the channels that had one of them are renewed; whoever was not replaced is noted again.
All else is as it was. -/
structure Renewed (os : List Outcome) (x y : Exchange ν) : Prop where
  asked : Asked x.profile.transport x.sockets.farEnd? os x.nextSocket x.network y.nextSocket y.network
  sockets : y.sockets =
    (x.sockets.filter fun p => (successor? os p.1).isNone) ++ os.filterMap (·.fresh)
  directory : x.directory.Renewed os y.directory
  schedule : y.schedule =
    x.schedule ++ (os.filter (·.fresh.isNone)).map fun o => o.retry.again x.clock
  /-- It breaks down only where the clock cannot show the instant of a further attempt. -/
  exceeded : (∀ o ∈ os, o.fresh = none → x.clock / 1000 + o.retry.delay ≤ latestSecond) →
    y.exceeded = x.exceeded
  name : y.name = x.name
  profile : y.profile = x.profile
  isOpen : y.isOpen = x.isOpen
  listener : y.listener = x.listener
  outbox : y.outbox = x.outbox
  inbox : y.inbox = x.inbox
  clock : y.clock = x.clock

theorem Renewed.refl (x : Exchange ν) : Renewed [] x x where
  asked := .nil x.nextSocket x.network
  sockets := by
    rw [List.filterMap_nil, List.append_nil]
    exact (List.filter_eq_self.mpr fun _ _ => rfl).symm
  directory := .of_none (fun _ ho => absurd ho List.not_mem_nil) x.directory
  schedule := (List.append_nil x.schedule).symm
  exceeded _ := rfl
  name := rfl
  profile := rfl
  isOpen := rfl
  listener := rfl
  outbox := rfl
  inbox := rfl
  clock := rfl

/-! ### One attempt -/

omit [Network ν] in
/-- A socket that is not on the schedule comes to its end. -/
theorem scheduleRetry_of_new {r : Retry} (hr : r.socket ∉ x.outline.retries) :
    x.scheduleRetry r.socket r.delay =
      { x with
        schedule := x.schedule ++ [r.again x.clock]
        exceeded := if latestSecond < x.clock / 1000 + r.delay then x.exceeded <|> some .instant
          else x.exceeded } := by
  have hnone : ¬ x.schedule.any (·.socket == r.socket) = true := by
    rw [List.any_eq_true]
    rintro ⟨r', hr', heq⟩
    exact hr (beq_iff_eq.mp heq ▸ List.mem_map_of_mem hr')
  unfold scheduleRetry
  rw [if_neg hnone, Schedule.add, if_neg hnone]
  dsimp only
  split_ifs <;> rfl

/-- **An attempt that brought a new socket** puts it in the place of the old one. -/
theorem attempting_replaced {id : SocketId} (hold : x.sockets.has id = true)
    (hbelow : ∀ p ∈ x.sockets, p.1 < x.nextSocket) (network : ν) (fresh : Socket) :
    let d := (x.directory.relink id x.nextSocket).setReconnecting x.nextSocket false
    ∃ announcements journal, (x.attempting id network).substitute id fresh =
      { x with
        sockets := (x.sockets.erase id).add x.nextSocket fresh
        nextSocket := x.nextSocket + 1
        directory := d.cancelCalls (d.onSocket x.nextSocket)
        network := Network.close id network
        announcements
        journal } := by
  intro d
  have herase := x.sockets.erase_modify id fun s => { s with phase := .retrying }
  have hhas : (x.attempting id network).sockets.has id = true :=
    (x.sockets.has_modify id (fun s => { s with phase := .retrying }) id).trans hold
  have hnext : ((x.sockets.erase id).add x.nextSocket fresh).nextFree x.nextSocket =
      x.nextSocket + 1 := by
    refine Sockets.nextFree_of_below fun p hp => ?_
    rcases List.mem_append.mp hp with hp | hp
    · exact Nat.le_of_lt (hbelow p (List.mem_of_mem_filter hp))
    · exact Nat.le_of_eq (congrArg Prod.fst (List.mem_singleton.mp hp))
  unfold substitute closeSocket
  rw [if_pos hhas]
  simp only [attempting, modifySocket, track, record, onDirectory, herase, hnext]
  split_ifs
  · rw [announceAll_eq]
    exact ⟨_, _, rfl⟩
  · exact ⟨_, _, rfl⟩

omit [Network ν] in
/-- An attempt that failed leaves its socket as it was. -/
theorem attempting_failed {id : SocketId} (network : ν)
    (hwaits : ∀ s, (id, s) ∈ x.sockets → s.phase = .retryScheduled) :
    ((x.attempting id network).modifySocket id fun s => { s with phase := .retryScheduled }) =
      { x with network } := by
  have hsockets : ((x.sockets.modify id fun s => { s with phase := .retrying }).modify id
      fun s => { s with phase := .retryScheduled }) = x.sockets := by
    rw [Sockets.modify_modify]
    refine Sockets.modify_eq_self fun s hs => ?_
    rw [← hwaits s hs]
  unfold attempting modifySocket
  dsimp only
  rw [hsockets]

section

variable (h : x.outline.Sound) {r : Retry} {s : Socket} {remote : Endpoint} {network : ν}
  (hs : x.sockets.find? r.socket = some s) (hfar : s.farEnd = some remote)

include h hs hfar

/-- An attempt that failed renews nothing, and its socket comes to the end of the schedule again. -/
theorem renewed_failed {cause : SocketError} (hp : s.phase = .retryScheduled)
    (hnew : r.socket ∉ x.outline.retries)
    (hanswer : Network.connect x.profile.transport x.nextSocket remote x.network =
      (.error cause, network)) :
    Renewed [⟨r, none⟩] x (((x.attempting r.socket network).modifySocket r.socket
      fun s => { s with phase := .retryScheduled }).scheduleRetry r.socket r.delay) := by
  have hdistinct : (x.sockets.map Prod.fst).Nodup := Sockets.map_fst_natures x.sockets ▸ h.distinct
  have hwaits : ∀ s', (r.socket, s') ∈ x.sockets → s'.phase = .retryScheduled := by
    intro s' hs'
    rw [← Option.some.inj (hs.symm.trans (Sockets.find?_of_mem hdistinct hs')), hp]
  rw [attempting_failed network hwaits, scheduleRetry_of_new (x := { x with network }) hnew]
  exact {
    asked := .failed (by rw [Sockets.farEnd?, hs]; exact hfar) hanswer (.nil _ _)
    sockets := by
      have hall : (x.sockets.filter fun p => (successor? [⟨r, none⟩] p.1).isNone) = x.sockets :=
        List.filter_eq_self.mpr fun p _ => by rw [successor?_cons]; split_ifs <;> rfl
      rw [hall]
      exact (List.append_nil _).symm
    directory := .of_none (fun o ho => List.mem_singleton.mp ho ▸ rfl) x.directory
    schedule := rfl
    exceeded := fun hfits => if_neg (Nat.not_lt.mpr (hfits _ List.mem_cons_self rfl))
    name := rfl
    profile := rfl
    isOpen := rfl
    listener := rfl
    outbox := rfl
    inbox := rfl
    clock := rfl }

/-- An attempt that brought a new socket renews the exchange by it, under the next number. -/
theorem renewed_replaced {ownEnd : Endpoint}
    (hanswer : Network.connect x.profile.transport x.nextSocket remote x.network =
      (.ok ownEnd, network)) :
    let fresh := Socket.outgoing x.profile.transport ownEnd remote
    Renewed [⟨r, some (x.nextSocket, fresh)⟩] x
      ((x.attempting r.socket network).substitute r.socket fresh) := by
  intro fresh
  have hbelow : ∀ p ∈ x.sockets, p.1 < x.nextSocket := fun p hp =>
    h.below _ (Sockets.mem_natures.mpr ⟨p.2, hp, rfl⟩)
  have hunlinked : ∀ e ∈ x.directory.entries, e.socket ≠ some x.nextSocket := by
    intro e he hlink
    obtain ⟨n, hn, -⟩ := h.linked e he _ hlink
    exact h.fresh hn
  obtain ⟨announcements, journal, heq⟩ := attempting_replaced
    (Sockets.has_iff.mpr ⟨s, Sockets.mem_of_find? hs⟩) hbelow network fresh
  rw [heq]
  exact {
    asked := .replaced (by rw [Sockets.farEnd?, hs]; exact hfar) hanswer (.nil _ _)
    sockets := by
      have hrest : (x.sockets.filter fun p =>
          (successor? [⟨r, some (x.nextSocket, fresh)⟩] p.1).isNone) = x.sockets.erase r.socket := by
        refine List.filter_congr fun p _ => ?_
        rw [← Option.not_isSome, isSome_successor?_singleton, bne_comm]
        rfl
      rw [hrest]
      rfl
    directory := renewed_substitute h.numbered hunlinked r _
    schedule := (List.append_nil x.schedule).symm
    exceeded := fun _ => rfl
    name := rfl
    profile := rfl
    isOpen := rfl
    listener := rfl
    outbox := rfl
    inbox := rfl
    clock := rfl }

end

/-- **One attempt renews the exchange by one outcome.**  A new socket has the next number. -/
theorem renewed_retry (h : x.outline.Sound) {r : Retry} {due : List SocketId}
    (ha : x.sockets.Attended (x.outline.retries ++ r.socket :: due)) :
    ∃ o : Outcome, o.retry = r ∧ (∀ p ∈ o.fresh, p.1 = x.nextSocket) ∧ Renewed [o] x (retry r x) := by
  obtain ⟨s, hs, hr, hp⟩ := ha.phase_of_mem (show r.socket ∈ _ by simp)
  have hn := Sockets.mem_natures.mpr ⟨s, Sockets.mem_of_find? hs, rfl⟩
  have ho : x.isOpen = true := h.not_closed (List.ne_nil_of_mem hn)
  obtain ⟨remote, hfar⟩ := h.farEnd _ hn (by rw [show s.nature.role = .outbound from hr]; nofun)
  replace hfar : s.farEnd = some remote := hfar
  obtain ⟨hnew, -⟩ := List.nodup_cons.mp (List.nodup_middle.mp ha.once)
  unfold retry
  rw [if_neg (by simp [ho]), hs]
  dsimp only
  rw [hfar]
  dsimp only
  split
  · rename_i cause network hanswer
    refine ⟨⟨r, none⟩, rfl, fun p hp => absurd hp (Option.not_mem_none p), ?_⟩
    exact renewed_failed h hs hfar hp (fun hmem => hnew (List.mem_append_left _ hmem)) hanswer
  · rename_i ownEnd network hanswer
    refine ⟨⟨r, some (x.nextSocket, Socket.outgoing x.profile.transport ownEnd remote)⟩, rfl,
      fun p hp => by rw [← Option.some.inj hp], ?_⟩
    exact renewed_replaced h hs hfar hanswer

/-! ### All that are due -/

namespace Renewed

/-- What a look-up finds afterwards: the old socket, unless it was replaced, or a new one. -/
theorem find?_eq {os : List Outcome} (h : Renewed os x y) (id : SocketId) : y.sockets.find? id =
    (if (successor? os id).isNone = true then x.sockets.find? id else none).or
      (Sockets.find? (os.filterMap (·.fresh)) id) := by
  rw [h.sockets, ← Sockets.find?_filter x.sockets (fun i => (successor? os i).isNone)]
  exact List.lookup_append

/-- **Renewals follow one another.** -/
theorem cons {o : Outcome} {os : List Outcome} (hapart : o.Apart os) (h : Renewed [o] x z)
    (h' : Renewed os z y) : Renewed (o :: os) x y where
  asked := by
    have hsame : ∀ o' ∈ os, z.sockets.farEnd? o'.retry.socket = x.sockets.farEnd? o'.retry.socket := by
      intro o' ho'
      obtain ⟨hne, hnew⟩ := hapart o' ho'
      have hnone : Sockets.find? ([o].filterMap (·.fresh)) o'.retry.socket = none := by
        cases hfresh : o.fresh with
        | none => rw [List.filterMap_cons_none hfresh]; rfl
        | some p =>
          rw [List.filterMap_cons_some hfresh, List.filterMap_nil, Sockets.find?_cons,
            if_neg (hnew p hfresh)]
          rfl
      rw [Sockets.farEnd?, h.find?_eq, successor?_cons, if_neg (Ne.symm hne), hnone, Option.or_none]
      rfl
    have hrest := h'.asked
    rw [h.profile] at hrest
    exact h.asked.append (hrest.congr fun o' ho' => (hsame o' ho').symm)
  sockets := by
    have hold : ∀ p ∈ x.sockets, ((successor? os p.1).isNone && (successor? [o] p.1).isNone) =
        (successor? (o :: os) p.1).isNone := by
      intro p _
      rw [successor?_cons, successor?_cons]
      by_cases hp : o.retry.socket = p.1
      · rw [if_pos hp, if_pos hp, successor?_of_ne fun o' ho' => hp ▸ (hapart o' ho').1]
        exact Bool.true_and _
      · rw [if_neg hp, if_neg hp]
        exact Bool.and_true _
    have hnew : (([o].filterMap (·.fresh)).filter fun p => (successor? os p.1).isNone) =
        [o].filterMap (·.fresh) := by
      refine List.filter_eq_self.mpr fun p hp => ?_
      obtain ⟨o₁, ho₁, hfresh⟩ := List.mem_filterMap.mp hp
      rw [List.mem_singleton.mp ho₁] at hfresh
      rw [successor?_of_ne fun o' ho' => (hapart o' ho').2 p hfresh]
      rfl
    rw [h'.sockets, h.sockets, List.filter_append, List.filter_filter, List.filter_congr hold, hnew,
      List.append_assoc, ← List.filterMap_append]
    rfl
  directory := .cons hapart h.directory h'.directory
  schedule := by
    rw [h'.schedule, h.schedule, h.clock, List.append_assoc, ← List.map_append, ← List.filter_append]
    rfl
  exceeded hfits :=
    (h'.exceeded fun o' ho' => by
      rw [h.clock]; exact hfits o' (List.mem_cons_of_mem _ ho')).trans
        (h.exceeded fun o' ho' => hfits o' (by rw [List.mem_singleton.mp ho']; exact List.mem_cons_self))
  name := h'.name.trans h.name
  profile := h'.profile.trans h.profile
  isOpen := h'.isOpen.trans h.isOpen
  listener := h'.listener.trans h.listener
  outbox := h'.outbox.trans h.outbox
  inbox := h'.inbox.trans h.inbox
  clock := h'.clock.trans h.clock

end Renewed

/-- **The attempts that are due renew the exchange by their outcomes,** one for each of them. -/
theorem renewed_foldl_retry (due : List Retry) (h : x.outline.Sound)
    (ha : x.sockets.Attended (x.outline.retries ++ due.map (·.socket))) :
    ∃ os : List Outcome, os.map (·.retry) = due ∧
      Renewed os x (due.foldl (fun x r => retry r x) x) := by
  induction due generalizing x with
  | nil => exact ⟨[], rfl, .refl x⟩
  | cons r due ih =>
    obtain ⟨o, rfl, hfresh, hfirst⟩ := renewed_retry h ha
    obtain ⟨os, hos, hrest⟩ := ih (sound_retry h ha) (attended_retry h ha).1
    have hdue : ∀ o' ∈ os, o'.retry.socket ∈ due.map (·.socket) := fun o' ho' =>
      List.mem_map_of_mem (hos ▸ List.mem_map_of_mem ho')
    obtain ⟨honce, -⟩ := List.nodup_cons.mp (List.nodup_middle.mp ha.once)
    have hnext := nextSocket_not_mem h ha
    refine ⟨o :: os, by rw [List.map_cons, hos], .cons (fun o' ho' => ⟨fun heq => ?_, fun p hp heq => ?_⟩)
      hfirst hrest⟩
    · have hmem := hdue o' ho'
      rw [heq] at hmem
      exact honce (List.mem_append_right _ hmem)
    · have hmem := hdue o' ho'
      rw [heq, hfresh p hp] at hmem
      exact hnext (List.mem_append_right _ (List.mem_cons_of_mem _ hmem))

/-! ### Where writes go -/

namespace Renewed

section

variable {os : List Outcome} (h : Renewed os x y) (hx : x.outline.Sound)
  (hold : ∀ o ∈ os, ∃ s, x.sockets.find? o.retry.socket = some s ∧ s.role = .outbound)

include h hold

/-- A socket that is not an outbound one stays, under its number. -/
theorem find?_of_not_outbound {id : SocketId} {s : Socket} (hs : x.sockets.find? id = some s)
    (hr : s.role ≠ .outbound) : successor? os id = none ∧ y.sockets.find? id = some s := by
  have hnone : successor? os id = none := by
    refine successor?_of_ne ?_
    rintro o ho rfl
    obtain ⟨s', hs', hr'⟩ := hold o ho
    rw [Option.some.inj (hs.symm.trans hs')] at hr
    exact hr hr'
  refine ⟨hnone, ?_⟩
  rw [h.find?_eq, hnone, Option.isNone_none, if_pos rfl, hs, Option.some_or]

include hx

/-- The connections that were taken in stay. -/
theorem connectionTo?_eq (far : Endpoint) : y.connectionTo? far = x.connectionTo? far := by
  have hdistinct : (x.sockets.map Prod.fst).Nodup := Sockets.map_fst_natures x.sockets ▸ hx.distinct
  have hnew : ((os.filterMap (·.fresh)).filter fun p =>
      p.2.role == .accepted && p.2.farEnd == some far) = [] := by
    refine List.filter_eq_nil_iff.mpr fun p hp => ?_
    obtain ⟨o, ho, hfresh⟩ := List.mem_filterMap.mp hp
    obtain ⟨-, remote, ownEnd, -, heq⟩ := h.asked.fresh_spec ho hfresh
    rw [heq]
    exact nofun
  have hkept : ∀ p ∈ x.sockets, ((p.2.role == .accepted && p.2.farEnd == some far) &&
      (successor? os p.1).isNone) = (p.2.role == .accepted && p.2.farEnd == some far) := by
    intro p hp
    by_cases hr : p.2.role = .accepted
    · rw [(h.find?_of_not_outbound hold (Sockets.find?_of_mem hdistinct hp) (hr ▸ nofun)).1]
      exact Bool.and_true _
    · rw [beq_false_of_ne hr]
      rfl
  unfold connectionTo? Sockets.idsWhere
  rw [h.sockets, List.filter_append, List.filter_filter, hnew, List.append_nil, List.filter_congr hkept]

theorem rename_connectionTo? {far : Endpoint} {i : SocketId}
    (hi : x.connectionTo? far = some i) : Outcome.rename os i = i := by
  obtain ⟨s, hs, htest⟩ := Sockets.mem_idsWhere.mp (List.mem_of_mem_head? hi)
  rw [Bool.and_eq_true, beq_iff_eq] at htest
  have hdistinct : (x.sockets.map Prod.fst).Nodup := Sockets.map_fst_natures x.sockets ▸ hx.distinct
  rw [Outcome.rename, (h.find?_of_not_outbound hold (Sockets.find?_of_mem hdistinct hs)
    (by rw [htest.1]; decide)).1]
  rfl

/-- **Where the writes of a channel go is renamed.** -/
theorem target?_eq (c : Channel) :
    y.target? c = (x.target? c).map fun t => (Outcome.rename os t.1, t.2) := by
  have hlink := socketOf_rename h.directory.links c.id
  unfold target?
  rw [hlink]
  cases hid : x.directory.socketOf c.id with
  | none => rfl
  | some id =>
    rw [Option.map_some]
    dsimp only
    by_cases hl : x.listener = some id
    · obtain ⟨n, hn, hr⟩ := hx.listener id hl
      obtain ⟨s, hs, rfl⟩ := find?_of_mem_natures hx hn
      obtain ⟨hnone, hs'⟩ := h.find?_of_not_outbound hold hs
        (by rw [show s.role = s.nature.role from rfl, hr]; nofun)
      have hsame : Outcome.rename os id = id := by rw [Outcome.rename, hnone]; rfl
      have hstatus : y.directory.status c = x.directory.status c := by
        rw [h.directory.states, hid]
        exact if_neg (by simp [hnone])
      rw [hsame, hstatus, hs, hs', isListener, isListener, h.listener, hl, if_neg (by simp),
        if_neg (by simp)]
      cases (c.remote.endpoint? <|> (x.directory.status c).lastSender) with
      | none => rfl
      | some far =>
        simp only [Option.map_some]
        split
        · rw [Option.map_some, hsame]
        · rw [h.connectionTo?_eq hx hold, Option.map_map]
          refine Option.map_congr fun i hi => ?_
          rw [Function.comp_apply, h.rename_connectionTo? hx hold hi]
        · rfl
    · have hfresh : x.listener ≠ some (Outcome.rename os id) := by
        unfold Outcome.rename
        cases hsuccessor : successor? os id with
        | none => exact hl
        | some p =>
          intro hnew
          obtain ⟨o, ho, -, hp⟩ := exists_of_successor? hsuccessor
          obtain ⟨n, hn, -⟩ := hx.listener _ hnew
          exact absurd (hx.below _ hn) (Nat.not_lt.mpr (h.asked.fresh_spec ho hp).1)
      rw [isListener, isListener, h.listener, if_pos (by simpa using hfresh), if_pos (by simpa using hl)]
      rfl

end

end Renewed

/-! ### Asking for the sockets -/

omit [Network ν]

/-- Asking to be told when sockets can be written changes nothing else about them. -/
theorem unarmed_armTargets (ws : List Write) (x : Exchange ν) :
    (x.armTargets ws).sockets.unarmed = x.sockets.unarmed := by
  have harm : ∀ (id : SocketId) (x : Exchange ν), (x.arm id).sockets.unarmed = x.sockets.unarmed := by
    intro id x
    refine (List.map_map ..).trans (List.map_congr_left fun p _ => ?_)
    simp only [Function.comp_apply]
    split_ifs <;> rfl
  unfold armTargets
  induction ws generalizing x with
  | nil => rfl
  | cons w ws ih =>
    rw [List.foldl_cons, ih]
    split
    · unfold armUnlessHeld
      split_ifs
      · rfl
      · exact harm _ x
    · rfl

theorem armPending_unarmed (x : Exchange ν) : ∃ sockets : Sockets, sockets.unarmed = x.sockets.unarmed ∧
    x.armPending = { x with sockets, outbox := x.outbox.keep fun w => (x.target? w.channel).isSome } := by
  have h := unarmed_armTargets (x.outbox.keep fun w => (x.target? w.channel).isSome).writes
    { x with outbox := x.outbox.keep fun w => (x.target? w.channel).isSome }
  obtain ⟨sockets, heq⟩ := armTargets_eq (x.outbox.keep fun w => (x.target? w.channel).isSome).writes
    { x with outbox := x.outbox.keep fun w => (x.target? w.channel).isSome }
  rw [heq] at h
  exact ⟨sockets, h, heq⟩

/-! ### What became of each socket -/

/-- **A socket was replaced.**  It is gone, and a new one with the same far end and the transport in
effect stands under a new number, for the channels that were on the old one and for no others.  None
of them has a call, or says that it is reconnecting. -/
structure Replaced (o : Outcome) (new : SocketId) (fresh : Socket) (x y : Exchange ν) : Prop where
  next : x.nextSocket ≤ new
  peer : ∃ remote ownEnd, x.sockets.farEnd? o.retry.socket = some remote ∧
    fresh = Socket.outgoing x.profile.transport ownEnd remote
  gone : y.sockets.find? o.retry.socket = none
  stands : (y.sockets.find? new).map Socket.unarmed = some fresh.unarmed
  links : ∀ c, y.directory.socketOf c = some new ↔ x.directory.socketOf c = some o.retry.socket
  released : ∀ c : Channel, x.directory.socketOf c.id = some o.retry.socket →
    y.directory.isBusy c = false ∧ y.directory.isReconnecting c = false

/-- **A socket was not replaced.**  It stays, waits for the next attempt, is linked to the same
channels, and is noted once, with the same delay from now on. -/
structure StillWaits (o : Outcome) (x y : Exchange ν) : Prop where
  stays : (y.sockets.find? o.retry.socket).map Socket.unarmed =
    (x.sockets.find? o.retry.socket).map Socket.unarmed
  phase : (y.sockets.find? o.retry.socket).map Socket.phase = some .retryScheduled
  links : ∀ c, y.directory.socketOf c = some o.retry.socket ↔
    x.directory.socketOf c = some o.retry.socket
  noted : y.schedule.filter (·.socket == o.retry.socket) = [o.retry.again x.clock]

/-- A linked socket has a number that was given out. -/
theorem lt_of_socketOf (hx : x.outline.Sound) {c : ChannelId} {id : SocketId}
    (hlink : x.directory.socketOf c = some id) : id < x.nextSocket := by
  obtain ⟨e, he, -, hsocket⟩ := exists_of_socketOf hlink
  obtain ⟨n, hn, -⟩ := hx.linked e he id hsocket
  exact hx.below _ hn

variable [Network ν]

section

variable {os : List Outcome} (h : Renewed os x y) (hx : x.outline.Sound) (hy : y.outline.Sound)
  (hdistinct : (os.map (·.retry.socket)).Nodup) {o : Outcome} (ho : o ∈ os)
  (hold : o.retry.socket < x.nextSocket)

include h hold

/-- No new socket has the number of an old one. -/
theorem find?_fresh : Sockets.find? (os.filterMap (·.fresh)) o.retry.socket = none := by
  refine List.lookup_eq_none_iff.mpr fun p hp => ?_
  obtain ⟨o', ho', hfresh⟩ := List.mem_filterMap.mp hp
  have hnew := (h.asked.fresh_spec ho' hfresh).1
  exact bne_iff_ne.mpr (Nat.ne_of_lt (Nat.lt_of_lt_of_le hold hnew))

include hx hy hdistinct ho

theorem Renewed.replaced {new : SocketId} {fresh : Socket} (hfresh : o.fresh = some (new, fresh)) :
    Replaced o new fresh x y := by
  obtain ⟨hnext, hpeer⟩ := h.asked.fresh_spec ho hfresh
  have hsuccessor : successor? os o.retry.socket = some (new, fresh) :=
    (successor?_of_mem hdistinct ho).trans hfresh
  have hrename : Outcome.rename os o.retry.socket = new := by rw [Outcome.rename, hsuccessor]; rfl
  refine ⟨hnext, hpeer, ?_, ?_, fun c => ?_, fun c hlink => ?_⟩
  · rw [h.find?_eq, hsuccessor, find?_fresh h hold]
    rfl
  · have hmem : (new, fresh) ∈ y.sockets := by
      rw [h.sockets]
      exact List.mem_append_right _ (List.mem_filterMap.mpr ⟨o, ho, hfresh⟩)
    rw [Sockets.find?_of_mem (Sockets.map_fst_natures y.sockets ▸ hy.distinct) hmem]
    rfl
  · rw [socketOf_rename h.directory.links, Option.map_eq_some_iff]
    constructor
    · rintro ⟨i, hi, heq⟩
      have hlt := lt_of_socketOf hx hi
      unfold Outcome.rename at heq
      cases hi' : successor? os i with
      | none =>
        rw [hi'] at heq
        exact absurd (heq ▸ hlt) (Nat.not_lt.mpr hnext)
      | some p =>
        -- Only its own attempt brought the new socket.
        rw [hi'] at heq
        obtain ⟨o', ho', rfl, hp⟩ := exists_of_successor? hi'
        by_cases hsame : o' = o
        · rw [hi, hsame]
        · have hsymm : Std.Symm fun o o' : Outcome => ∀ p ∈ o.fresh, ∀ p' ∈ o'.fresh, p.1 ≠ p'.1 :=
            ⟨fun _ _ hne p hp p' hp' => (hne p' hp' p hp).symm⟩
          exact absurd heq (h.asked.distinct.forall ho' ho hsame p hp _ hfresh)
    · exact fun hlink => ⟨_, hlink, hrename⟩
  · have hstatus : y.directory.status c = (x.directory.status c).released := by
      rw [h.directory.states, hlink, Option.any_some, hsuccessor]
      exact if_pos rfl
    unfold isBusy isReconnecting
    rw [hstatus]
    exact ⟨rfl, rfl⟩

omit hx hy in
theorem Renewed.stillWaits (hfresh : o.fresh = none) (hx' : x.sockets.Attended (x.outline.retries ++
    os.map (·.retry.socket))) (hy' : y.sockets.Attended y.outline.retries) : StillWaits o x y := by
  have hsuccessor : successor? os o.retry.socket = none :=
    (successor?_of_mem hdistinct ho).trans hfresh
  have hstays : y.sockets.find? o.retry.socket = x.sockets.find? o.retry.socket := by
    rw [h.find?_eq, hsuccessor, find?_fresh h hold]
    exact Option.or_none
  obtain ⟨s, hs, -, hphase⟩ := hx'.phase_of_mem
    (List.mem_append_right _ (List.mem_map_of_mem (f := fun o : Outcome => o.retry.socket) ho))
  refine ⟨by rw [hstays], by rw [hstays, hs, Option.map_some, hphase], fun c => ?_, ?_⟩
  · rw [socketOf_rename h.directory.links, Option.map_eq_some_iff]
    constructor
    · rintro ⟨i, hi, heq⟩
      unfold Outcome.rename at heq
      cases hi' : successor? os i with
      | none =>
        rw [hi'] at heq
        exact heq ▸ hi
      | some p =>
        rw [hi'] at heq
        obtain ⟨o', ho', -, hp⟩ := exists_of_successor? hi'
        have hnext := (h.asked.fresh_spec ho' hp).1
        exact absurd (Nat.lt_of_le_of_lt (Nat.le_of_eq heq) hold) (Nat.not_lt.mpr hnext)
    · exact fun hlink => ⟨_, hlink, by rw [Outcome.rename, hsuccessor]; rfl⟩
  · -- The socket is noted once, and here it is.
    have hmem : o.retry.again x.clock ∈ y.schedule := by
      rw [h.schedule]
      refine List.mem_append_right _ (List.mem_map.mpr ⟨o, List.mem_filter.mpr ⟨ho, ?_⟩, rfl⟩)
      rw [hfresh]
      rfl
    exact filter_eq_singleton hy'.once hmem

end

/-! ### Runs of attempts -/

omit [Network ν] in
/-- What became of a socket can be told without its interest. -/
theorem Replaced.congr {o : Outcome} {new : SocketId} {fresh : Socket} (h : Replaced o new fresh x y)
    (hs : z.sockets.unarmed = y.sockets.unarmed) (hd : z.directory = y.directory) :
    Replaced o new fresh x z := by
  have hlook : ∀ id, (z.sockets.find? id).map Socket.unarmed = (y.sockets.find? id).map Socket.unarmed :=
    fun id => by rw [← Sockets.find?_unarmed, hs, Sockets.find?_unarmed]
  refine ⟨h.next, h.peer, ?_, (hlook new).trans h.stands, hd ▸ h.links, hd ▸ h.released⟩
  have hgone := hlook o.retry.socket
  rw [h.gone] at hgone
  exact Option.map_eq_none_iff.mp hgone

omit [Network ν] in
theorem StillWaits.congr {o : Outcome} (h : StillWaits o x y)
    (hs : z.sockets.unarmed = y.sockets.unarmed) (hd : z.directory = y.directory)
    (hn : z.schedule = y.schedule) : StillWaits o x z := by
  have hlook : ∀ id, (z.sockets.find? id).map Socket.unarmed = (y.sockets.find? id).map Socket.unarmed :=
    fun id => by rw [← Sockets.find?_unarmed, hs, Sockets.find?_unarmed]
  refine ⟨(hlook _).trans h.stays, ?_, hd ▸ h.links, hn ▸ h.noted⟩
  have hphase := congrArg (Option.map Socket.phase) (hlook o.retry.socket)
  rw [Option.map_map, Option.map_map] at hphase
  exact hphase.trans h.phase

/-- **A run of the attempts is a renaming.**  In every state every attempt that is due is made, once
and in order.  What they come to renews the exchange; and whatever the network answers, each socket
that is replaced gives its place to a new one, and each that is not waits for the next attempt.  After
that sockets are asked for, which is nothing but their interest, and the writes go that had no target
before the run: none of a channel that was on a socket of the schedule.  Who sent last is as before. -/
theorem Reachable.runDueRetries_renames (h : x.Reachable) :
    let z := x.runDueRetries
    ∃ (os : List Outcome) (y : Exchange ν),
      os.map (·.retry) = x.schedule.filter (·.due ≤ x.clock) ∧
      (os.map (·.retry.socket)).Nodup ∧
      Renewed os { x with schedule := x.schedule.filter (x.clock < ·.due) } y ∧
      (∃ sockets : Sockets, sockets.unarmed = y.sockets.unarmed ∧
        z = { y with sockets, outbox := x.outbox.keep fun w => (x.target? w.channel).isSome }) ∧
      (∀ o ∈ os, ∀ new fresh, o.fresh = some (new, fresh) → Replaced o new fresh x z) ∧
      (∀ o ∈ os, o.fresh = none → StillWaits o x z) ∧
      (∀ w ∈ x.outbox.writes, ∀ r ∈ x.schedule, x.directory.socketOf w.channel.id = some r.socket →
        w ∈ z.outbox.writes) ∧
      ∀ c, (z.directory.status c).lastSender = (x.directory.status c).lastSender := by
  intro z
  have hsound := h.sound.event (event_takeDue x)
  have hattended := h.attended.perm (retries_takeDue x)
  obtain ⟨os, hos, hrenewed⟩ := renewed_foldl_retry (x.schedule.takeDue x.clock).1 hsound hattended
  change Renewed os _ x.retryDue at hrenewed
  have hy : x.retryDue.outline.Sound := h.sound.moves (moves_retryDue h.sound)
  have hy' := (Tends.retryDue h.sound h.attended).attended h.attended
  have hsockets : (x.schedule.takeDue x.clock).1.map (·.socket) = os.map (·.retry.socket) := by
    rw [← hos, List.map_map]
    rfl
  rw [hsockets] at hattended
  have hdistinct : (os.map (·.retry.socket)).Nodup := hattended.once.of_append_right
  have hold : ∀ o ∈ os, ∃ s, x.sockets.find? o.retry.socket = some s ∧ s.role = .outbound :=
    fun o ho => hattended.tracked _ (List.mem_append_right _ (List.mem_map_of_mem ho))
  have hlt : ∀ o ∈ os, o.retry.socket < x.nextSocket := by
    intro o ho
    obtain ⟨s, hs, -⟩ := hold o ho
    exact h.sound.below _ (Sockets.mem_natures.mpr ⟨s, Sockets.mem_of_find? hs, rfl⟩)
  -- Where writes go is renamed, so the same writes have a target as before the run.
  have htarget : ∀ c, (x.retryDue.target? c).isSome = (x.target? c).isSome := by
    intro c
    rw [hrenewed.target?_eq hsound hold, Option.isSome_map]
    rfl
  have hwrites : (x.retryDue.outbox.keep fun w => (x.retryDue.target? w.channel).isSome) =
      x.outbox.keep fun w => (x.target? w.channel).isSome := by
    rw [hrenewed.outbox]
    simp only [htarget]
  obtain ⟨sockets, hunarmed, heq⟩ := armPending_unarmed x.retryDue
  rw [hwrites] at heq
  replace heq : z = _ := heq
  have hdirectory : z.directory = x.retryDue.directory := by rw [heq]
  have hunarmed' : z.sockets.unarmed = x.retryDue.sockets.unarmed := by rw [heq]; exact hunarmed
  have hschedule : z.schedule = x.retryDue.schedule := by rw [heq]
  have hsplit : x.schedule.takeDue x.clock =
      (x.schedule.filter (·.due ≤ x.clock), x.schedule.filter (x.clock < ·.due)) := by
    rw [Schedule.takeDue, List.partition_eq_filter_filter]
    refine Prod.ext rfl (List.filter_congr fun r _ => ?_)
    rw [Function.comp_apply, ← decide_not]
    exact decide_eq_decide.mpr Nat.not_le
  refine ⟨os, x.retryDue, by rw [hos, hsplit], hdistinct, ?_, ⟨sockets, hunarmed, heq⟩,
    fun o ho new fresh hfresh => ?_, fun o ho hfresh => ?_, fun w hw r hr hlink => ?_, fun c => ?_⟩
  · rw [hsplit] at hrenewed
    exact hrenewed
  · have hreplaced := (hrenewed.replaced hsound hy hdistinct ho (hlt o ho) hfresh).congr hunarmed' hdirectory
    exact ⟨hreplaced.next, hreplaced.peer, hreplaced.gone, hreplaced.stands, hreplaced.links,
      hreplaced.released⟩
  · have hwaits := (hrenewed.stillWaits hdistinct ho (hlt o ho) hfresh hattended hy').congr
      hunarmed' hdirectory hschedule
    exact ⟨hwaits.stays, hwaits.phase, hwaits.links, hwaits.noted⟩
  · obtain ⟨s, hs, hrole, -⟩ := h.attended.phase_of_mem (List.mem_map_of_mem hr)
    obtain ⟨target, ht⟩ := target?_of_outbound h.sound ((links_iff h.sound).mpr hlink)
      (Sockets.mem_natures.mpr ⟨s, Sockets.mem_of_find? hs, rfl⟩) hrole
    rw [heq]
    exact List.mem_filter.mpr ⟨hw, by rw [ht]; rfl⟩
  · rw [hdirectory, hrenewed.directory.states]
    split_ifs <;> rfl

end Exchange

/-! ### A slipway -/

namespace Net

/-- **A network that refuses as it was told to:** what it was told about each call to connect, the next
one first. -/
structure Fickle where
  refusals : List Bool := []
  deriving Repr, DecidableEq

instance : Network Fickle where
  listen _ _ e n := (.ok e, n)
  connect _ _ e n :=
    (if n.refusals.head? = some true then .error .unreachable else .ok e, ⟨n.refusals.tail⟩)
  poll watched _ n := (watched.map fun (id, i) => ⟨id, i.read, i.write⟩, n)
  accept _ n := ([], n)
  adopt _ _ n := (.error .unreachable, n)
  failure? _ n := (none, n)
  receive _ n := (⟨[], .dry⟩, n)
  send _ _ data n := (.took data.length, n)
  close _ n := n

end Net

namespace Exchange

/-- A channel to another remote than that of the lantern. -/
def beam : Channel :=
  ⟨0, 1, ⟨"beam", "on", .outbound⟩, .endpoint (.of (.v4 .unspecified) 10)⟩

/-- An exchange that replaces sockets at once.  Two of them have failed while writes waited there, and
the network will refuse the second attempt. -/
def slipway : Exchange Fickle :=
  run { name := "slipway", profile := { transport := .datagram, retryInterval := 0 }, network := {} } [
    .bind lantern.subject lantern.remote,
    .bind beam.subject beam.remote,
    .openUp,
    .ensureSocket lantern,
    .ensureSocket beam,
    .beginCall lantern,
    .enqueue lantern [1] (some 1),
    .enqueue beam [2] none,
    .reportFault 1001,
    .reportFault 1002,
    .world ⟨[false, true]⟩]

theorem reachable_slipway : slipway.Reachable :=
  ⟨"slipway", { transport := .datagram, retryInterval := 0 }, {}, _, _, rfl, rfl⟩

/-- Both attempts are made once, though the second one is due again as soon as it has failed.  The
first channel is on a new socket, and the second one where it was; both writes wait. -/
theorem renames_slipway :
    (∃ os : List Outcome, os.map (·.retry) = [⟨1001, 0, 0⟩, ⟨1002, 0, 0⟩] ∧
      (∀ o ∈ os, ∀ new fresh, o.fresh = some (new, fresh) →
        Replaced o new fresh slipway slipway.runDueRetries) ∧
      ∀ o ∈ os, o.fresh = none → StillWaits o slipway slipway.runDueRetries) ∧
    slipway.runDueRetries.directory.socketOf 0 = some 1003 ∧
    slipway.runDueRetries.directory.socketOf 1 = some 1002 ∧
    slipway.runDueRetries.schedule = [⟨1002, 0, 0⟩] ∧
    slipway.runDueRetries.outbox = slipway.outbox := by
  obtain ⟨os, _, hos, -, -, -, hreplaced, hwaits, -⟩ := reachable_slipway.runDueRetries_renames
  have hdue : slipway.schedule.filter (·.due ≤ slipway.clock) = [⟨1001, 0, 0⟩, ⟨1002, 0, 0⟩] := by
    decide +kernel
  rw [hdue] at hos
  refine ⟨?_, ?_, ?_, ?_, ?_⟩
  · exact ⟨os, hos, hreplaced, hwaits⟩
  all_goals decide +kernel

end Exchange

end Switchboard
