import Switchboard.Proofs.Supervision.Faults
import Switchboard.Proofs.Supervision.Signals
import Mathlib.Data.List.Induction

/-!
# Whose socket is being replaced

A channel says of itself whether its socket is being replaced.  The flag is raised on the channels of
a socket when it fails, and lowered when another socket takes its place or when the channel loses its
socket.  So it should be raised just where a channel is on a socket that waits to be replaced.

It need not be (`not_flagsTrue`): who joins a socket that waits already is told nothing of the fault,
and its flag stays lowered until the socket is replaced.  There is no other way for a flag to be wrong
(`reconnecting_iff`): the flag of a channel is raised exactly if its socket waits to be replaced and
the channel did not join it late.
-/

namespace Switchboard.Exchange

open Net Settings Relation Directory Outline

variable {ν : Type} {x y z : Exchange ν}

/-- The channel is on a socket that waits to be replaced, or is just being replaced. -/
def AwaitsReplacement (x : Exchange ν) (c : Channel) : Prop :=
  ∃ id s, c ∈ x.directory.onSocket id ∧ x.sockets.find? id = some s ∧
    (s.phase = .retryScheduled ∨ s.phase = .retrying)

/-- **The flags tell the truth.** -/
def FlagsTrue (x : Exchange ν) : Prop :=
  ∀ c ∈ x.directory.channels, x.directory.isReconnecting c = true ↔ x.AwaitsReplacement c

/-- The channel came to a socket that waited to be replaced already. -/
def JoinsLate (x y : Exchange ν) (c : Channel) : Prop :=
  ∃ id s, x.sockets.find? id = some s ∧ s.phase = .retryScheduled ∧
    c ∉ x.directory.onSocket id ∧ c ∈ y.directory.onSocket id

/-! ### A flag that is wrong -/

/-- A new exchange for datagrams over a narrow network. -/
def terrace : Exchange Narrow :=
  { name := "terrace", profile := {}, network := {} }

/-- An outbound channel of the terrace. -/
def lantern : Channel :=
  ⟨0, 0, ⟨"lantern", "on", .outbound⟩, .endpoint (.of (.v4 .unspecified) 9)⟩

/-- Another one of the same item, to the same remote. -/
def shade : Channel :=
  ⟨0, 1, ⟨"lantern", "off", .outbound⟩, lantern.remote⟩

/-- The socket of the first channel fails, and the second one comes to it before it is replaced. -/
def dusk : List (Operation Narrow) := [
  .openUp, .bind lantern.subject lantern.remote, .ensureSocket lantern, .reportFault 1001,
  .bind shade.subject shade.remote, .ensureSocket shade]

/-- Both channels are on a socket that waits to be replaced, and one of them says so. -/
theorem state_dusk : let x := terrace.run dusk
    (x.directory.onSocket 1001 = [lantern, shade] ∧
      (x.sockets.find? 1001).map Socket.phase = some .retryScheduled) ∧
    (x.directory.isReconnecting lantern = true ∧ x.directory.isReconnecting shade = false) := by
  decide +kernel

/-- **The flag of a channel may be lowered while its socket waits to be replaced.** -/
theorem not_flagsTrue : (terrace.run dusk).Reachable ∧ ¬ (terrace.run dusk).FlagsTrue := by
  obtain ⟨⟨hon, hphase⟩, -, hlow⟩ := state_dusk
  refine ⟨⟨"terrace", terrace.profile, terrace.network, terrace, dusk, rfl, rfl⟩, fun h => ?_⟩
  obtain ⟨s, hs, hp⟩ := Option.map_eq_some_iff.mp hphase
  have hshade : shade ∈ (terrace.run dusk).directory.onSocket 1001 := by simp [hon]
  have hraised := (h shade (mem_channels_of_mem_onSocket hshade)).mpr ⟨1001, s, hshade, hs, .inl hp⟩
  exact nomatch hlow.symm.trans hraised

/-- Which sockets wait to be replaced is told by the schedule. -/
theorem awaitsReplacement_iff (ha : x.sockets.Attended x.outline.retries) {c : Channel} :
    x.AwaitsReplacement c ↔ ∃ id ∈ x.outline.retries, c ∈ x.directory.onSocket id := by
  constructor
  · rintro ⟨id, s, hc, hs, hp⟩
    exact ⟨id, (ha.waits id s hs).mp (hp.resolve_right (ha.settled id s hs)), hc⟩
  · rintro ⟨id, hid, hc⟩
    obtain ⟨s, hs, -, hp⟩ := ha.phase_of_mem hid
    exact ⟨id, s, hc, hs, .inl hp⟩

/-! ### Operations that give sockets to channels -/

/-- **No socket failed or went, and nobody lost a socket.** -/
structure Gathered (x y : Exchange ν) : Prop where
  directory : x.directory.Gathers y.directory
  retries : y.outline.retries = x.outline.retries

namespace Gathered

theorem of_same (hd : y.directory = x.directory) (hr : y.schedule = x.schedule) : Gathered x y where
  directory := hd ▸ .refl _
  retries := congrArg (List.map Retry.socket) hr

theorem refl (x : Exchange ν) : Gathered x x :=
  of_same rfl rfl

theorem trans (h : Gathered x y) (h' : Gathered y z) : Gathered x z where
  directory := h.directory.trans h'.directory
  retries := h'.retries.trans h.retries

theorem armTargets (ws : List Write) (x : Exchange ν) : Gathered x (x.armTargets ws) := by
  obtain ⟨_, h⟩ := armTargets_eq ws x
  rw [h]
  exact of_same rfl rfl

theorem join (hn : x.directory.core.Numbered) {c : Channel} (hc : c ∈ x.directory.channels)
    (hw : x.directory.Waits c.id) (id : SocketId) : Gathered x (x.join c id) := by
  obtain ⟨newcomers, heq⟩ := join_eq c id x
  obtain ⟨e, he, rfl⟩ := List.mem_map.mp hc
  rw [heq, announceAll_eq]
  exact ⟨.link hn hw (knows_of_mem hn he) id _ _, rfl⟩

theorem attachInbound (hn : x.directory.core.Numbered) {c : Channel}
    (hc : c ∈ x.directory.channels) (hw : x.directory.Waits c.id) :
    Gathered x (x.attachInbound c).2 := by
  unfold Exchange.attachInbound
  split
  · exact refl x
  · exact join hn hc hw _

variable [Network ν]

theorem attachOutbound (hn : x.directory.core.Numbered) {c : Channel}
    (hc : c ∈ x.directory.channels) (hw : x.directory.Waits c.id) :
    Gathered x (x.attachOutbound c).2 := by
  unfold Exchange.attachOutbound
  split
  · exact join hn hc hw _
  · split
    · exact refl x
    · split
      · exact of_same rfl rfl
      · rename_i remote _ _ ownEnd network _
        have hopened : Gathered x (track (Socket.outgoing x.profile.transport ownEnd remote)
            { x with network }) := of_same rfl rfl
        exact hopened.trans (join (x := track (Socket.outgoing x.profile.transport ownEnd remote)
          { x with network }) hn hc hw x.nextSocket)

theorem ensureSocket (hn : x.directory.core.Numbered) (c : Channel) :
    Gathered x (x.ensureSocket c).2 := by
  unfold Exchange.ensureSocket
  split_ifs with _ hk
  · exact refl x
  · exact refl x
  · obtain ⟨e, he, rfl⟩ := mem_of_knows (eq_true_of_ne_false hk)
    have hc := List.mem_map_of_mem (f := Entry.channel) he
    split
    · exact refl x
    · rename_i hnone
      split
      · exact attachInbound hn hc (waits_of_mem hc hnone)
      · exact attachOutbound hn hc (waits_of_mem hc hnone)

theorem attachWaiting (cs : List Channel) (h : x.outline.Sound) (ho : x.isOpen = true)
    (hcs : ∀ c ∈ cs, c ∈ x.directory.channels) : Gathered x (attachWaiting cs x).2 := by
  induction cs generalizing x with
  | nil => exact refl x
  | cons c cs ih =>
    have hc := hcs c List.mem_cons_self
    have hrest : ∀ y, Attached x y → Gathered y (Exchange.attachWaiting cs y).2 := fun y hy =>
      ih (h.moves (moves_steps h (SteadySteps.steps hy.steady))) (hy.isOpen.trans ho)
        fun c' hc' => hy.channels ▸ hcs c' (List.mem_cons_of_mem c hc')
    unfold Exchange.attachWaiting
    split_ifs with hwait
    · have hgathered := attachInbound h.numbered hc (waits_of_mem hc hwait.2)
      have hattach := attached_attachInbound ho hc (waits_of_mem hc hwait.2) hwait.1
      split <;> rename_i y heq <;> rw [heq] at hgathered hattach
      · exact hgathered
      · exact hgathered.trans (hrest y hattach)
    · exact hrest x (.refl x)

theorem openUp (h : x.outline.Sound) : Gathered x x.openUp.2 := by
  unfold Exchange.openUp
  split_ifs with hopen
  · exact refl x
  · obtain ⟨e, network, heq⟩ | ⟨ownEnd, network, heq⟩ := openListener_cases { x with isOpen := true }
    · rw [heq]
      exact of_same rfl rfl
    · rw [heq]
      have hmove := move_opened (x := { x with network }) ownEnd (eq_false_of_ne_true hopen)
      have hsound := Sound.move (o := ({ x with network } : Exchange ν).outline) h hmove
      have hraised : Gathered x (raiseListener x.profile ownEnd { x with isOpen := true, network }) :=
        of_same rfl rfl
      exact hraised.trans (attachWaiting _ hsound rfl fun _ => id)

omit [Network ν] in
theorem bind (hn : x.directory.core.Numbered) (s : Subject) (r : Remote) :
    Gathered x (x.bind s r).2 := by
  unfold Exchange.bind enrol
  cases vet s r x.profile.sharing.masks with
  | error e => exact refl x
  | ok u =>
    cases x.directory.bound? s r with
    | some c => exact refl x
    | none =>
      have hcame : Gathered x { x with directory := (x.directory.append s r).2 } :=
        ⟨.append s r x.directory, rfl⟩
      have hnumbered : (x.directory.append s r).2.core.Numbered := by
        rw [core_append]
        exact hn.append rfl (List.length_map _).symm
      dsimp only
      split
      · have hmem : ({ channel := (x.directory.append s r).1 } : Entry) ∈
            (x.directory.append s r).2.entries := List.mem_append_right _ (List.mem_singleton_self _)
        have hattach := attachInbound (x := { x with directory := (x.directory.append s r).2 })
          hnumbered (List.mem_map_of_mem hmem) ⟨_, hmem, rfl, rfl⟩
        split <;> rename_i heq <;> rw [heq] at hattach <;> exact hcame.trans hattach
      · exact hcame

theorem bindAll (h : x.outline.Sound) (bindings : List (Subject × Remote)) :
    Gathered x (bindAll bindings x).2 := by
  induction bindings generalizing x with
  | nil => exact refl x
  | cons binding bindings ih =>
    obtain ⟨s, r⟩ := binding
    have hbind := bind h.numbered s r
    have hsteps := SteadySteps.steps (steady_bind s r x)
    unfold Exchange.bindAll
    split <;> rename_i y heq <;> rw [heq] at hbind hsteps
    · exact hbind
    · have hrest := ih (h.moves (moves_steps h hsteps))
      split <;> rename_i hall <;> rw [hall] at hrest <;> exact hbind.trans hrest

theorem enqueue (hn : x.directory.core.Numbered) (c : Channel) (data : Bytes) (call : Option Nat) :
    Gathered x (x.enqueue c data call).2 := by
  have hensure := ensureSocket hn c
  unfold Exchange.enqueue
  split <;> rename_i y heq <;> rw [heq] at hensure
  · exact hensure
  · split
    · exact hensure
    · refine hensure.trans ?_
      unfold armUnlessHeld
      split_ifs <;> exact of_same rfl rfl

end Gathered

/-! ### Faults -/

/-- **Some sockets failed,** and the flags of their channels were raised. -/
def Failed (x y : Exchange ν) : Prop :=
  Fails x.outline.retries x.directory y.outline.retries y.directory

namespace Failed

/-- Where nothing about flags, links or the schedule changes. -/
theorem of_flags (hf : ∀ c, y.directory.isReconnecting c = x.directory.isReconnecting c)
    (he : y.directory.entries = x.directory.entries) (hr : y.schedule = x.schedule) :
    Failed x y := by
  have hretries : y.outline.retries = x.outline.retries := congrArg (List.map Retry.socket) hr
  unfold Failed
  rw [hretries]
  exact .of_same hf he

theorem of_same (hd : y.directory = x.directory) (hr : y.schedule = x.schedule) : Failed x y :=
  of_flags (fun _ => by rw [hd]) (by rw [hd]) hr

theorem refl (x : Exchange ν) : Failed x x :=
  of_same rfl rfl

theorem trans (h : Failed x y) (h' : Failed y z) : Failed x z :=
  Fails.trans h h'

theorem modifyCall (c : Channel) (f : CallBox → CallBox) (x : Exchange ν) :
    Failed x (x.onDirectory (·.modifyCall c f)) :=
  of_flags (fun c' => isReconnecting_modifyCall c c' f _) (entries_modifyCall ..) rfl

theorem deliver (sender : Option Endpoint) (data : Bytes) (x : Exchange ν) (c : Channel) :
    Failed x (deliver sender data x c) := by
  unfold Exchange.deliver
  dsimp only
  split
  · rename_i far
    split_ifs
    · refine of_flags (fun c' => isReconnecting_modifyStatus c c'
        (f := fun s => { s with lastSender := some far }) (fun _ => rfl) _) ?_ rfl
      unfold onDirectory modifyStatus
      dsimp only
      split_ifs <;> rfl
    · exact of_same rfl rfl
  · exact of_same rfl rfl

theorem route (id : SocketId) (role : Role) (sender : Option Endpoint) (data : Bytes)
    (x : Exchange ν) : Failed x (x.route id role sender data) := by
  have hfold : ∀ (cs : List Channel) (y : Exchange ν),
      Failed y (cs.foldl (Exchange.deliver sender data) y) := by
    intro cs
    induction cs with
    | nil => exact refl
    | cons c cs ih => exact fun y => (deliver sender data y c).trans (ih _)
  unfold Exchange.route
  dsimp only
  split
  · exact (modifyCall _ (fun b => (b.fulfil data).2) x).trans (of_same rfl rfl)
  · exact (hfold _ x).trans (of_same rfl rfl)

theorem sendBytes (id : SocketId) (s : Socket) (i : Nat) (w : Write)
    (target : Option Endpoint) (count : Nat) (x : Exchange ν) :
    Failed x (x.sendBytes id s i w target count) := by
  have hsettled : Failed x (settle s i w count x) := by
    have hgone : Failed x { x with outbox := x.outbox.remove i } := of_same rfl rfl
    unfold settle
    dsimp only
    split_ifs
    · split
      · exact hgone.trans (modifyCall _ _ _)
      · exact hgone
    · exact of_same rfl rfl
  exact hsettled.trans (of_same rfl rfl)

variable [Network ν]

/-- A socket that fails is new to the schedule, because it was live. -/
theorem reportFault (h : x.outline.Sound) (ha : x.sockets.Attended x.outline.retries)
    (id : SocketId) : Failed x (reportFault id x).2 := by
  unfold Exchange.reportFault
  split
  · exact refl x
  · rename_i s hs
    split
    · exact refl x
    · obtain ⟨_, _, _, heq⟩ := closeSocket_eq id x
      dsimp only
      rw [heq]
      exact of_same rfl rfl
    · split_ifs with hlive
      · exact refl x
      · let y := x.modifySocket id fun s => { s with phase := .retryScheduled }
        have hnew : id ∉ y.outline.retries := (ha.isLive_iff hs).mp (eq_true_of_ne_false hlive)
        change Fails _ _ (y.scheduleRetry id x.profile.retryInterval).outline.retries
          ((y.scheduleRetry id x.profile.retryInterval).directory.setReconnecting id true)
        rw [retries_scheduleRetry hnew, directory_scheduleRetry]
        exact .raise h.numbered hnew

theorem passStep (h : x.outline.Sound) (ha : x.sockets.Attended x.outline.retries)
    (hstep : PassStep x y) : Failed x y := by
  cases hstep with
  | answered network => exact of_same rfl rfl
  | exceeded l => exact of_same rfl rfl
  | admitted ownEnd remote hs hm => exact of_same rfl rfl
  | established hs hm hp =>
    unfold establish
    dsimp only
    rw [announceAll_eq]
    exact of_same rfl rfl
  | faulted id => exact reportFault h ha id
  | routed sender data hs hp hm hsender => exact route _ _ sender data x
  | sent count hs hp hm hheld hnext hcount => exact sendBytes _ _ _ _ _ count x
  | disarmed id => exact of_same rfl rfl

theorem passSteps (h : x.outline.Sound) (ha : x.sockets.Attended x.outline.retries)
    (hsteps : PassSteps x y) : Failed x y := by
  induction hsteps with
  | refl => exact refl x
  | tail hsteps hstep ih =>
    have hsound := h.passMoves (passMoves_passSteps h hsteps)
    exact ih.trans (passStep hsound ((Tends.passSteps hsteps).attended ha) hstep)

end Failed

/-! ### Sockets that are replaced, and sockets that go -/

/-- **Some of the sockets that wait went,** and the flags of their channels were lowered. -/
def Abated (x y : Exchange ν) : Prop :=
  Abates x.outline.retries x.directory y.outline.retries y.directory

namespace Abated

theorem of_same (hd : y.directory = x.directory) (hr : y.schedule = x.schedule) : Abated x y := by
  have hretries : y.outline.retries = x.outline.retries := congrArg (List.map Retry.socket) hr
  unfold Abated
  rw [hretries, hd]
  exact .refl _ _

theorem trans (h : Abated x y) (h' : Abated y z) : Abated x z :=
  Abates.trans h h'

theorem armPending (x : Exchange ν) : Abated x x.armPending := by
  obtain ⟨_, _, h⟩ := armPending_eq x
  rw [h]
  exact of_same rfl rfl

end Abated

variable [Network ν]

omit [Network ν] in
/-- The number of the next socket is not on the schedule, nor is it that of an attempt. -/
theorem nextSocket_not_mem (h : x.outline.Sound) {noted : List SocketId}
    (ha : x.sockets.Attended noted) : x.nextSocket ∉ noted := by
  intro hmem
  obtain ⟨s, hs, -⟩ := ha.tracked _ hmem
  exact h.fresh (Sockets.mem_natures.mpr ⟨s, Sockets.mem_of_find? hs, rfl⟩)

theorem directory_substitute (old : SocketId) (fresh : Socket) (x : Exchange ν) :
    let d := (x.directory.relink old x.nextSocket).setReconnecting x.nextSocket false
    (x.substitute old fresh).directory = d.cancelCalls (d.onSocket x.nextSocket) := by
  obtain ⟨_, _, _, heq⟩ := closeSocket_eq old x
  unfold substitute
  dsimp only
  rw [heq]
  split_ifs
  · rw [announceAll_eq]
    rfl
  · rfl

/-- **An attempt** that succeeds takes its socket from those that wait. -/
theorem abates_retry (h : x.outline.Sound) {r : Retry} {due : List SocketId}
    (ha : x.sockets.Attended (x.outline.retries ++ r.socket :: due)) :
    Abates (x.outline.retries ++ r.socket :: due) x.directory
      ((retry r x).outline.retries ++ due) (retry r x).directory := by
  obtain ⟨network, heq | ⟨ownEnd, remote, heq⟩⟩ := retry_cases h ha <;> rw [heq]
  · rw [retries_retryFailed ha, directory_scheduleRetry, List.append_assoc]
    exact .refl _ _
  · generalize Socket.outgoing x.profile.transport ownEnd remote = fresh
    obtain ⟨hnew, -⟩ := List.nodup_cons.mp (List.nodup_middle.mp ha.once)
    have hretries := (retries_substitute r.socket fresh (x.attempting r.socket network)).1
    rw [hretries, directory_substitute]
    have hwaits : x.outline.retries ++ due ⊆ x.outline.retries ++ r.socket :: due :=
      List.append_subset.mpr ⟨List.subset_append_left _ _, fun id hid => by simp [hid]⟩
    refine (Abates.substitute h.numbered hwaits hnew (nextSocket_not_mem h ha) fun id hid => ?_).trans
      (.of_entries (fun c => isReconnecting_cancelCalls _ c _) (entries_cancelCalls ..))
    simp only [List.mem_append, List.mem_cons] at hid ⊢
    tauto

theorem abates_foldl_retry (due : List Retry) (h : x.outline.Sound)
    (ha : x.sockets.Attended (x.outline.retries ++ due.map (·.socket))) :
    let y := due.foldl (fun x r => retry r x) x
    Abates (x.outline.retries ++ due.map (·.socket)) x.directory y.outline.retries y.directory := by
  induction due generalizing x with
  | nil =>
    rw [List.map_nil, List.append_nil]
    exact .refl _ _
  | cons r due ih =>
    exact (abates_retry h ha).trans (ih (sound_retry h ha) (attended_retry h ha).1)

theorem Abated.retryDue (h : x.outline.Sound) (ha : x.sockets.Attended x.outline.retries) :
    Abated x x.retryDue := by
  have hsplit := retries_takeDue x
  have hmade := abates_foldl_retry (x.schedule.takeDue x.clock).1 (h.event (event_takeDue x))
    (ha.perm hsplit)
  exact hmade.of_perm hsplit

/-- Sockets that nobody is on are closed and struck off. -/
theorem Abated.discard {ids : List SocketId} (hids : ∀ id ∈ ids, x.directory.onSocket id = []) :
    Abated x (x.discard ids) := by
  unfold Abated
  rw [outline_discard, directory_discard]
  refine .drop (List.filter_subset_self _) fun id hid => ?_
  by_cases hgone : id ∈ ids
  · exact .inr (hids id hgone)
  · exact .inl (List.mem_filter.mpr ⟨hid, by simpa using hgone⟩)

/-- A change of the transport takes the sockets away from their channels first. -/
theorem Abated.closeOutbound (hn : x.directory.core.Numbered) : Abated x x.closeOutbound := by
  unfold Exchange.closeOutbound
  dsimp only
  rw [foldl_onDirectory]
  generalize (x.sockets.idsWhere fun _ s => s.role != .listener) = ids
  generalize hy : (x.onDirectory fun d => ids.foldl (fun d id => d.unlink id) d) = y
  have hdirectory : y.directory = ids.foldl (fun d id => d.unlink id) x.directory := by
    rw [← hy]
    rfl
  have hretries : y.outline.retries = x.outline.retries := by rw [← hy]; rfl
  unfold Abated
  rw [outline_discard, directory_discard, hdirectory, hretries]
  exact .foldl_unlink hn ids

/-- The listener is not on the schedule, nor is the one that takes its place. -/
theorem Abated.moveListener (h : x.outline.Sound) (ha : x.sockets.Attended x.outline.retries)
    (p : Profile) (ownEnd : Endpoint) : Abated x (x.moveListener p ownEnd) := by
  have hmoved : ∀ y : Exchange ν, y.directory.core.Numbered ∧ Abated x y →
      Abated x (if x.profile.transport ≠ p.transport then y.closeOutbound else y) := by
    intro y hy
    split_ifs
    · exact hy.2.trans (.closeOutbound hy.1)
    · exact hy.2
  refine hmoved _ ?_
  split
  · exact ⟨h.numbered, .of_same rfl rfl⟩
  · rename_i old hl
    obtain ⟨_, _, _, hclose⟩ := closeSocket_eq old (x.raiseListener p ownEnd)
    have hold : old ∉ x.outline.retries := by
      intro hmem
      obtain ⟨s, hs, hr⟩ := ha.tracked old hmem
      exact nomatch hr.symm.trans (role_listener h hl hs)
    rw [hclose]
    exact ⟨h.numbered.map (channel_relinkEntry old x.nextSocket),
      Abates.relink hold (nextSocket_not_mem h ha)⟩

theorem Abated.deactivate (h : x.outline.Sound) : Abated x x.deactivate := by
  unfold Exchange.deactivate close
  split_ifs
  · exact .of_same rfl rfl
  · obtain ⟨_, _, _, _, heq⟩ := discard_eq (x.sockets.map (·.1)) x
    dsimp only
    rw [heq]
    have hcancel : Abates x.outline.retries x.directory x.outline.retries
        (x.directory.cancelCalls x.directory.channels) :=
      .of_entries (fun c => isReconnecting_cancelCalls _ c _) (entries_cancelCalls ..)
    have hn : (x.directory.cancelCalls x.directory.channels).core.Numbered := by
      rw [core_cancelCalls]
      exact h.numbered
    exact hcancel.trans (.unlinkAll hn)

/-- Nobody is on a socket that is closed because nobody is on it. -/
theorem Abated.closeOrphans (x : Exchange ν) : Abated x x.closeOrphans := by
  refine discard fun id hid => ?_
  obtain ⟨s, -, horphan⟩ := Sockets.mem_idsWhere.mp hid
  rw [List.eq_nil_iff_forall_not_mem]
  intro c hc
  obtain ⟨e, he, hs, -⟩ := mem_onSocket.mp hc
  have hlinked := mem_linkedSockets.mpr ⟨e, he, hs⟩
  simp [hlinked] at horphan

theorem Abated.retain (kept : List Channel) (x : Exchange ν) : Abated x (x.retain kept) := by
  have hkept : Abated x { x with directory := (x.directory.keepOnly fun c =>
      kept.any (·.id == c.id)).2 } :=
    Abates.keepOnly (w := x.outline.retries) (d := x.directory) fun c => kept.any (·.id == c.id)
  have hcancel : ∀ (y : Exchange ν) cs outbox,
      Abated y { y with outbox, directory := y.directory.cancelCalls cs } := fun y cs _ =>
    Abates.of_entries (fun c => isReconnecting_cancelCalls cs c _) (entries_cancelCalls ..)
  exact (hkept.trans (.closeOrphans _)).trans (hcancel _ _ _)

/-! ### Operations and runs -/

/-- **What an operation does to the flags.** -/
theorem signals_apply (h : x.outline.Sound) (ha : x.sockets.Attended x.outline.retries)
    (hx : Honest x.outline.retries x.directory) (op : Operation ν) :
    Signals x.outline.retries x.directory (x.apply op).outline.retries (x.apply op).directory := by
  have hgathered : ∀ y, Gathered x y →
      Signals x.outline.retries x.directory y.outline.retries y.directory := by
    intro y hy
    rw [hy.retries]
    exact .of_gathers hy.directory hx
  have habated : ∀ y, Abated x y →
      Signals x.outline.retries x.directory y.outline.retries y.directory := fun y hy =>
    .of_abates hy hx
  have hcall : ∀ c f, Gathered x (x.onDirectory (·.modifyCall c f)) := fun c f =>
    ⟨.of_entries (fun c' => isReconnecting_modifyCall c c' f _) (entries_modifyCall ..), rfl⟩
  cases op with
  | openUp => exact hgathered _ (.openUp h)
  | deactivate => exact habated _ (.deactivate h)
  | updateProfile c =>
    change Signals _ _ (x.updateProfile c).2.outline.retries (x.updateProfile c).2.directory
    obtain ⟨network, heq⟩ | ⟨p, -, -, ⟨-, heq⟩ | ⟨-, ownEnd, network, heq⟩⟩ := updateProfile_eq c x
    · rw [heq]
      exact .refl hx
    · rw [heq]
      exact .refl hx
    · rw [heq]
      exact habated _ (.moveListener (x := { x with network }) h ha p ownEnd)
  | bind s r => exact hgathered _ (.bind h.numbered s r)
  | reconfigure bindings =>
    have hbind := Gathered.bindAll h bindings
    change Signals _ _ (x.reconfigure bindings).2.outline.retries (x.reconfigure bindings).2.directory
    unfold reconfigure
    split
    · exact .refl hx
    · split <;> rename_i y heq <;> rw [heq] at hbind
      · exact hgathered y hbind
      · exact (hgathered y hbind).abates (Abated.retain _ y)
  | ensureSocket c => exact hgathered _ (.ensureSocket h.numbered c)
  | enqueue c data call => exact hgathered _ (.enqueue h.numbered c data call)
  | beginCall c =>
    refine hgathered _ ?_
    change Gathered x (x.beginCall c).2
    unfold beginCall
    split
    · exact .refl x
    · exact hcall c _
  | collect c g => exact hgathered _ (hcall c _)
  | finishCall c g => exact hgathered _ (hcall c _)
  | armPending => exact habated _ (.armPending x)
  | takeAnnouncements => exact habated _ (.of_same rfl rfl)
  | poll =>
    change Signals _ _ x.poll.2.outline.retries x.poll.2.directory
    obtain ⟨-, heq⟩ | ⟨-, y, hpass, heq⟩ := poll_cases x
    · rw [heq]
      exact .refl hx
    · rw [heq]
      have hfailed := Signals.of_fails (Failed.passSteps h ha hpass) h.numbered hx
      exact hfailed.abates (Abated.armPending y)
  | runDueRetries => exact habated _ ((Abated.retryDue h ha).trans (.armPending _))
  | reportFault id => exact .of_fails (Failed.reportFault h ha id) h.numbered hx
  | elapse ms => exact habated _ (.of_same rfl rfl)
  | world network => exact habated _ (.of_same rfl rfl)

/-- **The channel joined its socket late:** the socket waited to be replaced already, and has done so
ever since. -/
def JoinedLate (x : Exchange ν) (ops : List (Operation ν)) (c : Channel) : Prop :=
  EverSince (JoinsLate · · c) (AwaitsReplacement · c) x ops

omit [Network ν] in
/-- Who came to a socket that waits, in words of the schedule. -/
theorem joinsLate_iff (ha : x.sockets.Attended x.outline.retries) {c : Channel} : x.JoinsLate y c ↔
    ∃ id ∈ x.outline.retries, c ∉ x.directory.onSocket id ∧ c ∈ y.directory.onSocket id := by
  constructor
  · rintro ⟨id, s, hs, hp, hc, hc'⟩
    exact ⟨id, (ha.waits id s hs).mp hp, hc, hc'⟩
  · rintro ⟨id, hid, hc, hc'⟩
    obtain ⟨s, hs, -, hp⟩ := ha.phase_of_mem hid
    exact ⟨id, s, hs, hp, hc, hc'⟩

/-- **Whose flag is lowered on a socket that waits** was there and had it lowered, or came to the
socket when it waited already. -/
theorem late_apply (h : x.outline.Sound) (ha : x.sockets.Attended x.outline.retries)
    (hx : Honest x.outline.retries x.directory) (op : Operation ν) {c : Channel}
    (hc : (x.apply op).AwaitsReplacement c) : (x.apply op).directory.isReconnecting c = false ↔
      x.AwaitsReplacement c ∧ x.directory.isReconnecting c = false ∨ x.JoinsLate (x.apply op) c := by
  have hsignals := signals_apply h ha hx op
  have hsteps := steps_apply x op
  have ha' := (Tends.steps h ha hsteps).attended ha
  have hn' := (h.moves (moves_steps h hsteps)).numbered
  rw [awaitsReplacement_iff ha, joinsLate_iff ha]
  obtain ⟨id, hid, hon'⟩ := (awaitsReplacement_iff ha').mp hc
  -- The channel is on one socket before the operation and on one after it.
  have hjoin : (∃ i ∈ x.outline.retries, c ∉ x.directory.onSocket i ∧
      c ∈ (x.apply op).directory.onSocket i) → id ∈ x.outline.retries ∧
        c ∉ x.directory.onSocket id := by
    rintro ⟨i, hi, hout, hin⟩
    obtain rfl := onSocket_unique hn' hin hon'
    exact ⟨hi, hout⟩
  cases hsignals.comes id hid c hon' with
  | before hw hon hf =>
    rw [hf]
    refine ⟨fun hlow => .inl ⟨⟨id, hw, hon⟩, hlow⟩, ?_⟩
    rintro (⟨-, hlow⟩ | hjoined)
    · exact hlow
    · exact absurd hon (hjoin hjoined).2
  | failed hw hon hf =>
    refine ⟨fun hlow => absurd (hf.symm.trans hlow) nofun, ?_⟩
    rintro (⟨⟨i, hi, hi'⟩, -⟩ | hjoined)
    · exact absurd (onSocket_unique h.numbered hon hi' ▸ hi) hw
    · exact absurd (hjoin hjoined).1 hw
  | joined hw hout hf => exact iff_of_true hf (.inr ⟨id, hw, hout, hon'⟩)

/-- Along a run, flags are raised on channels of waiting sockets only, and those of them whose flag
is lowered joined late. -/
theorem flags_run {name : String} {profile : Profile} {network : ν}
    (hx : create name profile network = .ok x) (ops : List (Operation ν)) :
    Honest (x.run ops).outline.retries (x.run ops).directory ∧
      ∀ c, (x.run ops).AwaitsReplacement c ∧ (x.run ops).directory.isReconnecting c = false ↔
        x.JoinedLate ops c := by
  induction ops using List.reverseRecOn with
  | nil =>
    have hentries := congrArg Outline.entries (outline_create hx)
    have hnobody : ∀ c, c ∉ x.directory.channels := by
      intro c hc
      obtain ⟨e, he, -⟩ := List.mem_map.mp hc
      have he : e ∈ x.outline.entries := he
      rw [hentries] at he
      exact nomatch he
    refine ⟨fun c hc => absurd hc (hnobody c), fun c => iff_of_false ?_ ?_⟩
    · rintro ⟨⟨id, s, hc, -⟩, -⟩
      exact hnobody c (mem_channels_of_mem_onSocket hc)
    · rintro ⟨before, op, after, heq, -⟩
      simp at heq
  | append_singleton ops op ih =>
    obtain ⟨hhonest, hlate⟩ := ih
    have hreached : (x.run ops).Reachable := ⟨name, profile, network, x, ops, hx, rfl⟩
    rw [run_snoc]
    refine ⟨(signals_apply hreached.sound hreached.attended hhonest op).honest, fun c => ?_⟩
    constructor
    · rintro ⟨hwaits, hlow⟩
      refine EverSince.snoc ?_ hwaits
      rw [late_apply hreached.sound hreached.attended hhonest op hwaits, hlate c] at hlow
      exact hlow
    · intro hjoined
      obtain ⟨hwaits, hsince⟩ := EverSince.of_snoc hjoined
      refine ⟨hwaits, ?_⟩
      rw [late_apply hreached.sound hreached.attended hhonest op hwaits, hlate c]
      exact hsince

/-- **The flag of a channel is raised exactly if its socket waits to be replaced** and the channel did
not join it late. -/
theorem reconnecting_iff {name : String} {profile : Profile} {network : ν}
    (hx : create name profile network = .ok x) (ops : List (Operation ν)) :
    let y := x.run ops
    ∀ c ∈ y.directory.channels,
      y.directory.isReconnecting c = true ↔ y.AwaitsReplacement c ∧ ¬ x.JoinedLate ops c := by
  intro y c hc
  obtain ⟨hhonest, hlate⟩ := flags_run hx ops
  have hreached : y.Reachable := ⟨name, profile, network, x, ops, hx, rfl⟩
  rw [← hlate c]
  constructor
  · intro hraised
    refine ⟨(awaitsReplacement_iff hreached.attended).mpr (hhonest c hc hraised), fun hlow => ?_⟩
    exact nomatch hraised.symm.trans hlow.2
  · rintro ⟨hwaits, hnot⟩
    by_contra hlow
    exact hnot ⟨hwaits, eq_false_of_ne_true hlow⟩

/-- On the terrace, the second channel joined late. -/
theorem reconnecting_iff_terrace :
    create terrace.name terrace.profile terrace.network = .ok terrace ∧
      (terrace.run dusk).AwaitsReplacement shade ∧ terrace.JoinedLate dusk shade := by
  obtain ⟨⟨hon, hphase⟩, -, hlow⟩ := state_dusk
  have hcreate : create terrace.name terrace.profile terrace.network = .ok terrace := rfl
  have hshade : shade ∈ (terrace.run dusk).directory.onSocket 1001 := by simp [hon]
  obtain ⟨s, hs, hp⟩ := Option.map_eq_some_iff.mp hphase
  have hwaits : (terrace.run dusk).AwaitsReplacement shade := ⟨1001, s, hshade, hs, .inl hp⟩
  have hflag := reconnecting_iff hcreate dusk shade (mem_channels_of_mem_onSocket hshade)
  refine ⟨hcreate, hwaits, ?_⟩
  by_contra hnot
  exact nomatch hlow.symm.trans (hflag.mpr ⟨hwaits, hnot⟩)

end Switchboard.Exchange
