import Switchboard.Proofs.Narrow
import Switchboard.Proofs.Outline.Operations
import Switchboard.Proofs.Supervision.Tables

/-!
# Faults

Faults, attempts, closed sockets and changes of the transport come to the schedule and to the phases
of the sockets, and in every state the two agree (`Reachable.attended`).  While the attempts that are
due are made, the sockets that they are for are noted elsewhere, so what carries that part of the
proof is the list of both (`attended_foldl_retry`).

A socket that has failed waits until another one takes its place, which has a number of its own.  So
a fault of a socket is reported once, and every later report changes nothing
(`Reachable.supervision`).
-/

namespace Switchboard

open Net Settings Relation

namespace Exchange

open Outline Directory

variable {ν : Type} {x y z : Exchange ν}

/-- **Nothing came back to life,** and who waits to be replaced is noted as before. -/
structure Tends (x y : Exchange ν) : Prop where
  next : x.nextSocket ≤ y.nextSocket
  fade : Sockets.Fade x.nextSocket x.sockets y.sockets
  attended : x.sockets.Attended x.outline.retries → y.sockets.Attended y.outline.retries

/-- A socket that is not on the schedule comes to its end. -/
theorem retries_scheduleRetry {id : SocketId} (hid : id ∉ x.outline.retries) (delay : Nat) :
    (x.scheduleRetry id delay).outline.retries = x.outline.retries ++ [id] := by
  have hnone : ¬ x.schedule.any (·.socket == id) = true := by
    rw [List.any_eq_true]
    rintro ⟨r, hr, heq⟩
    exact hid (beq_iff_eq.mp heq ▸ List.mem_map_of_mem hr)
  have hadd : (x.schedule.add id x.clock delay).map Retry.socket = x.outline.retries ++ [id] := by
    rw [Schedule.add, if_neg hnone, List.map_append]
    rfl
  unfold scheduleRetry
  rw [if_neg hnone]
  dsimp only
  split_ifs <;> exact hadd

theorem sockets_scheduleRetry (id : SocketId) (delay : Nat) (x : Exchange ν) :
    (x.scheduleRetry id delay).sockets = x.sockets := by
  obtain ⟨_, _, h⟩ := scheduleRetry_eq id delay x
  rw [h]

theorem nextSocket_scheduleRetry (id : SocketId) (delay : Nat) (x : Exchange ν) :
    (x.scheduleRetry id delay).nextSocket = x.nextSocket := by
  obtain ⟨_, _, h⟩ := scheduleRetry_eq id delay x
  rw [h]

section

variable [Network ν]

theorem sockets_closeSocket (id : SocketId) (x : Exchange ν) :
    (x.closeSocket id).sockets = x.sockets.erase id := by
  unfold closeSocket
  split_ifs with h
  · rfl
  · exact (Sockets.erase_eq_self (Bool.not_eq_true _ ▸ h)).symm

theorem nextSocket_closeSocket (id : SocketId) (x : Exchange ν) :
    (x.closeSocket id).nextSocket = x.nextSocket :=
  congrArg Outline.nextSocket (outline_closeSocket id x)

theorem retries_closeSocket (id : SocketId) (x : Exchange ν) :
    (x.closeSocket id).outline.retries = x.outline.retries := by
  rw [outline_closeSocket]
  rfl

end

namespace Tends

theorem of_same (hn : y.nextSocket = x.nextSocket) (hs : y.sockets = x.sockets)
    (hr : y.schedule = x.schedule) : Tends x y where
  next := Nat.le_of_eq hn.symm
  fade := hs ▸ .refl _ _
  attended h := by
    have hretries : y.outline.retries = x.outline.retries := congrArg (List.map Retry.socket) hr
    rwa [hs, hretries]

theorem refl (x : Exchange ν) : Tends x x :=
  of_same rfl rfl rfl

theorem trans (h : Tends x y) (h' : Tends y z) : Tends x z where
  next := Nat.le_trans h.next h'.next
  fade := h.fade.trans h'.fade h.next
  attended ha := h'.attended (h.attended ha)

theorem modifySocket {id : SocketId} {f : Socket → Socket}
    (hf : ∀ s, x.sockets.find? id = some s → (f s).role = s.role ∧
      ((f s).phase = s.phase ∨ s.isLive = true ∧ (f s).isLive = true)) :
    Tends x (x.modifySocket id f) where
  next := Nat.le_refl _
  fade := by
    refine .modify _ id fun s hs hlive => ?_
    rcases (hf s hs).2 with hp | hboth
    · rwa [s.isLive_iff, ← hp, ← Socket.isLive_iff]
    · exact hboth.1
  attended h := h.modify hf

theorem track {s : Socket} (hlive : s.isLive = true) (x : Exchange ν) : Tends x (track s x) where
  next := Nat.le_of_lt (Sockets.lt_nextFree _ _)
  fade := .add _ s _
  attended h := h.add _ hlive

theorem announceAll (id : SocketId) (cs : List Channel) (x : Exchange ν) :
    Tends x (x.announceAll id cs) := by
  rw [announceAll_eq]
  exact of_same rfl rfl rfl

theorem join (c : Channel) (id : SocketId) (x : Exchange ν) : Tends x (x.join c id) := by
  obtain ⟨newcomers, h⟩ := join_eq c id x
  rw [h]
  have hlinked : Tends x (x.onDirectory (·.link c.id id x.profile.sharing x.listener)) :=
    of_same rfl rfl rfl
  exact hlinked.trans (announceAll id newcomers _)

/-- What a socket is asked for is nothing that counts. -/
theorem arm (id : SocketId) (x : Exchange ν) : Tends x (x.arm id) := by
  refine modifySocket fun s _ => ?_
  split_ifs <;> exact ⟨rfl, .inl rfl⟩

theorem disarm (id : SocketId) (x : Exchange ν) : Tends x (x.disarm id) := by
  refine modifySocket fun s _ => ?_
  split_ifs <;> exact ⟨rfl, .inl rfl⟩

theorem armTargets (ws : List Write) (x : Exchange ν) : Tends x (x.armTargets ws) := by
  unfold Exchange.armTargets
  induction ws generalizing x with
  | nil => exact refl x
  | cons w ws ih =>
    rw [List.foldl_cons]
    split
    · rename_i id _ _
      refine trans ?_ (ih _)
      unfold armUnlessHeld
      split_ifs
      · exact refl x
      · exact arm id x
    · exact ih x

theorem armPending (x : Exchange ν) : Tends x x.armPending :=
  have hkept : Tends x { x with outbox := x.outbox.keep fun w => (x.target? w.channel).isSome } :=
    of_same rfl rfl rfl
  hkept.trans (armTargets _ _)

variable [Network ν]

/-- Closing a socket that is not an outbound one. -/
theorem closeSocket {id : SocketId} (hid : ∀ s, x.sockets.find? id = some s → s.role ≠ .outbound) :
    Tends x (x.closeSocket id) where
  next := Nat.le_of_eq (nextSocket_closeSocket id x).symm
  fade := sockets_closeSocket id x ▸ .erase _ id _
  attended h := by
    rw [sockets_closeSocket, retries_closeSocket]
    refine h.erase_of_not_mem fun hmem => ?_
    obtain ⟨s, hs, hr⟩ := h.tracked id hmem
    exact hid s hs hr

/-- Closing a socket that is struck off. -/
theorem cancel (id : SocketId) (x : Exchange ν) :
    Tends x ({ x with schedule := x.schedule.cancel id }.closeSocket id) where
  next := Nat.le_of_eq (nextSocket_closeSocket id { x with schedule := x.schedule.cancel id }).symm
  fade := by
    rw [sockets_closeSocket]
    exact .erase _ id _
  attended h := by
    have hretries : ({ x with schedule := x.schedule.cancel id } : Exchange ν).outline.retries =
        x.outline.retries.filter (· != id) := by
      simp [outline, Schedule.cancel, List.filter_map, Function.comp_def]
    rw [sockets_closeSocket, retries_closeSocket, hretries]
    exact h.erase id

theorem discard (ids : List SocketId) (x : Exchange ν) : Tends x (x.discard ids) := by
  unfold Exchange.discard
  induction ids generalizing x with
  | nil => exact refl x
  | cons id ids ih =>
    rw [List.foldl_cons]
    exact (cancel id x).trans (ih _)

theorem reportFault (id : SocketId) (x : Exchange ν) : Tends x (reportFault id x).2 := by
  unfold Exchange.reportFault
  split
  · exact refl x
  · rename_i s hs
    split
    · exact refl x
    · rename_i hr
      refine closeSocket fun s' hs' => ?_
      rw [← Option.some.inj (hs.symm.trans hs'), hr]
      exact nofun
    · rename_i hr
      split_ifs with hlive
      · exact refl x
      · rw [Bool.not_eq_false] at hlive
        let y := x.modifySocket id fun s => { s with phase := .retryScheduled }
        refine Tends.trans (y := y.scheduleRetry id x.profile.retryInterval)
          ⟨Nat.le_of_eq (nextSocket_scheduleRetry id _ y).symm, ?_, fun h => ?_⟩ (of_same rfl rfl rfl)
        · rw [sockets_scheduleRetry]
          exact Sockets.Fade.modify _ id (f := fun s => { s with phase := .retryScheduled })
            fun _ _ hwaits => nomatch hwaits
        · -- A live socket is not on the schedule yet.
          have hnew : id ∉ y.outline.retries := (h.isLive_iff hs).mp hlive
          rw [sockets_scheduleRetry, retries_scheduleRetry hnew]
          exact h.fail hs hr hlive

end Tends

/-! ### Attempts -/

variable [Network ν]

theorem sockets_substitute (old : SocketId) (fresh : Socket) (x : Exchange ν) :
    (x.substitute old fresh).sockets = (x.sockets.erase old).add x.nextSocket fresh := by
  have hnext := nextSocket_closeSocket old x
  have hsockets := sockets_closeSocket old x
  unfold substitute track
  dsimp only
  split_ifs
  · rw [announceAll_eq, ← hnext, ← hsockets]
    rfl
  · rw [← hnext, ← hsockets]
    rfl

theorem retries_substitute (old : SocketId) (fresh : Socket) (x : Exchange ν) :
    (x.substitute old fresh).outline.retries = x.outline.retries ∧
      x.nextSocket < (x.substitute old fresh).nextSocket := by
  obtain ⟨next, cs, hnext, heq⟩ := outline_substitute old fresh x
  refine ⟨by rw [heq]; rfl, ?_⟩
  have hnumber : (x.substitute old fresh).nextSocket = next := congrArg Outline.nextSocket heq
  rwa [hnumber]

/-- The state in the middle of an attempt, when the network has answered. -/
def attempting (id : SocketId) (network : ν) (x : Exchange ν) : Exchange ν :=
  { x.modifySocket id fun s => { s with phase := .retrying } with network }

/-- An attempt for an outbound socket fails, or puts a new socket in its place. -/
theorem retry_cases_of_outbound (h : x.outline.Sound) {r : Retry} {s : Socket}
    (hs : x.sockets.find? r.socket = some s) (hr : s.role = .outbound) : ∃ network,
    retry r x = ((x.attempting r.socket network).modifySocket r.socket
      fun s => { s with phase := .retryScheduled }).scheduleRetry r.socket r.delay ∨
    ∃ ownEnd remote, retry r x = (x.attempting r.socket network).substitute r.socket
      (Socket.outgoing x.profile.transport ownEnd remote) := by
  have hn := Sockets.mem_natures.mpr ⟨s, Sockets.mem_of_find? hs, rfl⟩
  have ho : x.isOpen = true := h.not_closed (List.ne_nil_of_mem hn)
  obtain ⟨remote, hfar⟩ := h.farEnd _ hn (by rw [show s.nature.role = .outbound from hr]; nofun)
  unfold retry
  rw [if_neg (by simp [ho]), hs]
  dsimp only
  rw [show s.farEnd = some remote from hfar]
  dsimp only
  split
  · exact ⟨_, .inl rfl⟩
  · exact ⟨_, .inr ⟨_, remote, rfl⟩⟩

/-- An attempt for a socket that waits fails, or puts a new socket in its place. -/
theorem retry_cases (h : x.outline.Sound) {r : Retry} {due : List SocketId}
    (ha : x.sockets.Attended (x.outline.retries ++ r.socket :: due)) : ∃ network,
    retry r x = ((x.attempting r.socket network).modifySocket r.socket
      fun s => { s with phase := .retryScheduled }).scheduleRetry r.socket r.delay ∨
    ∃ ownEnd remote, retry r x = (x.attempting r.socket network).substitute r.socket
      (Socket.outgoing x.profile.transport ownEnd remote) := by
  obtain ⟨s, hs, hr, -⟩ := ha.phase_of_mem (show r.socket ∈ _ by simp)
  exact retry_cases_of_outbound h hs hr

omit [Network ν] in
/-- The schedule after an attempt that failed. -/
theorem retries_retryFailed {r : Retry} {due : List SocketId}
    (ha : x.sockets.Attended (x.outline.retries ++ r.socket :: due)) (network : ν) :
    (((x.attempting r.socket network).modifySocket r.socket
      fun s => { s with phase := .retryScheduled }).scheduleRetry r.socket r.delay).outline.retries =
        x.outline.retries ++ [r.socket] := by
  obtain ⟨hnew, -⟩ := List.nodup_cons.mp (List.nodup_middle.mp ha.once)
  exact retries_scheduleRetry (x := (x.attempting r.socket network).modifySocket r.socket
    fun s => { s with phase := .retryScheduled }) (fun h => hnew (List.mem_append_left _ h)) r.delay

/-- **An attempt** that fails notes its socket again; one that does not puts a live socket in its
place. -/
theorem attended_retry (h : x.outline.Sound) {r : Retry} {due : List SocketId}
    (ha : x.sockets.Attended (x.outline.retries ++ r.socket :: due)) :
    (retry r x).sockets.Attended ((retry r x).outline.retries ++ due) ∧
      x.nextSocket ≤ (retry r x).nextSocket ∧
      Sockets.Fade x.nextSocket x.sockets (retry r x).sockets := by
  obtain ⟨network, heq | ⟨ownEnd, remote, heq⟩⟩ := retry_cases h ha <;> rw [heq]
  · -- The socket waits as before, and comes last on the schedule.
    have hsame : ∀ i, ((x.attempting r.socket network).sockets.modify r.socket
        fun s => { s with phase := .retryScheduled }).find? i = x.sockets.find? i :=
      ha.find?_retried (by simp)
    rw [retries_retryFailed ha, sockets_scheduleRetry, nextSocket_scheduleRetry, List.append_assoc]
    refine ⟨ha.congr hsame, Nat.le_refl _, fun i s hs hlive => .inr ⟨s, ?_, hlive⟩⟩
    exact (hsame i).symm.trans hs
  · generalize hfresh : Socket.outgoing x.profile.transport ownEnd remote = fresh
    have hlive : fresh.isLive = true := by
      rw [← hfresh]
      cases x.profile.transport <;> rfl
    obtain ⟨hretries, hnext⟩ := retries_substitute r.socket fresh (x.attempting r.socket network)
    have herase : ∀ i, ((x.attempting r.socket network).sockets.erase r.socket).find? i =
        (x.sockets.erase r.socket).find? i := by
      intro i
      rw [Sockets.find?_erase, Sockets.find?_erase]
      split_ifs with hi
      · rfl
      · exact (Sockets.find?_modify x.sockets r.socket (fun s => { s with phase := .retrying })
          i).trans (if_neg hi)
    have hgone : Sockets.Fade x.nextSocket x.sockets
        ((x.attempting r.socket network).sockets.erase r.socket) := by
      intro i s hs
      exact Sockets.Fade.erase _ r.socket _ i s (herase i ▸ hs)
    rw [sockets_substitute, hretries]
    exact ⟨(ha.erase_middle.congr herase).add _ hlive, Nat.le_of_lt hnext,
      hgone.trans (.add _ fresh _) (Nat.le_refl _)⟩

theorem sound_retry (h : x.outline.Sound) {r : Retry} {due : List SocketId}
    (ha : x.sockets.Attended (x.outline.retries ++ r.socket :: due)) : (retry r x).outline.Sound := by
  refine h.moves (moves_retry fun n hn => ?_)
  obtain ⟨s, hs, hr, -⟩ := ha.phase_of_mem (show r.socket ∈ _ by simp)
  rw [h.nature_eq hn (Sockets.mem_natures.mpr ⟨s, Sockets.mem_of_find? hs, rfl⟩)]
  exact hr

/-- Attempts that are due, one after the other. -/
theorem attended_foldl_retry (due : List Retry) (h : x.outline.Sound)
    (ha : x.sockets.Attended (x.outline.retries ++ due.map (·.socket))) :
    let y := due.foldl (fun x r => retry r x) x
    y.sockets.Attended y.outline.retries ∧ x.nextSocket ≤ y.nextSocket ∧
      Sockets.Fade x.nextSocket x.sockets y.sockets := by
  induction due generalizing x with
  | nil => exact ⟨by simpa using ha, Nat.le_refl _, .refl _ _⟩
  | cons r due ih =>
    obtain ⟨hfirst, hnext, hfade⟩ := attended_retry h ha
    obtain ⟨hrest, hnext', hfade'⟩ := ih (sound_retry h ha) hfirst
    exact ⟨hrest, Nat.le_trans hnext hnext', hfade.trans hfade' hnext⟩

omit [Network ν] in
/-- Taking the attempts that are due from the schedule leaves all sockets noted. -/
theorem retries_takeDue (x : Exchange ν) :
    x.outline.retries.Perm ((x.schedule.takeDue x.clock).2.map (·.socket) ++
      (x.schedule.takeDue x.clock).1.map (·.socket)) := by
  rw [Schedule.takeDue, List.partition_eq_filter_filter, ← List.map_append]
  exact ((List.perm_append_comm.trans (List.filter_append_perm _ _)).map _).symm

theorem Tends.retryDue (h : x.outline.Sound) (ha : x.sockets.Attended x.outline.retries) :
    Tends x x.retryDue := by
  obtain ⟨hattended, hnext, hfade⟩ := attended_foldl_retry (x.schedule.takeDue x.clock).1
    (h.event (event_takeDue x)) (ha.perm (retries_takeDue x))
  exact ⟨hnext, hfade, fun _ => hattended⟩

/-- **What every attempt keeps, all the attempts that are due keep.**  Each of them is made for an
outbound socket that waits. -/
theorem retryDue_induction {p : Exchange ν → Prop} (h : x.outline.Sound)
    (ha : x.sockets.Attended x.outline.retries)
    (hdue : p { x with schedule := (x.schedule.takeDue x.clock).2 })
    (hretry : ∀ (y : Exchange ν) (r : Retry) (s : Socket), y.outline.Sound →
      y.sockets.find? r.socket = some s → s.role = .outbound → s.phase = .retryScheduled →
        p y → p (retry r y)) : p x.retryDue := by
  have hfold : ∀ (due : List Retry) (y : Exchange ν), y.outline.Sound →
      y.sockets.Attended (y.outline.retries ++ due.map (·.socket)) → p y →
        p (due.foldl (fun x r => retry r x) y) := by
    intro due
    induction due with
    | nil => exact fun _ _ _ hy => hy
    | cons r due ih =>
      intro y hsound hattended hy
      obtain ⟨s, hs, hr, hp⟩ := hattended.phase_of_mem (show r.socket ∈ _ by simp)
      exact ih _ (sound_retry hsound hattended) (attended_retry hsound hattended).1
        (hretry y r s hsound hs hr hp hy)
  exact hfold _ _ (h.event (event_takeDue x)) (ha.perm (retries_takeDue x)) hdue

/-! ### Steps and runs -/

theorem Tends.passStep (hstep : PassStep x y) : Tends x y := by
  cases hstep with
  | answered network => exact .of_same rfl rfl rfl
  | exceeded l => exact .of_same rfl rfl rfl
  | admitted ownEnd remote hs hm => exact .track rfl x
  | @established id s hs hm hp =>
    have hphase : Tends x (x.modifySocket id fun s =>
        { s with phase := .active, interest := ⟨true, true⟩ }) := by
      refine .modifySocket fun s' hs' => ⟨rfl, .inr ⟨?_, rfl⟩⟩
      rw [← Option.some.inj (hs.symm.trans hs'), s.isLive_iff]
      exact .inr hp
    exact hphase.trans (.announceAll id _ _)
  | faulted id => exact .reportFault id x
  | @routed id s sender data hs hp hm hsender =>
    obtain ⟨_, _, _, heq⟩ := route_eq id s.role sender data x
    rw [heq]
    exact .of_same rfl rfl rfl
  | @sent id s i w target count hs hp hm hheld hnext hcount =>
    obtain ⟨_, _, -, heq⟩ := sendBytes_eq id s i w target count x
    rw [heq]
    exact .of_same rfl rfl rfl
  | disarmed id => exact .disarm id x

theorem Tends.passSteps (hsteps : PassSteps x y) : Tends x y := by
  induction hsteps with
  | refl => exact .refl x
  | tail _ hstep ih => exact ih.trans (.passStep hstep)

omit [Network ν] in
theorem Tends.raiseListener (p : Profile) (ownEnd : Endpoint) (x : Exchange ν) :
    Tends x (x.raiseListener p ownEnd) := by
  have hadopted : Tends x { x with profile := p } := .of_same rfl rfl rfl
  have htracked : Tends { x with profile := p } (Exchange.track
      (Socket.listening p.transport ownEnd) { x with profile := p }) := .track rfl _
  exact (hadopted.trans htracked).trans (.of_same rfl rfl rfl)

theorem Tends.closeOutbound (x : Exchange ν) : Tends x x.closeOutbound := by
  unfold Exchange.closeOutbound
  dsimp only
  rw [foldl_onDirectory]
  have hunlinked : ∀ f, Tends x (x.onDirectory f) := fun _ => .of_same rfl rfl rfl
  exact (hunlinked _).trans (.discard _ _)

omit [Network ν] in
/-- The listener is not an outbound socket. -/
theorem role_listener (h : x.outline.Sound) {l : SocketId} (hl : x.listener = some l) {s : Socket}
    (hs : x.sockets.find? l = some s) : s.role = .listener := by
  obtain ⟨n, hn, hr⟩ := h.listener l hl
  obtain ⟨s', hs', rfl⟩ := find?_of_mem_natures h hn
  rw [← Option.some.inj (hs'.symm.trans hs)]
  exact hr

theorem Tends.moveListener (h : x.outline.Sound) (p : Profile) (ownEnd : Endpoint) :
    Tends x (x.moveListener p ownEnd) := by
  have hmoved : ∀ y, Tends x y →
      Tends x (if x.profile.transport ≠ p.transport then y.closeOutbound else y) := by
    intro y hy
    split_ifs
    · exact hy.trans (closeOutbound y)
    · exact hy
  refine hmoved _ ?_
  have hraised := raiseListener p ownEnd x
  split
  · exact hraised
  · rename_i old hl
    have hrole : ∀ s, (x.raiseListener p ownEnd).sockets.find? old = some s →
        s.role ≠ .outbound := by
      intro s hs
      have hfind : (x.sockets.add x.nextSocket (Socket.listening p.transport ownEnd)).find? old =
          some s := hs
      rw [Sockets.find?_add] at hfind
      rcases Option.or_eq_some_iff.mp hfind with hold | ⟨-, hnew⟩
      · rw [role_listener h hl hold]
        exact nofun
      · split_ifs at hnew
        rw [← Option.some.inj hnew]
        exact nofun
    exact (hraised.trans (.closeSocket hrole)).trans (.of_same rfl rfl rfl)

theorem Tends.retain (kept : List Channel) (x : Exchange ν) : Tends x (x.retain kept) := by
  have hkept : Tends x { x with directory := (x.directory.keepOnly fun c =>
      kept.any (·.id == c.id)).2 } := .of_same rfl rfl rfl
  exact (hkept.trans (.discard _ _)).trans (.of_same rfl rfl rfl)

/-- A closed exchange has no sockets, and none is noted. -/
theorem sockets_deactivate (h : x.outline.Sound) :
    x.deactivate.sockets = [] ∧ x.deactivate.outline.retries = [] := by
  have hsound := h.move (move_deactivate x)
  obtain ⟨hnatures, -, hretries, -⟩ := hsound.closed (isOpen_deactivate x)
  exact ⟨List.map_eq_nil_iff.mp hnatures, hretries⟩

theorem Tends.deactivate (h : x.outline.Sound) : Tends x x.deactivate := by
  obtain ⟨hsockets, hretries⟩ := sockets_deactivate h
  refine ⟨(grows_move (move_deactivate x)).next, ?_, fun _ => ?_⟩
  · rw [hsockets]
    exact fun _ _ hs => nomatch (show none = some _ from hs)
  · rw [hsockets, hretries]
    exact .nil

theorem Tends.singleStep (h : x.outline.Sound) (hstep : SingleStep x y) : Tends x y := by
  cases hstep with
  | answered network => exact .of_same rfl rfl rfl
  | elapsed ms => exact .of_same rfl rfl rfl
  | opened ownEnd ho =>
    have hopened : Tends x { x with isOpen := true } := .of_same rfl rfl rfl
    exact hopened.trans (.raiseListener _ ownEnd _)
  | adopted p hs hm ht => exact .of_same rfl rfl rfl
  | moved p ownEnd hs hm ho => exact .moveListener h p ownEnd
  | enrolled s r hv hb => exact .of_same rfl rfl rfl
  | joined ho hc hu hid => exact .join _ _ x
  | @connected c remote ownEnd ho hc hu hd hr hn =>
    refine .trans (.track ?_ x) (.join c _ _)
    cases x.profile.transport <;> rfl
  | retained kept => exact .retain kept x
  | queued data call ho hc ht => exact .of_same rfl rfl rfl
  | armed id => exact .arm id x
  | rearmed => exact .armPending x
  | began c hb => exact .of_same rfl rfl rfl
  | collected c g => exact .of_same rfl rfl rfl
  | finished c g => exact .of_same rfl rfl rfl
  | faulted id => exact .reportFault id x

theorem Tends.plainStep (h : x.outline.Sound) (ha : x.sockets.Attended x.outline.retries)
    (hstep : PlainStep x y) : Tends x y := by
  cases hstep with
  | single hstep => exact .singleStep h hstep
  | retried => exact .retryDue h ha
  | passed ho hp => exact (Tends.passSteps hp).trans ((Tends.armPending _).trans (.of_same rfl rfl rfl))

theorem Tends.step (h : x.outline.Sound) (ha : x.sockets.Attended x.outline.retries)
    (hstep : Step x y) : Tends x y := by
  cases hstep with
  | plain hstep => exact .plainStep h ha hstep
  | deactivated => exact .deactivate h
  | told => exact .of_same rfl rfl rfl

theorem Tends.steps (h : x.outline.Sound) (ha : x.sockets.Attended x.outline.retries)
    (hsteps : Steps x y) : Tends x y := by
  induction hsteps with
  | refl => exact .refl x
  | tail hsteps hstep ih => exact ih.trans (.step (h.moves (moves_steps h hsteps)) (ih.attended ha) hstep)

theorem Tends.run (h : x.outline.Sound) (ha : x.sockets.Attended x.outline.retries)
    (ops : List (Operation ν)) : Tends x (x.run ops) :=
  .steps h ha (steps_run x ops)

/-- **The sockets that wait to be replaced are those on the schedule,** in every state. -/
theorem Reachable.attended (h : x.Reachable) : x.sockets.Attended x.outline.retries := by
  obtain ⟨name, profile, network, start, ops, hc, rfl⟩ := h
  have hsound := sound_create hc
  obtain ⟨hnatures, -, hretries, -⟩ := hsound.closed (congrArg Outline.isOpen (outline_create hc))
  refine (Tends.run hsound ?_ ops).attended ?_ <;>
  · rw [hretries, show start.sockets = [] from List.map_eq_nil_iff.mp hnatures]
    exact .nil

/-! ### Reports -/

/-- A fault is noted of an outbound socket that is live. -/
theorem reportFault_fst (id : SocketId) (x : Exchange ν) : (reportFault id x).1 = true ↔
    ∃ s, x.sockets.find? id = some s ∧ s.role = .outbound ∧ s.isLive = true := by
  unfold reportFault
  cases hs : x.sockets.find? id with
  | none => simp
  | some s =>
    cases hr : s.role with
    | listener => simp [hr]
    | accepted => simp [hr]
    | outbound => cases hlive : s.isLive <;> simp [hr, hlive]

theorem reportFault_of_live {id : SocketId} {s : Socket} (hs : x.sockets.find? id = some s)
    (hr : s.role = .outbound) (hlive : s.isLive = true) : reportFault id x =
      (true, ((x.modifySocket id fun s => { s with phase := .retryScheduled }).scheduleRetry id
        x.profile.retryInterval).onDirectory (·.setReconnecting id true)) := by
  unfold reportFault
  rw [hs]
  dsimp only
  rw [hr]
  dsimp only
  rw [if_neg (by simp [hlive])]

/-- A report changes nothing, unless the socket is live. -/
theorem reportFault_eq_self (ha : x.sockets.Attended x.outline.retries) {id : SocketId}
    (hlive : ∀ s, x.sockets.find? id = some s → s.isLive = false) :
    reportFault id x = (false, x) := by
  unfold reportFault
  split
  · rfl
  · rename_i s hs
    -- Accepted connections and the listener are live for as long as they are tracked.
    have hid : id ∈ x.outline.retries := by
      by_contra hnot
      exact nomatch (hlive s hs).symm.trans ((ha.isLive_iff hs).mpr hnot)
    obtain ⟨s', hs', hr⟩ := ha.tracked id hid
    obtain rfl := Option.some.inj (hs.symm.trans hs')
    rw [hr]
    dsimp only
    rw [if_pos (hlive s hs)]

/-- The socket of a fault that was noted is not live any more. -/
theorem not_live_reportFault {id : SocketId} (h : (reportFault id x).1 = true) {s : Socket}
    (hs : (reportFault id x).2.sockets.find? id = some s) : s.isLive = false := by
  obtain ⟨s₀, hs₀, hr, hlive⟩ := (reportFault_fst id x).mp h
  have hsockets : (reportFault id x).2.sockets =
      x.sockets.modify id fun s => { s with phase := .retryScheduled } := by
    rw [reportFault_of_live hs₀ hr hlive]
    exact sockets_scheduleRetry ..
  rw [hsockets, Sockets.find?_modify, if_pos rfl, hs₀, Option.map_some] at hs
  rw [← Option.some.inj hs]
  rfl

/-- **Faults and their reports.**  In every state that there is, the schedule and the sockets agree;
a fault is noted of an outbound socket that is active or being connected, and of no other; once it
was noted, no later report of that socket is; and a report of the listener, of an unknown socket or
of one that waits to be replaced changes nothing.

This is so also of the states in which a bound was noted, but they are those of no exchange that is
running: a report whose attempt would come later than the clock can show breaks down when the socket
is marked and the attempt is not on the schedule yet, and no state here is what it leaves. -/
theorem Reachable.supervision (h : x.Reachable) :
    x.sockets.Attended (x.schedule.map (·.socket)) ∧
      (∀ id, (reportFault id x).1 = true ↔ ∃ s, x.sockets.find? id = some s ∧ s.role = .outbound ∧
        (s.phase = .active ∨ s.phase = .connecting)) ∧
      (∀ id, (reportFault id x).1 = true → ∀ ops,
        let y := (reportFault id x).2.run ops
        reportFault id y = (false, y)) ∧
      ∀ id, (x.listener = some id ∨ x.sockets.find? id = none ∨
          ∃ s, x.sockets.find? id = some s ∧ s.phase = .retryScheduled) →
        reportFault id x = (false, x) := by
  have hsound := h.sound
  have ha := h.attended
  refine ⟨ha, fun id => ?_, fun id hnoted ops => ?_, fun id hid => ?_⟩
  · simp only [reportFault_fst, Socket.isLive_iff]
  · -- The socket is not live after the report, and nothing gives its number to another one.
    have hreport := Tends.reportFault id x
    have hreached : (reportFault id x).2.Reachable := h.run [.reportFault id]
    have hrun := Tends.run hreached.sound hreached.attended ops
    refine reportFault_eq_self (hrun.attended hreached.attended) fun s hs => ?_
    by_contra hlive
    obtain ⟨s₀, hs₀, -⟩ := (reportFault_fst id x).mp hnoted
    have hbelow := hsound.below _ (Sockets.mem_natures.mpr ⟨s₀, Sockets.mem_of_find? hs₀, rfl⟩)
    rcases hrun.fade id s hs (eq_true_of_ne_false hlive) with hnew | ⟨s', hs', hlive'⟩
    · exact absurd (Nat.le_trans hreport.next hnew) (Nat.not_le.mpr hbelow)
    · exact nomatch (not_live_reportFault hnoted hs').symm.trans hlive'
  · rcases hid with hl | hnone | ⟨s, hs, hp⟩
    · unfold reportFault
      split
      · rfl
      · rename_i s hs
        rw [role_listener hsound hl hs]
    · exact reportFault_eq_self ha fun s hs => nomatch hnone.symm.trans hs
    · refine reportFault_eq_self ha fun s' hs' => ?_
      rw [← Option.some.inj (hs.symm.trans hs'), Socket.isLive, hp]
      rfl

/-- In the laboratory, a fault of the socket that took the place of the first one is noted once. -/
theorem supervision_lab : lab.Reachable ∧ (reportFault 1002 lab).1 = true ∧
    reportFault 1002 (reportFault 1002 lab).2 = (false, (reportFault 1002 lab).2) := by
  obtain ⟨-, -, honce, -⟩ := Reachable.supervision reachable_lab
  have hnoted : (reportFault 1002 lab).1 = true := by decide +kernel
  exact ⟨reachable_lab, hnoted, honce 1002 hnoted []⟩

end Exchange

end Switchboard
