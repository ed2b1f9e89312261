import Switchboard.Proofs.Outline.Growth
import Switchboard.Proofs.Outline.Pass
import Switchboard.Proofs.Step.Operations

/-!
# Operations in moves

Every step of an exchange with a sound outline is a chain of moves of the outline (`moves_step`).
So the outline of every exchange that there is is sound (`Reachable.sound`), and every run is a
chain of moves (`moves_run`).
-/

namespace Switchboard.Exchange

open Net Settings Relation Outline Directory

variable {ν : Type}

/-- **A move, and then some who are to be told** that their socket is active. -/
def MoveTold (o o' : Outline) : Prop :=
  ∃ o₁ cs, Move o o₁ ∧ o₁.isOpen = true ∧ o' = { o₁ with announcements := o₁.announcements ++ cs }

theorem moves_of_moveTold {o o' : Outline} (h : MoveTold o o') : Moves o o' := by
  obtain ⟨o₁, cs, hm, ho, rfl⟩ := h
  exact .tail (.single hm) (.event (.announced o₁ cs (.inl ho)))

/-! ### Links -/

theorem entry_mem_of_waits {x : Exchange ν} (h : x.outline.Sound) {c : Channel}
    (hc : c ∈ x.directory.channels) (hu : x.directory.Waits c.id) :
    { channel := c } ∈ x.outline.entries := by
  obtain ⟨e, he, rfl⟩ := List.mem_map.mp hc
  have hs := hu.socket_eq_none h.numbered he rfl
  obtain ⟨channel, socket⟩ := e
  exact hs ▸ he

/-- Joining a socket is linking, and then some who are to be told. -/
theorem outline_join {x : Exchange ν} {c : Channel} (hk : x.directory.knows c = true)
    (id : SocketId) : ∃ cs, (x.join c id).outline =
      { x.outline.onEntries (·.map (linkEntry c id x.profile.sharing x.listener)) with
        announcements := x.announcements ++ cs } := by
  obtain ⟨cs, hjoin⟩ := join_eq c id x
  refine ⟨cs, ?_⟩
  rw [hjoin, outline_announceAll, outline_onDirectory, core_link hk]
  rfl

theorem knows_of_mem_channels {x : Exchange ν} (h : x.outline.Sound) {c : Channel}
    (hc : c ∈ x.directory.channels) : x.directory.knows c = true := by
  obtain ⟨e, he, rfl⟩ := List.mem_map.mp hc
  exact knows_of_mem h.numbered he

/-- Nobody is on the next socket. -/
theorem socket_ne_nextSocket {x : Exchange ν} (h : x.outline.Sound) {e : Entry}
    (he : e ∈ x.directory.entries) : e.socket ≠ some x.nextSocket := by
  intro hnext
  obtain ⟨n, hn, -⟩ := h.linked e he _ hnext
  exact h.fresh hn

theorem eq_of_waits {x : Exchange ν} (h : x.outline.Sound) {c : Channel}
    (hc : c ∈ x.directory.channels) (hw : x.directory.Waits c.id) {e : Entry}
    (he : e ∈ x.directory.entries) (hid : e.channel.id = c.id) : e = { channel := c } :=
  h.numbered.eq_of_id_eq he (entry_mem_of_waits h hc hw) hid

theorem entries_join {x : Exchange ν} {c : Channel} (hk : x.directory.knows c = true)
    (id : SocketId) : (x.join c id).directory.entries =
      x.directory.entries.map (linkEntry c id x.profile.sharing x.listener) ∧
        (x.join c id).listener = x.listener := by
  obtain ⟨told, heq⟩ := outline_join hk id
  exact ⟨congrArg Outline.entries heq, congrArg Outline.listener heq⟩

theorem moveTold_joined {x : Exchange ν} (h : x.outline.Sound) {c : Channel} {id : SocketId}
    (ho : x.isOpen = true) (hc : c ∈ x.directory.channels) (hu : x.directory.Waits c.id)
    (hid : x.directory.sharedSocket? c x.profile.sharing x.listener = some id ∨
      c.direction = .inbound ∧ x.listener = some id) :
    MoveTold x.outline (x.join c id).outline := by
  obtain ⟨cs, heq⟩ := outline_join (knows_of_mem_channels h hc) id
  have hjoined := Move.joined x.outline x.profile.sharing ho (entry_mem_of_waits h hc hu)
    (hid.imp_left exists_of_sharedSocket?)
  exact ⟨_, cs, hjoined, ho, heq⟩

theorem moveTold_connected {x : Exchange ν} (h : x.outline.Sound) {c : Channel} {remote : Endpoint}
    (ownEnd : Endpoint) (ho : x.isOpen = true) (hc : c ∈ x.directory.channels)
    (hu : x.directory.Waits c.id) (hr : c.remote.endpoint? = some remote) :
    MoveTold x.outline ((track (Socket.outgoing x.profile.transport ownEnd remote) x).join c
      x.nextSocket).outline := by
  have hremote : c.remote = .endpoint remote := by
    cases hc : c.remote with
    | endpoint e => rw [hc] at hr; exact congrArg Remote.endpoint (Option.some.inj hr)
    | mask host port => rw [hc] at hr; exact nomatch hr
  have hnature : (Socket.outgoing x.profile.transport ownEnd remote).nature =
      .outgoing x.profile.transport remote := by
    cases x.profile.transport <;> rfl
  obtain ⟨next, hnext, htrack⟩ := outline_track (Socket.outgoing x.profile.transport ownEnd remote) x
  obtain ⟨cs, heq⟩ := outline_join
    (x := track (Socket.outgoing x.profile.transport ownEnd remote) x)
    (knows_of_mem_channels h hc) x.nextSocket
  have hconnected := Move.connected x.outline next x.profile.sharing ho
    (entry_mem_of_waits h hc hu) hremote hnext
  refine ⟨_, cs, hconnected, ho, ?_⟩
  rw [heq, htrack, hnature]
  rfl

/-- A channel that passed the check is made. -/
theorem move_enrolled (x : Exchange ν) {s : Subject} {r : Remote} {masks : Bool}
    (hv : vet s r masks = .ok ()) : Move x.outline
      ({ x with directory := (x.directory.append s r).2 } : Exchange ν).outline := by
  have hlength : x.directory.statuses.length = x.outline.directory.senders.length :=
    (List.length_map ..).symm
  have henrolled := Move.enrolled x.outline (c := (x.directory.append s r).1) rfl hlength ?_
  · have heq : ({ x with directory := (x.directory.append s r).2 } : Exchange ν).outline =
        { x.outline with directory := (x.directory.append s r).2.core } := rfl
    rw [heq, core_append]
    exact henrolled
  · intro hd
    unfold vet at hv
    cases hr : r.isMask with
    | false => exact hr
    | true =>
      rw [if_pos hr, if_pos (show s.direction = .outbound from hd)] at hv
      exact nomatch hv

/-! ### Writes -/

theorem outline_arm (id : SocketId) (x : Exchange ν) : (x.arm id).outline = x.outline := by
  apply outline_modifySocket
  intro s
  split <;> rfl

theorem outline_armTargets (ws : List Write) (x : Exchange ν) :
    (x.armTargets ws).outline = x.outline := by
  unfold armTargets
  induction ws generalizing x with
  | nil => rfl
  | cons w ws ih =>
    rw [List.foldl_cons, ih]
    split
    · unfold armUnlessHeld
      split
      · rfl
      · exact outline_arm _ x
    · rfl

theorem outline_armPending (x : Exchange ν) : x.armPending.outline =
    { x.outline with outbox := x.outbox.keep fun w => (x.target? w.channel).isSome } := by
  unfold armPending
  rw [outline_armTargets]
  rfl

/-- A pass, and what follows it. -/
theorem move_armPending {o : Outline} {x : Exchange ν} (h : x.outline.Sound)
    (hpass : PassMoves o x.outline) : Move o x.armPending.outline := by
  rw [outline_armPending]
  refine .passed _ hpass (fun w hw ht => ?_) fun w hw id n hlink hn hr => ?_
  · -- A write that has a target is of a channel with a socket.
    obtain ⟨r, hr⟩ := Option.isSome_iff_exists.mp ht
    obtain ⟨link, hlink, -⟩ := knows_of_target? h hr
    exact ⟨link, hlink⟩
  · -- On an outbound socket, every write has a target.
    obtain ⟨target, ht⟩ := target?_of_outbound h hlink hn hr
    rw [ht]
    rfl

theorem move_queued {x : Exchange ν} (h : x.outline.Sound) {c : Channel} {id : SocketId}
    {target : Option Endpoint} (data : Bytes) (call : Option Nat) (ho : x.isOpen = true)
    (hc : c ∈ x.directory.channels) (ht : x.target? c = some (id, target)) :
    Move x.outline ({ x with outbox := x.outbox.push c data call } : Exchange ν).outline := by
  obtain ⟨link, ⟨e, he, hid, hs⟩, hl⟩ := knows_of_target? h ht
  obtain ⟨e', he', rfl⟩ := List.mem_map.mp hc
  obtain rfl := h.numbered.eq_of_id_eq he he' hid
  exact .queued x.outline data call ho he hs hl

/-! ### Closing -/

variable [Network ν]

theorem outline_discard (ids : List SocketId) (x : Exchange ν) : (x.discard ids).outline =
    { x.outline with
      sockets := x.outline.sockets.filter (!ids.contains ·.1)
      retries := x.outline.retries.filter (!ids.contains ·) } := by
  unfold discard
  induction ids generalizing x with
  | nil => simp [outline]
  | cons id ids ih =>
    have hcancel : ({ x with schedule := x.schedule.cancel id } : Exchange ν).outline =
        { x.outline with retries := x.outline.retries.filter (· != id) } := by
      simp [outline, sendings, Schedule.cancel, List.filter_map, Function.comp_def]
    rw [List.foldl_cons, ih, outline_closeSocket, hcancel]
    simp only [Outline.erase, List.filter_filter, List.contains_cons, Bool.not_or, bne,
      Bool.and_comm]

theorem isOpen_deactivate (x : Exchange ν) : x.deactivate.isOpen = false := by
  unfold deactivate close
  cases hx : x.isOpen <;> simp [hx]

theorem move_deactivate (x : Exchange ν) : Move x.outline x.deactivate.outline := by
  unfold deactivate close
  dsimp only
  cases ho : x.isOpen with
  | false => exact .cleared x.outline ho
  | true =>
    rw [if_neg (by decide)]
    -- Every socket that there is is discarded.
    have hdiscard := outline_discard (x.sockets.map (·.1)) x
    have hnone : (x.outline.sockets.filter (!(x.sockets.map (·.1)).contains ·.1)) = [] := by
      rw [List.filter_eq_nil_iff]
      intro s hs
      have hid : s.1 ∈ x.sockets.map (·.1) := by
        rw [← Sockets.map_fst_natures]
        exact List.mem_map_of_mem hs
      simpa using hid
    rw [hnone] at hdiscard
    generalize x.discard (x.sockets.map (·.1)) = y at hdiscard
    have hclosed := Move.closed x.outline ho
    have heq : ∀ d : Directory, d.core = { y.directory.core with
        entries := y.directory.core.entries.map ({ · with socket := none }) } →
        ({ y with isOpen := false, listener := none, schedule := [], announcements := []
                  directory := d, outbox := y.outbox.clear } : Exchange ν).outline =
          { y.outline with
            isOpen := false, listener := none, retries := [], announcements := []
            directory := { y.outline.directory with
              entries := y.outline.entries.map ({ · with socket := none }) }
            outbox := y.outline.outbox.clear } := by
      intro d hd
      rw [outline, hd]
      rfl
    rw [heq _ (by rw [core_unlinkAll, core_cancelCalls]), hdiscard]
    exact hclosed

omit [Network ν] in
theorem outline_foldl_unlink (ids : List SocketId) (x : Exchange ν) :
    (ids.foldl (fun x id => x.onDirectory (·.unlink id)) x).outline =
      x.outline.onEntries (·.map (detachEntry ids.contains)) := by
  induction ids generalizing x with
  | nil =>
    have hid : detachEntry ([] : List SocketId).contains = id := by
      funext e
      unfold detachEntry
      cases e.socket <;> rfl
    rw [hid]
    simp [onEntries]
  | cons id ids ih =>
    have hboth : detachEntry ids.contains ∘ detachEntry (· == id) =
        detachEntry (id :: ids).contains := by
      funext e
      rw [Function.comp_apply, detachEntry_detachEntry]
      rfl
    rw [List.foldl_cons, ih, outline_onDirectory, core_unlink]
    simp only [onEntries, Outline.entries, List.map_map, hboth]
    rfl

omit [Network ν] in
/-- The numbers of some sockets, found by their natures. -/
theorem contains_idsWhere {t : Sockets} {p : SocketId → Socket → Bool}
    {q : SocketId × Nature → Bool} (h : ∀ id s, p id s = q (id, s.nature)) (id : SocketId) :
    (t.idsWhere p).contains id = t.natures.any fun s => s.1 == id && q s := by
  rw [Bool.eq_iff_iff, List.contains_iff_mem, Sockets.mem_idsWhere, List.any_eq_true]
  constructor
  · rintro ⟨s, hs, hp⟩
    exact ⟨(id, s.nature), Sockets.mem_natures.mpr ⟨s, hs, rfl⟩, by simpa [h] using hp⟩
  · rintro ⟨⟨i, n⟩, hn, hq⟩
    obtain ⟨s, hs, rfl⟩ := Sockets.mem_natures.mp hn
    rw [Bool.and_eq_true, beq_iff_eq] at hq
    obtain ⟨rfl, hq⟩ := hq
    exact ⟨s, hs, by rwa [h]⟩

theorem outline_closeOutbound (x : Exchange ν) :
    x.closeOutbound.outline = x.outline.closeOutbound := by
  unfold Exchange.closeOutbound
  have hids : (x.sockets.idsWhere fun _ s => s.role != .listener).contains = x.outline.isOther := by
    funext id
    exact contains_idsWhere (q := fun s => s.2.role != .listener) (fun _ _ => rfl) id
  dsimp only
  rw [outline_discard, outline_foldl_unlink, hids]
  rfl

/-! ### Settings -/

omit [Network ν] in
theorem outline_raiseListener (p : Profile) (ownEnd : Endpoint) (x : Exchange ν) :
    ∃ next, x.nextSocket < next ∧
      (x.raiseListener p ownEnd).outline = x.outline.raise p.transport next := by
  obtain ⟨next, hnext, heq⟩ := outline_track (Socket.listening p.transport ownEnd)
    { x with profile := p }
  have hnature : (Socket.listening p.transport ownEnd).nature = .listening p.transport := by
    cases p.transport <;> rfl
  refine ⟨next, hnext, ?_⟩
  change { (track (Socket.listening p.transport ownEnd) { x with profile := p }).outline with
    listener := some x.nextSocket } = _
  rw [heq, hnature]
  rfl

omit [Network ν] in
theorem move_opened {x : Exchange ν} (ownEnd : Endpoint) (ho : x.isOpen = false) :
    Move x.outline (raiseListener x.profile ownEnd { x with isOpen := true }).outline := by
  obtain ⟨next, hnext, heq⟩ := outline_raiseListener x.profile ownEnd { x with isOpen := true }
  rw [heq]
  exact .opened x.outline next ho hnext

theorem outline_moveListener (p : Profile) (ownEnd : Endpoint) (x : Exchange ν) :
    ∃ next, x.nextSocket < next ∧ (x.moveListener p ownEnd).outline =
      if x.profile.transport ≠ p.transport then (x.outline.rebind p.transport next).closeOutbound
      else x.outline.rebind p.transport next := by
  obtain ⟨next, hnext, hraise⟩ := outline_raiseListener p ownEnd x
  refine ⟨next, hnext, ?_⟩
  unfold moveListener Outline.rebind
  dsimp only
  cases hl : x.listener with
  | none =>
    rw [show x.outline.listener = none from hl]
    split_ifs
    · rw [outline_closeOutbound, hraise]
    · exact hraise
  | some old =>
    rw [show x.outline.listener = some old from hl]
    have hclose := outline_closeSocket old (x.raiseListener p ownEnd)
    rw [hraise] at hclose
    have hrebound : (((x.raiseListener p ownEnd).closeSocket old).onDirectory
        (·.relink old x.nextSocket)).outline = ((x.outline.raise p.transport next).erase
          old).onEntries (·.map (relinkEntry old x.nextSocket)) := by
      rw [outline_onDirectory, core_relink, hclose,
        show ((x.raiseListener p ownEnd).closeSocket old).directory.core =
          ((x.outline.raise p.transport next).erase old).directory from
          congrArg Outline.directory hclose]
      rfl
    split_ifs
    · rw [outline_closeOutbound, hrebound]
      rfl
    · exact hrebound

theorem move_moveListener {x : Exchange ν} (p : Profile) (ownEnd : Endpoint)
    (ho : x.isOpen = true) : Move x.outline (x.moveListener p ownEnd).outline := by
  obtain ⟨next, hnext, heq⟩ := outline_moveListener p ownEnd x
  rw [heq]
  exact .moved x.outline p.transport next ho hnext

/-! ### Channels that go -/

omit [Network ν] in
theorem writes_foldl_dropChannel (removed : List Channel) (o : Outbox) :
    removed.foldl (fun o c => o.dropChannel c.id) o =
      o.keep fun w => !removed.any (·.id == w.channel.id) := by
  induction removed generalizing o with
  | nil => simp [Outbox.keep]
  | cons c removed ih =>
    rw [List.foldl_cons, ih]
    simp only [Outbox.dropChannel, Outbox.keep, List.filter_filter, List.any_cons, Bool.not_or,
      bne, Bool.and_comm, BEq.comm]

theorem outline_closeOrphans (x : Exchange ν) : x.closeOrphans.outline =
    { x.outline with
      sockets := x.outline.sockets.filter (!x.outline.isOrphan x.outline.entries ·.1)
      retries := x.outline.retries.filter (!x.outline.isOrphan x.outline.entries ·) } := by
  have hlinked : ∀ id, x.directory.linkedSockets.contains id =
      x.directory.entries.any fun e => e.socket == some id := by
    intro id
    rw [Bool.eq_iff_iff, List.contains_iff_mem, mem_linkedSockets, List.any_eq_true]
    simp
  have hids : (x.sockets.idsWhere fun id s => s.role == .outbound &&
      !x.directory.linkedSockets.contains id).contains = x.outline.isOrphan x.outline.entries := by
    funext id
    simp only [hlinked]
    exact contains_idsWhere
      (q := fun s => s.2.role == .outbound && !x.directory.entries.any fun e => e.socket == some s.1)
      (fun _ _ => rfl) id
  unfold closeOrphans
  rw [outline_discard, hids]

omit [Network ν] in
/-- Letting the writes and the calls of some channels go. -/
theorem outline_dropChannels (removed : List Channel) (x : Exchange ν) :
    ({ x with
      outbox := removed.foldl (fun o c => o.dropChannel c.id) x.outbox
      directory := x.directory.cancelCalls removed } : Exchange ν).outline =
    { x.outline with
      outbox := x.outline.outbox.keep fun w => !removed.any (·.id == w.channel.id) } := by
  simp only [outline, core_cancelCalls, writes_foldl_dropChannel]
  rfl

theorem outline_retain (kept : List Channel) (x : Exchange ν) :
    (x.retain kept).outline = x.outline.retain fun c => kept.any (·.id == c.id) := by
  unfold Exchange.retain Outline.retain
  dsimp only [Directory.keepOnly]
  rw [outline_dropChannels, outline_closeOrphans]
  simp only [List.any_map, List.any_filter]
  rfl

/-! ### Retries -/

/-- Letting a new socket take the place of an old one, and some who are to be told. -/
theorem outline_substitute (old : SocketId) (fresh : Socket) (x : Exchange ν) :
    ∃ next cs, x.nextSocket < next ∧ (x.substitute old fresh).outline =
      { x.outline.substitute old fresh.nature next with announcements := x.announcements ++ cs } := by
  have hclose := outline_closeSocket old x
  obtain ⟨next, hnext, htrack⟩ := outline_track fresh (x.closeSocket old)
  have hnumber : (x.closeSocket old).nextSocket = x.nextSocket :=
    congrArg Outline.nextSocket hclose
  rw [hnumber] at hnext
  rw [hclose] at htrack
  have hcore : (track fresh (x.closeSocket old)).directory.core = x.directory.core :=
    congrArg Outline.directory htrack
  have hmoved : ((track fresh (x.closeSocket old)).onDirectory fun d =>
      let d := (d.relink old x.nextSocket).setReconnecting x.nextSocket false
      d.cancelCalls (d.onSocket x.nextSocket)).outline =
        x.outline.substitute old fresh.nature next := by
    rw [outline_onDirectory, htrack]
    dsimp only
    rw [core_cancelCalls, core_setReconnecting, core_relink, hcore]
    rfl
  have hannounced : (track fresh (x.closeSocket old)).announcements = x.announcements :=
    congrArg Outline.announcements htrack
  have htold : ∀ cs, (announceAll x.nextSocket cs ((track fresh (x.closeSocket old)).onDirectory
      fun d => let d := (d.relink old x.nextSocket).setReconnecting x.nextSocket false
        d.cancelCalls (d.onSocket x.nextSocket))).outline =
      { x.outline.substitute old fresh.nature next with announcements := x.announcements ++ cs } := by
    intro cs
    rw [outline_announceAll, hmoved, ← hannounced]
    rfl
  unfold Exchange.substitute
  dsimp only
  split
  · exact ⟨next, _, hnext, htold _⟩
  · refine ⟨next, [], hnext, ?_⟩
    rw [hmoved, List.append_nil]
    rfl

omit [Network ν] in
/-- A failed attempt notes the socket again. -/
theorem move_retryFailed {x : Exchange ν} {r : Retry} {n : Nature}
    (hn : (r.socket, n) ∈ x.outline.sockets) (hr : n.role = .outbound) {y : Exchange ν}
    (hy : y.outline = x.outline) : Move x.outline
      ((y.modifySocket r.socket fun s => { s with phase := .retryScheduled }).scheduleRetry
        r.socket r.delay).outline := by
  obtain ⟨retries, hret, heq⟩ := outline_scheduleRetry r.socket r.delay
    (y.modifySocket r.socket fun s => { s with phase := .retryScheduled })
  rw [outline_setPhase, hy] at hret heq
  rw [heq]
  refine .event (.rescheduled x.outline retries fun i hi => ?_)
  rcases hret i hi with hold | rfl
  · exact .inl hold
  · exact .inr ⟨n, hn, hr⟩

/-- A new socket takes the place of the one that failed, and some are to be told. -/
theorem moveTold_substitute {x : Exchange ν} {old : SocketId} {n : Nature} {remote : Endpoint}
    (ownEnd : Endpoint) (ho : x.isOpen = true) (hn : (old, n) ∈ x.outline.sockets)
    (hr : n.role = .outbound) (hfar : n.farEnd = some remote) {y : Exchange ν}
    (hy : y.outline = x.outline) (hprofile : y.profile = x.profile) : MoveTold x.outline
      (y.substitute old (Socket.outgoing y.profile.transport ownEnd remote)).outline := by
  obtain ⟨next, cs, hnext, heq⟩ :=
    outline_substitute old (Socket.outgoing y.profile.transport ownEnd remote) y
  have hnature : (Socket.outgoing y.profile.transport ownEnd remote).nature =
      .outgoing x.outline.transport remote := by
    show _ = Nature.outgoing x.profile.transport remote
    rw [hprofile]
    cases x.profile.transport <;> rfl
  have hnumber : y.nextSocket = x.nextSocket := congrArg Outline.nextSocket hy
  have htold : y.announcements = x.announcements := congrArg Outline.announcements hy
  rw [hnumber] at hnext
  rw [hy, hnature, htold] at heq
  have hsubstituted := Move.substituted x.outline next ho hn hr hfar hnext
  exact ⟨_, cs, hsubstituted, ho, heq⟩

/-- Making an attempt is a chain of moves, if the socket is an outbound one wherever it is
tracked. -/
theorem moves_retry {x : Exchange ν} {r : Retry}
    (hr : ∀ n, (r.socket, n) ∈ x.outline.sockets → n.role = .outbound) :
    Moves x.outline (retry r x).outline := by
  unfold retry
  split
  · exact .refl
  · rename_i ho
    rw [Bool.not_eq_false] at ho
    split
    · exact .refl
    · rename_i s hs
      have hn := Sockets.mem_natures.mpr ⟨s, Sockets.mem_of_find? hs, rfl⟩
      split
      · exact .refl
      · rename_i remote hfar
        -- The attempt shows in the phase alone until the network has answered.
        have hphase := outline_setPhase r.socket .retrying x
        have hprofile : (x.modifySocket r.socket fun s => { s with phase := .retrying }).profile =
            x.profile := rfl
        dsimp only
        generalize (x.modifySocket r.socket fun s => { s with phase := .retrying }) = y
          at hphase hprofile ⊢
        split
        · rename_i network _
          exact .single (move_retryFailed (y := { y with network }) hn (hr _ hn) hphase)
        · rename_i ownEnd network _
          exact moves_of_moveTold (moveTold_substitute (y := { y with network }) ownEnd ho hn (hr _ hn)
            hfar hphase hprofile)

theorem moves_foldl_retry (due : List Retry) {x : Exchange ν} (h : x.outline.Sound)
    (hdue : ∀ r ∈ due, r.socket < x.nextSocket ∧
      ∀ n, (r.socket, n) ∈ x.outline.sockets → n.role = .outbound) :
    Moves x.outline (due.foldl (fun x r => retry r x) x).outline := by
  induction due generalizing x with
  | nil => exact .refl
  | cons r due ih =>
    have hfirst := moves_retry (hdue r List.mem_cons_self).2
    have hgrows := grows_moves hfirst
    refine hfirst.trans (ih (h.moves hfirst) fun r' hr' => ?_)
    obtain ⟨hlt, hout⟩ := hdue r' (List.mem_cons_of_mem r hr')
    refine ⟨Nat.lt_of_lt_of_le hlt hgrows.next, fun n hn => ?_⟩
    -- A number that was given out before is not given to another socket.
    rcases hgrows.sockets _ hn with hold | hnew
    · exact hout n hold
    · exact absurd hlt (Nat.not_lt.mpr hnew)

omit [Network ν] in
/-- Taking the attempts that are due from the schedule strikes sockets off. -/
theorem event_takeDue (x : Exchange ν) : Event x.outline
    ({ x with schedule := (x.schedule.takeDue x.clock).2 } : Exchange ν).outline := by
  refine .rescheduled x.outline _ fun id hid => .inl ?_
  obtain ⟨r, hr, rfl⟩ := List.mem_map.mp hid
  rw [Schedule.takeDue, List.partition_eq_filter_filter] at hr
  exact List.mem_map_of_mem (List.mem_filter.mp hr).1

theorem moves_retryDue {x : Exchange ν} (h : x.outline.Sound) :
    Moves x.outline x.retryDue.outline := by
  have htaken := event_takeDue x
  refine .head (.event htaken) (moves_foldl_retry _ (h.event htaken) fun r hr => ?_)
  rw [Schedule.takeDue, List.partition_eq_filter_filter] at hr
  exact h.retries r.socket (List.mem_map_of_mem (List.mem_filter.mp hr).1)

/-! ### Steps and runs -/

theorem moves_singleStep {x y : Exchange ν} (h : x.outline.Sound) (hstep : SingleStep x y) :
    Moves x.outline y.outline := by
  cases hstep with
  | answered network => exact .refl
  | elapsed ms => exact .refl
  | opened ownEnd ho => exact .single (move_opened ownEnd ho)
  | adopted p hs hm ht => exact .single (.adopted x.outline p.transport ht)
  | moved p ownEnd hs hm ho => exact .single (move_moveListener p ownEnd ho)
  | enrolled s r hv hb => exact .single (move_enrolled x hv)
  | joined ho hc hu hid => exact moves_of_moveTold (moveTold_joined h ho hc hu hid)
  | connected ownEnd ho hc hu hd hr hn =>
    exact moves_of_moveTold (moveTold_connected h ownEnd ho hc hu hr)
  | retained kept =>
    rw [outline_retain]
    exact .single (.retained x.outline _)
  | queued data call ho hc ht => exact .single (move_queued h data call ho hc ht)
  | armed id => rw [outline_arm]
  | rearmed => exact .single (move_armPending h .refl)
  | began c hb => rw [outline_onDirectory_of_core (core_modifyCall _ _ _)]
  | collected c g =>
    unfold Exchange.collect
    rw [outline_onDirectory_of_core (core_modifyCall _ _ _)]
  | finished c g =>
    unfold finishCall
    rw [outline_onDirectory_of_core (core_modifyCall _ _ _)]
  | faulted id => exact moves_of_events (events_reportFault x id)

theorem moves_plainStep {x y : Exchange ν} (h : x.outline.Sound) (hstep : PlainStep x y) :
    Moves x.outline y.outline := by
  cases hstep with
  | single hstep => exact moves_singleStep h hstep
  | retried => exact moves_retryDue h
  | @passed y ho hp =>
    have hpass := passMoves_passSteps h hp
    exact .single (move_armPending (h.passMoves hpass) hpass)

/-- **A step of an exchange is a chain of moves of its outline.** -/
theorem moves_step {x y : Exchange ν} (h : x.outline.Sound) (hstep : Step x y) :
    Moves x.outline y.outline := by
  cases hstep with
  | plain hstep => exact moves_plainStep h hstep
  | deactivated => exact .single (move_deactivate x)
  | told => exact .single (.told x.outline)

theorem moves_steps {x y : Exchange ν} (h : x.outline.Sound) (hsteps : Steps x y) :
    Moves x.outline y.outline := by
  induction hsteps with
  | refl => exact .refl
  | tail _ hstep ih => exact ih.trans (moves_step (h.moves ih) hstep)

/-- **A run of an exchange is a chain of moves of its outline.** -/
theorem moves_run {x : Exchange ν} (h : x.outline.Sound) (ops : List (Operation ν)) :
    Moves x.outline (x.run ops).outline :=
  moves_steps h (steps_run x ops)

omit [Network ν] in
/-- The outline of a new exchange has nothing in it. -/
theorem outline_create {name : String} {profile : Profile} {network : ν} {x : Exchange ν}
    (h : create name profile network = .ok x) :
    x.outline = ⟨false, profile.transport, none, 1000, [], ⟨0, [], []⟩, [], [], {}, []⟩ := by
  unfold create at h
  split at h
  · exact nomatch h
  · rw [← Except.ok.inj h]
    rfl

omit [Network ν] in
theorem sound_create {name : String} {profile : Profile} {network : ν} {x : Exchange ν}
    (h : create name profile network = .ok x) : x.outline.Sound := by
  rw [outline_create h]
  exact sound_of_closed rfl ⟨rfl, rfl, rfl, rfl, rfl⟩
    ⟨fun e he => (nomatch he), fun e he => (nomatch he), .nil⟩
    (fun e he => nomatch he) fun e he => nomatch he

/-- **The outline of every exchange that there is is sound.** -/
theorem Reachable.sound {x : Exchange ν} (h : x.Reachable) : x.outline.Sound := by
  obtain ⟨name, profile, network, start, ops, hc, rfl⟩ := h
  exact (sound_create hc).moves (moves_run (sound_create hc) ops)

end Switchboard.Exchange
