import Switchboard.Proofs.Changes

/-!
# Changes that tell nobody

The protocol is to be told of each channel whose socket becomes active.  A channel is `Up` on a socket
while it is linked to it and the socket is active, and not the listener; what was announced is the list
of `activations`.

Most of what happens to an exchange is `Silent`: nobody is announced, and nobody comes up.  Here this
is shown of the small steps first and then of what is made of them: closing sockets, moving the
listener, letting channels go, faults, and handing data on.  Whoever does come up is announced at the
same time, which is the matter of `Announcements/Telling`.
-/

namespace Switchboard

open Net Settings Relation Directory Outline

/-- **Sockets proceed:** a live one is new, or it was as far before, or it still waited for its
connection. -/
def Sockets.Proceed (next : SocketId) (t t' : Sockets) : Prop :=
  ∀ i s', t'.find? i = some s' → s'.isLive = true →
    next ≤ i ∨ ∃ s, t.find? i = some s ∧ (s.phase = s'.phase ∨ s.phase = .connecting)

theorem Sockets.Proceed.trans {next next' : SocketId} {t t' t'' : Sockets}
    (h : Sockets.Proceed next t t') (h' : Sockets.Proceed next' t' t'') (hn : next ≤ next') :
    Sockets.Proceed next t t'' := by
  intro i s'' hs'' hlive
  rcases h' i s'' hs'' hlive with hnew | ⟨s', hs', hphase'⟩
  · exact .inl (Nat.le_trans hn hnew)
  · -- Between the two steps the socket was live as well, so the first one speaks of it.
    have hlive' : s'.isLive = true := by
      rw [Socket.isLive_iff] at hlive ⊢
      rcases hphase' with hsame | hwaited
      · rwa [hsame]
      · exact .inr hwaited
    refine (h i s' hs' hlive').imp_right fun ⟨s, hs, hphase⟩ => ⟨s, hs, ?_⟩
    rcases hphase with hsame | hwaited
    · rwa [hsame]
    · exact .inr hwaited

/-- The channel and the socket that an announcement is about. -/
def Traffic.activation? : Traffic → Option (Channel × SocketId)
  | .announced c socket => some (c, socket)
  | _ => none

namespace Exchange

variable {ν : Type} {x y z : Exchange ν}

/-- **What was announced,** the earliest first. -/
def activations (x : Exchange ν) : List (Channel × SocketId) :=
  x.journal.reverse.filterMap Traffic.activation?

/-- **The channel is up on the socket:** the socket serves it, is active, and is not the listener. -/
def Up (x : Exchange ν) (c : Channel) (socket : SocketId) : Prop :=
  c ∈ x.directory.onSocket socket ∧
    ∃ s, x.sockets.find? socket = some s ∧ s.role ≠ .listener ∧ s.phase = .active

theorem activations_record (t : Traffic) (x : Exchange ν) :
    (x.record t).activations = x.activations ++ t.activation?.toList := by
  unfold activations record
  rw [List.reverse_cons, List.filterMap_append]
  cases h : t.activation? <;> simp [h]

/-- Only an announcement is one. -/
theorem activations_record_of_none {t : Traffic} (ht : t.activation? = none) (x : Exchange ν) :
    (x.record t).activations = x.activations := by
  rw [activations_record, ht, Option.toList_none, List.append_nil]

theorem activations_announceAll (id : SocketId) (cs : List Channel) (x : Exchange ν) :
    (x.announceAll id cs).activations = x.activations ++ cs.map (·, id) := by
  have hevents : (cs.map fun c => Traffic.announced c id).filterMap Traffic.activation? =
      cs.map (·, id) := by
    induction cs with
    | nil => rfl
    | cons c cs ih =>
      rw [List.map_cons, List.filterMap_cons, ih]
      rfl
  rw [announceAll_eq]
  simp only [activations, List.reverse_append, List.reverse_reverse, List.filterMap_append, hevents]

/-- The number of the next socket is no socket's. -/
theorem find?_nextSocket (h : x.outline.Sound) : x.sockets.find? x.nextSocket = none := by
  cases hs : x.sockets.find? x.nextSocket with
  | none => rfl
  | some s =>
    have hmem := Sockets.mem_natures.mpr ⟨s, Sockets.mem_of_find? hs, rfl⟩
    exact absurd hmem h.fresh

/-! ### Silence -/

/-- **Nobody is announced, and nobody comes up.** -/
structure Silent (x y : Exchange ν) : Prop where
  next : x.nextSocket ≤ y.nextSocket
  activations : y.activations = x.activations
  announcements : y.announcements = x.announcements
  proceed : Sockets.Proceed x.nextSocket x.sockets y.sockets
  up : ∀ c i, y.Up c i → x.Up c i

namespace Silent

/-- Where sockets and links stay as they are. -/
theorem of_same (hn : y.nextSocket = x.nextSocket) (ht : y.activations = x.activations)
    (ha : y.announcements = x.announcements) (hs : y.sockets = x.sockets)
    (he : y.directory.entries = x.directory.entries) : Silent x y where
  next := Nat.le_of_eq hn.symm
  activations := ht
  announcements := ha
  proceed i s' hs' _ := .inr ⟨s', hs ▸ hs', .inl rfl⟩
  up c i hup := by
    obtain ⟨hlink, hactive⟩ := hup
    obtain ⟨e, hmem, hsocket, hc⟩ := mem_onSocket.mp hlink
    exact ⟨mem_onSocket.mpr ⟨e, he ▸ hmem, hsocket, hc⟩, hs ▸ hactive⟩

theorem refl (x : Exchange ν) : Silent x x :=
  of_same rfl rfl rfl rfl rfl

theorem trans (h : Silent x y) (h' : Silent y z) : Silent x z where
  next := Nat.le_trans h.next h'.next
  activations := h'.activations.trans h.activations
  announcements := h'.announcements.trans h.announcements
  proceed := h.proceed.trans h'.proceed h.next
  up c i hup := h.up c i (h'.up c i hup)

/-- Where the links stay as they are: a live socket was there before, and as far as now, or it is new
and serves nobody that is to be told. -/
theorem of_sockets (hn : x.nextSocket ≤ y.nextSocket) (ht : y.activations = x.activations)
    (ha : y.announcements = x.announcements) (he : y.directory.entries = x.directory.entries)
    (hs : ∀ i s', y.sockets.find? i = some s' → s'.isLive = true →
      (∃ s, x.sockets.find? i = some s ∧ s.role = s'.role ∧ s.phase = s'.phase) ∨
        x.nextSocket ≤ i ∧ (s'.role = .listener ∨ ∀ e ∈ x.directory.entries, e.socket ≠ some i)) :
    Silent x y where
  next := hn
  activations := ht
  announcements := ha
  proceed i s' hs' hlive := by
    rcases hs i s' hs' hlive with ⟨s, hfind, -, hphase⟩ | ⟨hnew, -⟩
    · exact .inr ⟨s, hfind, .inl hphase⟩
    · exact .inl hnew
  up c i hup := by
    obtain ⟨hlink, s', hs', hr, hp⟩ := hup
    obtain ⟨e, hmem, hsocket, hc⟩ := mem_onSocket.mp hlink
    rw [he] at hmem
    rcases hs i s' hs' (by simp [Socket.isLive, hp]) with ⟨s, hfind, hrole, hphase⟩ | ⟨-, hnew⟩
    · exact ⟨mem_onSocket.mpr ⟨e, hmem, hsocket, hc⟩, s, hfind, hrole ▸ hr, hphase.trans hp⟩
    · rcases hnew with hlistener | hnobody
      · exact absurd hlistener hr
      · exact absurd hsocket (hnobody e hmem)

/-- Where the sockets stay as they are: nobody comes to a socket, unless that is the listener. -/
theorem of_links (f : Directory → Directory) (x : Exchange ν)
    (hf : ∀ e ∈ (f x.directory).entries, ∀ i s, e.socket = some i → x.sockets.find? i = some s →
      s.role ≠ .listener → ∃ e₀ ∈ x.directory.entries, e₀.channel = e.channel ∧ e₀.socket = some i) :
    Silent x (x.onDirectory f) where
  next := Nat.le_refl _
  activations := rfl
  announcements := rfl
  proceed i s' hs' _ := .inr ⟨s', hs', .inl rfl⟩
  up c i hup := by
    obtain ⟨hlink, s, hs, hr, hp⟩ := hup
    obtain ⟨e, hmem, hsocket, rfl⟩ := mem_onSocket.mp hlink
    obtain ⟨e₀, hmem₀, hc, hsocket₀⟩ := hf e hmem i s hsocket hs hr
    exact ⟨mem_onSocket.mpr ⟨e₀, hmem₀, hsocket₀, hc⟩, s, hs, hr, hp⟩

/-! ### Small steps -/

/-- A socket changes that fails, or stays as far as it is. -/
theorem modifySocket {id : SocketId} {f : Socket → Socket}
    (hf : ∀ s, x.sockets.find? id = some s → (f s).isLive = true →
      s.role = (f s).role ∧ s.phase = (f s).phase) : Silent x (x.modifySocket id f) := by
  refine of_sockets (Nat.le_refl _) rfl rfl rfl fun i s' hs' hlive => .inl ?_
  change (x.sockets.modify id f).find? i = some s' at hs'
  rw [Sockets.find?_modify] at hs'
  split_ifs at hs' with hi
  · subst hi
    obtain ⟨s, hs, rfl⟩ := Option.map_eq_some_iff.mp hs'
    exact ⟨s, hs, hf s hs hlive⟩
  · exact ⟨s', hs', rfl, rfl⟩

/-- A socket comes that is the listener, or that nobody is linked to. -/
theorem track {s : Socket}
    (hs : s.role = .listener ∨ ∀ e ∈ x.directory.entries, e.socket ≠ some x.nextSocket) :
    Silent x (track s x) := by
  have hnext : x.nextSocket ≤ (Exchange.track s x).nextSocket :=
    Nat.le_of_lt (Sockets.lt_nextFree _ _)
  refine of_sockets hnext (activations_record_of_none rfl _) rfl rfl fun i s' hs' _ => ?_
  change (x.sockets.add x.nextSocket s).find? i = some s' at hs'
  rw [Sockets.find?_add] at hs'
  rcases Option.or_eq_some_iff.mp hs' with hold | ⟨-, hnew⟩
  · exact .inl ⟨s', hold, rfl, rfl⟩
  · split_ifs at hnew with hi
    obtain rfl := Option.some.inj hnew
    exact .inr ⟨Nat.le_of_eq hi.symm, hi ▸ hs⟩

theorem arm (id : SocketId) (x : Exchange ν) : Silent x (x.arm id) := by
  refine modifySocket fun s _ _ => ?_
  split_ifs <;> exact ⟨rfl, rfl⟩

theorem disarm (id : SocketId) (x : Exchange ν) : Silent x (x.disarm id) := by
  refine modifySocket fun s _ _ => ?_
  split_ifs <;> exact ⟨rfl, rfl⟩

theorem armTargets (ws : List Write) (x : Exchange ν) : Silent x (x.armTargets ws) := by
  unfold Exchange.armTargets
  induction ws generalizing x with
  | nil => exact refl x
  | cons w ws ih =>
    rw [List.foldl_cons]
    split
    · rename_i id _ _
      refine trans ?_ (ih _)
      unfold armUnlessHeld
      split_ifs
      · exact refl x
      · exact arm id x
    · exact ih x

theorem armPending (x : Exchange ν) : Silent x x.armPending :=
  have hkept : Silent x { x with outbox := x.outbox.keep fun w => (x.target? w.channel).isSome } :=
    of_same rfl rfl rfl rfl rfl
  hkept.trans (armTargets _ _)

theorem onCall (c : Channel) (f : CallBox → CallBox) (x : Exchange ν) :
    Silent x (x.onDirectory (·.modifyCall c f)) :=
  of_same rfl rfl rfl rfl (congrArg Core.entries (core_modifyCall c f x.directory))

/-- An attempt is noted. -/
theorem scheduleRetry (id : SocketId) (delay : Nat) (x : Exchange ν) :
    Silent x (x.scheduleRetry id delay) := by
  obtain ⟨_, _, heq⟩ := scheduleRetry_eq id delay x
  rw [heq]
  exact of_same rfl rfl rfl rfl rfl

/-! ### Data -/

theorem deliver (sender : Option Endpoint) (data : Bytes) (x : Exchange ν) (c : Channel) :
    Silent x (deliver sender data x c) := by
  have hremembered : ∀ f, Silent x (x.onDirectory (·.modifyStatus c f)) := by
    intro f
    refine of_same rfl rfl rfl rfl ?_
    change (x.directory.modifyStatus c f).entries = x.directory.entries
    unfold modifyStatus
    split_ifs <;> rfl
  have hgiven : ∀ y : Exchange ν, Silent y { y with inbox := y.inbox ++ [⟨c, data⟩] } :=
    fun y => of_same rfl rfl rfl rfl rfl
  unfold Exchange.deliver
  split
  · split_ifs
    · exact (hremembered _).trans (hgiven _)
    · exact hgiven x
  · exact hgiven x

theorem foldl_deliver (sender : Option Endpoint) (data : Bytes) (cs : List Channel)
    (x : Exchange ν) : Silent x (cs.foldl (Exchange.deliver sender data) x) := by
  induction cs generalizing x with
  | nil => exact refl x
  | cons c cs ih =>
    rw [List.foldl_cons]
    exact (deliver sender data x c).trans (ih _)

/-- An event that announces nobody is written down. -/
theorem record {t : Traffic} (ht : t.activation? = none) (x : Exchange ν) :
    Silent x (x.record t) :=
  of_same rfl (activations_record_of_none ht x) rfl rfl rfl

theorem route (id : SocketId) (role : Role) (sender : Option Endpoint) (data : Bytes)
    (x : Exchange ν) : Silent x (x.route id role sender data) := by
  unfold Exchange.route
  dsimp only
  split
  · exact (onCall _ _ x).trans (record rfl _)
  · exact (foldl_deliver sender data _ x).trans (record rfl _)

theorem sendBytes (id : SocketId) (s : Socket) (i : Nat) (w : Write) (target : Option Endpoint)
    (count : Nat) (x : Exchange ν) : Silent x (x.sendBytes id s i w target count) := by
  obtain ⟨directory, outbox, hcore, heq⟩ := settle_eq s i w count x
  have hsettled : Silent x (settle s i w count x) := by
    rw [heq]
    exact of_same rfl rfl rfl rfl (congrArg Core.entries hcore)
  exact hsettled.trans (record rfl _)

variable [Network ν]

/-! ### Sockets that go -/

theorem closeSocket (id : SocketId) (x : Exchange ν) : Silent x (x.closeSocket id) := by
  have hjournal : (x.closeSocket id).activations = x.activations := by
    unfold Exchange.closeSocket
    split_ifs
    · exact activations_record_of_none rfl _
    · rfl
  obtain ⟨_, _, _, heq⟩ := closeSocket_eq id x
  refine of_sockets (Nat.le_of_eq (nextSocket_closeSocket id x).symm) hjournal ?_ ?_
    fun i s' hs' _ => .inl ?_
  · rw [heq]
  · rw [heq]
  · rw [sockets_closeSocket, Sockets.find?_erase] at hs'
    split_ifs at hs'
    exact ⟨s', hs', rfl, rfl⟩

theorem discard (ids : List SocketId) (x : Exchange ν) : Silent x (x.discard ids) := by
  unfold Exchange.discard
  induction ids generalizing x with
  | nil => exact refl x
  | cons id ids ih =>
    have hcancelled : Silent x { x with schedule := x.schedule.cancel id } :=
      of_same rfl rfl rfl rfl rfl
    rw [List.foldl_cons]
    exact (hcancelled.trans (closeSocket id _)).trans (ih _)

/-- A socket that fails leaves its channels without an active one. -/
theorem reportFault (id : SocketId) (x : Exchange ν) : Silent x (reportFault id x).2 := by
  unfold Exchange.reportFault
  split
  · exact refl x
  · split
    · exact refl x
    · exact closeSocket id x
    · split_ifs
      · exact refl x
      · -- The socket is not live any more, so that nobody is up on it; the rest are notes.
        have hfailed : Silent x (x.modifySocket id fun s => { s with phase := .retryScheduled }) :=
          modifySocket fun s _ hlive => nomatch hlive
        have hflags : ∀ y : Exchange ν, Silent y (y.onDirectory (·.setReconnecting id true)) :=
          fun y => of_same rfl rfl rfl rfl (congrArg Core.entries (core_setReconnecting id true _))
        exact (hfailed.trans (scheduleRetry id _ _)).trans (hflags _)

omit [Network ν] in
theorem unlink (id : SocketId) (x : Exchange ν) : Silent x (x.onDirectory (·.unlink id)) := by
  refine of_links _ x fun e he i s hi _ _ => ?_
  have hentries : (x.directory.unlink id).entries =
      x.directory.entries.map (detachEntry (· == id)) := congrArg Core.entries (core_unlink id _)
  rw [hentries] at he
  obtain ⟨e₀, he₀, rfl⟩ := List.mem_map.mp he
  rw [socket_detachEntry] at hi
  split_ifs at hi
  exact ⟨e₀, he₀, (channel_detachEntry _ _).symm, hi⟩

theorem closeOutbound (x : Exchange ν) : Silent x x.closeOutbound := by
  have hunlinked : ∀ (ids : List SocketId) (y : Exchange ν),
      Silent y (ids.foldl (fun y id => y.onDirectory (·.unlink id)) y) := by
    intro ids
    induction ids with
    | nil => exact refl
    | cons id ids ih => exact fun y => (unlink id y).trans (ih _)
  exact (hunlinked _ x).trans (discard _ _)

/-- Channels are let go, and the sockets that serve nobody any more. -/
theorem retain (kept : List Channel) (x : Exchange ν) : Silent x (x.retain kept) := by
  have hkept : Silent x (x.onDirectory fun d => (d.keepOnly fun c => kept.any (·.id == c.id)).2) := by
    refine of_links _ x fun e he i s hi _ _ => ?_
    exact ⟨e, (List.mem_filter.mp he).1, rfl, hi⟩
  -- Ending calls and dropping writes touches no link.
  have hended : ∀ (y : Exchange ν) (cs : List Channel) (outbox : Outbox),
      Silent y { y with outbox, directory := y.directory.cancelCalls cs } :=
    fun y cs _ => of_same rfl rfl rfl rfl (congrArg Core.entries (core_cancelCalls cs y.directory))
  exact (hkept.trans (discard _ _)).trans (hended _ _ _)

/-! ### The listener -/

omit [Network ν] in
theorem raiseListener (p : Profile) (ownEnd : Endpoint) (x : Exchange ν) :
    Silent x (x.raiseListener p ownEnd) := by
  have hadopted : Silent x { x with profile := p } := of_same rfl rfl rfl rfl rfl
  have htracked : Silent { x with profile := p }
      (Exchange.track (Socket.listening p.transport ownEnd) { x with profile := p }) :=
    track (.inl rfl)
  exact (hadopted.trans htracked).trans (of_same rfl rfl rfl rfl rfl)

/-- The channels of the old listener go over to the new one, which is a listener as well. -/
theorem moveListener (h : x.outline.Sound) (p : Profile) (ownEnd : Endpoint) :
    Silent x (x.moveListener p ownEnd) := by
  have hmoved : ∀ y, Silent x y →
      Silent x (if x.profile.transport ≠ p.transport then y.closeOutbound else y) := by
    intro y hy
    split_ifs
    · exact hy.trans (closeOutbound y)
    · exact hy
  refine hmoved _ ?_
  have hraised := raiseListener p ownEnd x
  split
  · exact hraised
  · rename_i old hl
    -- What is left is that links go over to the new socket.
    have hclosed := hraised.trans (closeSocket old (x.raiseListener p ownEnd))
    refine hclosed.trans (of_links _ _ fun e he i s hi hs hr => ?_)
    obtain ⟨e₀, he₀, rfl⟩ := List.mem_map.mp he
    change (relinkEntry old x.nextSocket e₀).socket = some i at hi
    rw [socket_relinkEntry] at hi
    split_ifs at hi
    · -- Whoever goes over comes to the listener.
      obtain rfl := Option.some.inj hi
      have hfresh := find?_nextSocket h
      have hnew : (x.sockets.add x.nextSocket (Socket.listening p.transport ownEnd)).find?
          x.nextSocket = some s := by
        rw [sockets_closeSocket, Sockets.find?_erase] at hs
        split_ifs at hs
        exact hs
      rw [Sockets.find?_add, hfresh, Option.none_or, if_pos rfl] at hnew
      rw [← Option.some.inj hnew] at hr
      exact absurd rfl hr
    · exact ⟨e₀, he₀, (channel_relinkEntry old x.nextSocket e₀).symm, hi⟩

end Silent

end Exchange

end Switchboard
