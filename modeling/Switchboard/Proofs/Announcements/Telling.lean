import Switchboard.Proofs.Announcements.Silence

/-!
# Changes that tell somebody

Channels come up on a socket in three ways: they join one that is active, the connection that they wait
for stands, or a new socket takes the place of a failed one.  Each of these announces just those who
come up, each once (`Tells`).  So does every plain change (`tells_plainChange`), most of them nobody.
-/

namespace Switchboard.Exchange

open Net Settings Relation Directory Outline

variable {ν : Type} {x y z : Exchange ν} {new : List (Channel × SocketId)}

/-- **Just these channels come up,** each on the socket beside it, and that was written down once for
each. -/
structure Raises (new : List (Channel × SocketId)) (x y : Exchange ν) : Prop where
  next : x.nextSocket ≤ y.nextSocket
  activations : y.activations = x.activations ++ new
  once : new.Nodup
  proceed : Sockets.Proceed x.nextSocket x.sockets y.sockets
  up : ∀ p ∈ new, y.Up p.1 p.2 ∧ ¬ x.Up p.1 p.2
  noOther : ∀ c i, y.Up c i → x.Up c i ∨ (c, i) ∈ new

/-- **Just these channels come up, and they are to be told.** -/
structure Tells (new : List (Channel × SocketId)) (x y : Exchange ν) : Prop extends
    Raises new x y where
  announcements : y.announcements = x.announcements ++ new.map Prod.fst

theorem Silent.tells (h : Silent x y) : Tells [] x y where
  next := h.next
  activations := by rw [h.activations, List.append_nil]
  once := .nil
  proceed := h.proceed
  up := nofun
  noOther c i hup := .inl (h.up c i hup)
  announcements := by rw [h.announcements, List.map_nil, List.append_nil]

/-- Something may happen before, if it tells nobody and those who come up were not up before it. -/
theorem Tells.of_silent (h : Silent x y) (h' : Tells new y z)
    (hnew : ∀ p ∈ new, ¬ x.Up p.1 p.2) : Tells new x z where
  next := Nat.le_trans h.next h'.next
  activations := by rw [h'.activations, h.activations]
  once := h'.once
  proceed := h.proceed.trans h'.proceed h.next
  up p hp := ⟨(h'.up p hp).1, hnew p hp⟩
  noOther c i hup := (h'.noOther c i hup).imp_left (h.up c i)
  announcements := by rw [h'.announcements, h.announcements]

theorem not_up_nextSocket (h : x.outline.Sound) (c : Channel) : ¬ x.Up c x.nextSocket := by
  rintro ⟨-, s, hs, -⟩
  exact nomatch (find?_nextSocket h).symm.trans hs

theorem nodup_onSocket {d : Directory} (h : d.core.Numbered) (id : SocketId) :
    (d.onSocket id).Nodup := by
  have hids : ((d.onSocket id).map Channel.id).Nodup := by
    unfold onSocket select
    rw [List.map_map]
    have hall : (d.entries.map (·.channel.id)).Nodup := h.ascending.imp Nat.ne_of_lt
    exact hall.sublist (List.filter_sublist.map _)
  exact hids.of_map _

/-- Different channels on one socket are different pairs. -/
theorem nodup_map_pair {cs : List Channel} (h : cs.Nodup) (id : SocketId) :
    (cs.map (·, id)).Nodup :=
  h.map fun _ _ heq => (Prod.mk.inj heq).1

/-- The channels of one socket are announced that came up on it. -/
theorem tells_announceAll {id : SocketId} {cs : List Channel} (hn : x.nextSocket ≤ y.nextSocket)
    (ht : y.activations = x.activations) (ha : y.announcements = x.announcements)
    (hproceed : Sockets.Proceed x.nextSocket x.sockets y.sockets)
    (hcs : cs.Nodup) (hup : ∀ c ∈ cs, y.Up c id ∧ ¬ x.Up c id)
    (hother : ∀ c i, y.Up c i → x.Up c i ∨ i = id ∧ c ∈ cs) :
    Tells (cs.map (·, id)) x (y.announceAll id cs) := by
  have hactivations := activations_announceAll id cs y
  have hannouncements : (y.announceAll id cs).announcements = y.announcements ++ cs := by
    rw [announceAll_eq]
  -- To announce is to write down: sockets and links are the same afterwards.
  have hsame : ∀ c i, (y.announceAll id cs).Up c i ↔ y.Up c i := by
    intro c i
    rw [announceAll_eq]
    rfl
  have htable : (y.announceAll id cs).sockets = y.sockets ∧
      (y.announceAll id cs).nextSocket = y.nextSocket := by
    rw [announceAll_eq]
    exact ⟨rfl, rfl⟩
  constructor
  · constructor
    · rw [htable.2]
      exact hn
    · rw [hactivations, ht]
    · exact nodup_map_pair hcs id
    · rw [htable.1]
      exact hproceed
    · intro p hp
      obtain ⟨c, hc, rfl⟩ := List.mem_map.mp hp
      exact ⟨(hsame c id).mpr (hup c hc).1, (hup c hc).2⟩
    · intro c i hnow
      refine (hother c i ((hsame c i).mp hnow)).imp_right ?_
      rintro ⟨rfl, hc⟩
      exact List.mem_map_of_mem hc
  · rw [hannouncements, ha, List.map_map]
    exact congrArg _ (List.map_id cs).symm

/-! ### Joining -/

/-- Linking brings channels to this socket only. -/
theorem mem_onSocket_link {d : Directory} {c c' : Channel} (hk : d.knows c = true) {id i : SocketId}
    {sharing : Sharing} {listener : Option SocketId}
    (h : c' ∈ (d.link c.id id sharing listener).onSocket i) : i = id ∨ c' ∈ d.onSocket i := by
  have hentries : (d.link c.id id sharing listener).entries =
      d.entries.map (linkEntry c id sharing listener) :=
    congrArg Core.entries (core_link hk id sharing listener)
  obtain ⟨e, he, hs, rfl⟩ := mem_onSocket.mp h
  rw [hentries] at he
  obtain ⟨e₀, he₀, rfl⟩ := List.mem_map.mp he
  rcases socket_linkEntry c id sharing listener e₀ with hkept | ⟨hnew, -⟩
  · refine .inr (mem_onSocket.mpr ⟨e₀, he₀, hkept.symm.trans hs, ?_⟩)
    rw [channel_linkEntry]
  · exact .inl (Option.some.inj (hs.symm.trans hnew))

/-- Some channels that were linked to a socket are announced: all who came up, and no others. -/
theorem tells_link {c : Channel} (hk : x.directory.knows c = true) (id : SocketId) (sharing : Sharing)
    (listener : Option SocketId) {cs : List Channel} (hcs : cs.Nodup)
    (hcome : ∀ c', c' ∈ cs ↔ (x.onDirectory (·.link c.id id sharing listener)).Up c' id ∧
      c' ∉ x.directory.onSocket id) :
    Tells (cs.map (·, id)) x
      ((x.onDirectory (·.link c.id id sharing listener)).announceAll id cs) := by
  refine tells_announceAll (Nat.le_refl _) rfl rfl (fun i s' hs' _ => .inr ⟨s', hs', .inl rfl⟩) hcs
    (fun c' hc' => ?_) fun c' i hnow => ?_
  · obtain ⟨hnow, hbefore⟩ := (hcome c').mp hc'
    exact ⟨hnow, fun hup => hbefore hup.1⟩
  · by_cases hbefore : c' ∈ x.directory.onSocket i
    · exact .inl ⟨hbefore, hnow.2⟩
    · obtain rfl := (mem_onSocket_link hk hnow.1).resolve_right hbefore
      exact .inr ⟨rfl, (hcome c').mpr ⟨hnow, hbefore⟩⟩

/-- **Who joins an active socket is told,** and so are the siblings that come along. -/
theorem tells_join (hn : x.directory.core.Numbered) {c : Channel}
    (hc : c ∈ x.directory.channels) {id : SocketId}
    (hid : ∀ s, x.sockets.find? id = some s → (x.listener = some id ↔ s.role = .listener)) :
    ∃ cs : List Channel, Tells (cs.map (·, id)) x (x.join c id) := by
  have hk : x.directory.knows c = true := by
    obtain ⟨e, he, rfl⟩ := List.mem_map.mp hc
    exact knows_of_mem hn he
  have hnumbered : (x.directory.link c.id id x.profile.sharing x.listener).core.Numbered := by
    rw [core_link hk]
    exact hn.map fun e => channel_linkEntry _ _ _ _ e
  unfold Exchange.join
  dsimp only
  split_ifs with hactive
  · -- The socket is active: just those who are new to it are announced.
    rw [Bool.and_eq_true, Bool.not_eq_true', Option.any_eq_true] at hactive
    obtain ⟨hl, s, hs, hp⟩ := hactive
    have hrole : s.role ≠ .listener := by
      intro hr
      rw [isListener, (hid s hs).mpr hr] at hl
      simp at hl
    refine ⟨_, tells_link hk id _ _ ((nodup_onSocket hnumbered id).filter _) fun c' => ?_⟩
    rw [List.mem_filter, Bool.not_eq_true', List.contains_eq_mem, decide_eq_false_iff_not]
    constructor
    · rintro ⟨hlink, hnew⟩
      exact ⟨⟨hlink, s, hs, hrole, beq_iff_eq.mp hp⟩, hnew⟩
    · rintro ⟨⟨hlink, -⟩, hnew⟩
      exact ⟨hlink, hnew⟩
  · -- The socket is not active, or it is the listener: nobody comes up.
    refine ⟨[], tells_link hk id _ _ .nil fun c' => iff_of_false List.not_mem_nil ?_⟩
    rintro ⟨⟨-, s, hs, hr, hp⟩, -⟩
    change x.sockets.find? id = some s at hs
    refine hactive ?_
    rw [hs]
    simp [isListener, hp, (hid s hs).not.mpr hr]

/-- The listener is the socket whose role that is. -/
theorem listener_iff (h : x.outline.Sound) {id : SocketId} {s : Socket}
    (hs : x.sockets.find? id = some s) : x.listener = some id ↔ s.role = .listener := by
  have hn := Sockets.mem_natures.mpr ⟨s, Sockets.mem_of_find? hs, rfl⟩
  constructor
  · exact fun hl => role_listener h hl hs
  · exact fun hr => h.only _ hn hr

theorem tells_joined (h : x.outline.Sound) {c : Channel} (hc : c ∈ x.directory.channels)
    (id : SocketId) : ∃ new, Tells new x (x.join c id) := by
  obtain ⟨cs, htells⟩ := tells_join h.numbered hc fun s hs => listener_iff h hs
  exact ⟨_, htells⟩

/-- A new socket to the remote end is opened first, which nobody is linked to yet. -/
theorem tells_connected (h : x.outline.Sound) {c : Channel} (hc : c ∈ x.directory.channels)
    (ownEnd remote : Endpoint) : ∃ new, Tells new x
      ((track (Socket.outgoing x.profile.transport ownEnd remote) x).join c x.nextSocket) := by
  have hopened : Silent x (track (Socket.outgoing x.profile.transport ownEnd remote) x) :=
    .track (.inr fun e he => socket_ne_nextSocket h he)
  have hid : ∀ s, (track (Socket.outgoing x.profile.transport ownEnd remote) x).sockets.find?
      x.nextSocket = some s → (x.listener = some x.nextSocket ↔ s.role = .listener) := by
    intro s hs
    change (x.sockets.add x.nextSocket _).find? x.nextSocket = some s at hs
    rw [Sockets.find?_add, find?_nextSocket h, Option.none_or, if_pos rfl] at hs
    rw [← Option.some.inj hs]
    exact iff_of_false (fun hl => h.listener_ne hl rfl) nofun
  obtain ⟨cs, htells⟩ := tells_join
    (x := track (Socket.outgoing x.profile.transport ownEnd remote) x) h.numbered hc hid
  refine ⟨_, htells.of_silent hopened fun p hp => ?_⟩
  obtain ⟨c', -, rfl⟩ := List.mem_map.mp hp
  exact not_up_nextSocket h c'

/-! ### Connections that stand -/

/-- **When a connection stands, all its channels are told.** -/
theorem tells_establish (h : x.outline.Sound) {id : SocketId} {s : Socket}
    (hs : x.sockets.find? id = some s) (hm : s.medium = .connection) (hp : s.phase = .connecting) :
    ∃ new, Tells new x (x.establish id) := by
  have hrole : s.role ≠ .listener := by
    intro hr
    have hsuits : s.medium = s.role.medium x.profile.transport :=
      h.suits _ (Sockets.mem_natures.mpr ⟨s, Sockets.mem_of_find? hs, rfl⟩)
    rw [hm, hr] at hsuits
    cases ht : x.profile.transport <;> rw [ht] at hsuits <;> exact nomatch hsuits
  -- Of all the sockets only this one changes, and it keeps its role.
  have hfind : ∀ i s', (x.sockets.modify id fun s =>
      { s with phase := .active, interest := ⟨true, true⟩ }).find? i = some s' →
        i = id ∧ s'.role = s.role ∧ s'.phase = .active ∨ i ≠ id ∧ x.sockets.find? i = some s' := by
    intro i s' hs'
    rw [Sockets.find?_modify] at hs'
    split_ifs at hs' with hi
    · subst hi
      rw [hs] at hs'
      rw [← Option.some.inj hs']
      exact .inl ⟨rfl, rfl, rfl⟩
    · exact .inr ⟨hi, hs'⟩
  refine ⟨_, tells_announceAll (x := x) (Nat.le_refl _) rfl rfl (fun i s' hs' _ => ?_)
    (nodup_onSocket h.numbered id) (fun c hc => ⟨⟨hc, ?_⟩, ?_⟩) fun c i hup => ?_⟩
  · rcases hfind i s' hs' with ⟨rfl, -, -⟩ | ⟨-, hbefore⟩
    · exact .inr ⟨s, hs, .inr hp⟩
    · exact .inr ⟨s', hbefore, .inl rfl⟩
  · refine ⟨{ s with phase := .active, interest := ⟨true, true⟩ }, ?_, hrole, rfl⟩
    unfold modifySocket
    dsimp only
    rw [Sockets.find?_modify, if_pos rfl, hs, Option.map_some]
  · -- Before, the socket was not active.
    rintro ⟨-, s', hs', -, hactive⟩
    rw [← Option.some.inj (hs.symm.trans hs'), hp] at hactive
    exact nomatch hactive
  · obtain ⟨hlink, s', hs', hr, hactive⟩ := hup
    rcases hfind i s' hs' with ⟨rfl, -, -⟩ | ⟨-, hbefore⟩
    · exact .inr ⟨rfl, hlink⟩
    · exact .inl ⟨hlink, s', hbefore, hr, hactive⟩

/-! ### Replacements -/

variable [Network ν]

/-- **Where a new socket takes the place of an old one,** all its channels are told, if it is active
at once. -/
theorem substitute_cases (h : x.outline.Sound) (old : SocketId) (fresh : Socket) : ∃ y,
    (x.nextSocket ≤ y.nextSocket ∧ y.activations = x.activations ∧
      y.announcements = x.announcements) ∧
    y.sockets = (x.sockets.erase old).add x.nextSocket fresh ∧
    y.directory.core = { x.directory.core with
      entries := x.directory.entries.map (relinkEntry old x.nextSocket) } ∧
    x.substitute old fresh =
      if fresh.phase = .active then y.announceAll x.nextSocket (y.directory.onSocket x.nextSocket)
      else y := by
  have hclosed := Silent.closeSocket old x
  have hnumber := nextSocket_closeSocket old x
  have hcore : (x.closeSocket old).directory.core = x.directory.core := by
    obtain ⟨_, _, _, heq⟩ := closeSocket_eq old x
    rw [heq]
  have hopened : Silent x (track fresh (x.closeSocket old)) := by
    refine hclosed.trans (.track (.inr fun e he => ?_))
    have hentries : (x.closeSocket old).directory.entries = x.directory.entries :=
      congrArg Core.entries hcore
    rw [hnumber]
    exact socket_ne_nextSocket h (hentries ▸ he)
  refine ⟨(track fresh (x.closeSocket old)).onDirectory fun d =>
    ((d.relink old x.nextSocket).setReconnecting x.nextSocket false).cancelCalls
      (((d.relink old x.nextSocket).setReconnecting x.nextSocket false).onSocket x.nextSocket),
    ⟨hopened.next, hopened.activations, hopened.announcements⟩, ?_, ?_, rfl⟩
  · change (x.closeSocket old).sockets.add (x.closeSocket old).nextSocket fresh = _
    rw [sockets_closeSocket, hnumber]
  · change (cancelCalls _ _).core = _
    rw [core_cancelCalls, core_setReconnecting, core_relink]
    change { (x.closeSocket old).directory.core with
      entries := (x.closeSocket old).directory.core.entries.map (relinkEntry old x.nextSocket) } = _
    rw [hcore]
    rfl

/-- **A new socket takes the place of a failed one.** -/
theorem tells_substitute (h : x.outline.Sound) (old : SocketId) {fresh : Socket}
    (hr : fresh.role ≠ .listener) :
    ∃ cs : List Channel, Tells (cs.map (·, x.nextSocket)) x (x.substitute old fresh) := by
  obtain ⟨y, ⟨hnext, hactivations, hannouncements⟩, hsockets, hcore, heq⟩ := substitute_cases h old fresh
  have hfind : ∀ i s, y.sockets.find? i = some s →
      x.sockets.find? i = some s ∨ i = x.nextSocket ∧ s = fresh := by
    intro i s hs
    rw [hsockets, Sockets.find?_add] at hs
    rcases Option.or_eq_some_iff.mp hs with hold | ⟨-, hnew⟩
    · rw [Sockets.find?_erase] at hold
      split_ifs at hold
      exact .inl hold
    · split_ifs at hnew with hi
      exact .inr ⟨hi, (Option.some.inj hnew).symm⟩
  -- Links stay where they are, or go from the old socket to the new one.
  have hlink : ∀ c i, c ∈ y.directory.onSocket i → c ∈ x.directory.onSocket i ∨ i = x.nextSocket := by
    intro c i hc
    obtain ⟨e, he, hs, rfl⟩ := mem_onSocket.mp hc
    rw [show y.directory.entries = _ from congrArg Core.entries hcore] at he
    obtain ⟨e₀, he₀, rfl⟩ := List.mem_map.mp he
    rw [socket_relinkEntry] at hs
    split_ifs at hs
    · exact .inr (Option.some.inj hs).symm
    · rw [channel_relinkEntry]
      exact .inl (mem_onSocket.mpr ⟨e₀, he₀, hs, rfl⟩)
  have hnumbered : y.directory.core.Numbered := by
    rw [hcore]
    exact h.numbered.map fun e => channel_relinkEntry _ _ e
  have hproceed : Sockets.Proceed x.nextSocket x.sockets y.sockets := by
    intro i s' hs' _
    rcases hfind i s' hs' with hold | ⟨rfl, -⟩
    · exact .inr ⟨s', hold, .inl rfl⟩
    · exact .inl (Nat.le_refl _)
  -- Whoever was not up before is on the new socket.
  have hcome : ∀ c i, y.Up c i →
      x.Up c i ∨ i = x.nextSocket ∧ c ∈ y.directory.onSocket x.nextSocket ∧ fresh.phase = .active := by
    rintro c i ⟨hc, s, hs, hrole, hp⟩
    rcases hfind i s hs with hold | ⟨rfl, rfl⟩
    · rcases hlink c i hc with hbefore | rfl
      · exact .inl ⟨hbefore, s, hold, hrole, hp⟩
      · exact nomatch (find?_nextSocket h).symm.trans hold
    · exact .inr ⟨rfl, hc, hp⟩
  rw [heq]
  split_ifs with hactive
  · refine ⟨_, tells_announceAll hnext hactivations hannouncements hproceed
      (nodup_onSocket hnumbered _) (fun c hc => ⟨⟨hc, fresh, ?_, hr, hactive⟩, not_up_nextSocket h c⟩)
      fun c i hup => ?_⟩
    · have hgone : (x.sockets.erase old).find? x.nextSocket = none := by
        rw [Sockets.find?_erase, find?_nextSocket h, ite_self]
      rw [hsockets, Sockets.find?_add, hgone, Option.none_or, if_pos rfl]
    · exact (hcome c i hup).imp_right fun hnew => ⟨hnew.1, hnew.2.1⟩
  · refine ⟨[], Silent.tells ⟨hnext, hactivations, hannouncements, hproceed, fun c i hup => ?_⟩⟩
    exact (hcome c i hup).resolve_right fun hnew => hactive hnew.2.2

/-- An attempt fails, and then the socket waits as before, or it puts a new socket in its place. -/
theorem tells_retry (h : x.outline.Sound) {r : Retry} {s : Socket}
    (hs : x.sockets.find? r.socket = some s) (hr : s.role = .outbound) :
    ∃ new, Tells new x (retry r x) := by
  have hattempting : ∀ network, Silent x (x.attempting r.socket network) := by
    intro network
    have hphase : Silent x (x.modifySocket r.socket fun s => { s with phase := .retrying }) :=
      .modifySocket fun s _ hlive => nomatch hlive
    exact hphase.trans (.of_same rfl rfl rfl rfl rfl)
  obtain ⟨network, heq | ⟨ownEnd, remote, heq⟩⟩ := retry_cases_of_outbound h hs hr <;> rw [heq]
  · have hfailed : Silent (x.attempting r.socket network) ((x.attempting r.socket network).modifySocket
        r.socket fun s => { s with phase := .retryScheduled }) :=
      .modifySocket fun s _ hlive => nomatch hlive
    exact ⟨[], (((hattempting network).trans hfailed).trans (.scheduleRetry _ _ _)).tells⟩
  · -- The attempt itself changes the phase of the old socket, which no outline shows.
    have hsame : (x.attempting r.socket network).outline = x.outline :=
      outline_setPhase r.socket .retrying x
    have hrole : (Socket.outgoing x.profile.transport ownEnd remote).role ≠ .listener := nofun
    obtain ⟨cs, htells⟩ := tells_substitute (x := x.attempting r.socket network) (hsame ▸ h) r.socket hrole
    refine ⟨_, htells.of_silent (hattempting network) fun p hp => ?_⟩
    obtain ⟨c, -, rfl⟩ := List.mem_map.mp hp
    exact not_up_nextSocket h c

/-! ### All changes -/

theorem tells_singleStep (h : x.outline.Sound) (hstep : SingleStep x y) : ∃ new, Tells new x y := by
  have hsilent : Silent x y → ∃ new, Tells new x y := fun hs => ⟨[], hs.tells⟩
  cases hstep with
  | answered network => exact hsilent (.of_same rfl rfl rfl rfl rfl)
  | elapsed ms => exact hsilent (.of_same rfl rfl rfl rfl rfl)
  | opened ownEnd ho =>
    have hunlocked : Silent x { x with isOpen := true } := .of_same rfl rfl rfl rfl rfl
    exact hsilent (hunlocked.trans (.raiseListener _ ownEnd _))
  | adopted p hs hm ht => exact hsilent (.of_same rfl rfl rfl rfl rfl)
  | moved p ownEnd hs hm ho => exact hsilent (.moveListener h p ownEnd)
  | enrolled s r hv hb =>
    refine hsilent (.of_links (fun d => (d.append s r).2) x fun e he i s' hi _ _ => ?_)
    rcases List.mem_append.mp he with he | he
    · exact ⟨e, he, rfl, hi⟩
    · rw [List.mem_singleton.mp he] at hi
      exact nomatch hi
  | joined ho hc hu hid => exact tells_joined h hc _
  | connected ownEnd ho hc hu hd hr hn => exact tells_connected h hc ownEnd _
  | retained kept => exact hsilent (.retain kept x)
  | queued data call ho hc ht => exact hsilent (.of_same rfl rfl rfl rfl rfl)
  | armed id => exact hsilent (.arm id x)
  | rearmed => exact hsilent (.armPending x)
  | began c hb => exact hsilent (.onCall c _ x)
  | collected c g => exact hsilent (.onCall c _ x)
  | finished c g => exact hsilent (.onCall c _ x)
  | faulted id => exact hsilent (.reportFault id x)

theorem tells_passStep (h : x.outline.Sound) (hstep : PassStep x y) : ∃ new, Tells new x y := by
  have hsilent : Silent x y → ∃ new, Tells new x y := fun hs => ⟨[], hs.tells⟩
  cases hstep with
  | answered network => exact hsilent (.of_same rfl rfl rfl rfl rfl)
  | exceeded l => exact hsilent (.of_same rfl rfl rfl rfl rfl)
  | admitted ownEnd remote hs hm =>
    exact hsilent (.track (.inr fun e he => socket_ne_nextSocket h he))
  | established hs hm hp => exact tells_establish h hs hm hp
  | faulted id => exact hsilent (.reportFault id x)
  | routed sender data hs hp hm hsender => exact hsilent (.route _ _ sender data x)
  | sent count hs hp hm hheld hnext hcount => exact hsilent (.sendBytes _ _ _ _ _ count x)
  | disarmed id => exact hsilent (.disarm id x)

/-- **A plain change tells just those who come up.** -/
theorem tells_plainChange (h : x.outline.Sound) (hc : PlainChange x y) : ∃ new, Tells new x y := by
  cases hc with
  | single hstep => exact tells_singleStep h hstep
  | inPass hstep => exact tells_passStep h hstep
  | given => exact ⟨[], Silent.tells (.of_same rfl rfl rfl rfl rfl)⟩
  | due => exact ⟨[], Silent.tells (.of_same rfl rfl rfl rfl rfl)⟩
  | attempted hs hr hp => exact tells_retry h hs hr

/-- Where the exchange is taken out of service, nobody is up any more. -/
theorem raises_deactivate (h : x.outline.Sound) : Raises [] x x.deactivate := by
  obtain ⟨hsockets, -⟩ := sockets_deactivate h
  have hactivations : x.deactivate.activations = x.activations := by
    unfold deactivate close
    split_ifs
    · rfl
    · exact (Silent.discard _ x).activations
  constructor
  · exact (grows_move (move_deactivate x)).next
  · rw [hactivations, List.append_nil]
  · exact .nil
  · rw [hsockets]
    exact fun _ _ hs _ => nomatch (show none = some _ from hs)
  · exact nofun
  · rintro c i ⟨-, s, hs, -⟩
    rw [hsockets] at hs
    exact nomatch (show none = some _ from hs)

/-- **A change announces just those who come up.** -/
theorem raises_change (h : x.outline.Sound) (hc : Change x y) : ∃ new, Raises new x y := by
  cases hc with
  | plain hc =>
    obtain ⟨new, htells⟩ := tells_plainChange h hc
    exact ⟨new, htells.toRaises⟩
  | deactivated => exact ⟨[], raises_deactivate h⟩
  | told =>
    have hsame : Silent x { x with announcements := x.announcements } := .refl x
    exact ⟨[], { hsame.tells with }⟩

end Switchboard.Exchange
