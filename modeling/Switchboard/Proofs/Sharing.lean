import Switchboard.Proofs.Links
import Switchboard.Proofs.Moorings
import Switchboard.Proofs.Supervision.Faults

/-!
# Who shares a socket

The flags of sharing say which channels may be on one socket.  While they stay as they are, nothing
else decides it: two outbound channels that have sockets have the same one exactly if the flags admit
that, in whatever order the channels were made, used, linked anew and let go (`shared_iff`).

A channel comes to a socket in two ways: it finds one of a channel that it may share with, or it gets
a new one and brings its siblings along.  Both keep the channels `Arranged`.  What carries the proof is
that admitting is symmetric and transitive, because each circle of channels lies within the next one.

The listener is left out of all this.  It serves inbound channels of any remote, and no outbound one.
-/

namespace Switchboard

open Net Settings Relation Directory Outline

/-! ### What the flags admit -/

/-- **The flags let the two channels share a socket:** they have the same remote, and a circle that is
open holds both. -/
def Sharing.Admits (flags : Sharing) (c c' : Channel) : Prop :=
  c.remote = c'.remote ∧ ∃ scope ∈ Scope.enabled flags, scope.covers c.subject c'.subject = true

namespace Sharing

variable {flags : Sharing} {c c' c'' : Channel}

theorem admits_iff : flags.Admits c c' ↔ c.remote = c'.remote ∧
    (flags.item = true ∧ c.item = c'.item ∧ c.direction = c'.direction ∨
      flags.binding = true ∧ c.direction = c'.direction ∨ flags.directions = true) := by
  obtain ⟨item, binding, directions, masks⟩ := flags
  unfold Admits Channel.item Channel.direction
  cases item <;> cases binding <;> cases directions <;> simp [Scope.enabled, Scope.covers]

theorem Admits.symm (h : flags.Admits c c') : flags.Admits c' c := by
  rw [admits_iff] at h ⊢
  obtain ⟨hremote, hcircle⟩ := h
  refine ⟨hremote.symm, ?_⟩
  rcases hcircle with ⟨hflag, hitem, hdir⟩ | ⟨hflag, hdir⟩ | hflag
  · exact .inl ⟨hflag, hitem.symm, hdir.symm⟩
  · exact .inr (.inl ⟨hflag, hdir.symm⟩)
  · exact .inr (.inr hflag)

/-- The wider of the two circles holds all three channels. -/
theorem Admits.trans (h : flags.Admits c c') (h' : flags.Admits c' c'') : flags.Admits c c'' := by
  rw [admits_iff] at h h' ⊢
  obtain ⟨hremote, hcircle⟩ := h
  obtain ⟨hremote', hcircle'⟩ := h'
  refine ⟨hremote.trans hremote', ?_⟩
  rcases hcircle with ⟨hflag, hitem, hdir⟩ | ⟨hflag, hdir⟩ | hflag
  · rcases hcircle' with ⟨-, hitem', hdir'⟩ | ⟨hflag', hdir'⟩ | hflag'
    · exact .inl ⟨hflag, hitem.trans hitem', hdir.trans hdir'⟩
    · exact .inr (.inl ⟨hflag', hdir.trans hdir'⟩)
    · exact .inr (.inr hflag')
  · rcases hcircle' with ⟨-, -, hdir'⟩ | ⟨-, hdir'⟩ | hflag'
    · exact .inr (.inl ⟨hflag, hdir.trans hdir'⟩)
    · exact .inr (.inl ⟨hflag, hdir.trans hdir'⟩)
    · exact .inr (.inr hflag')
  · exact .inr (.inr hflag)

theorem Admits.congr_left (h : flags.Admits c c') : flags.Admits c c'' ↔ flags.Admits c' c'' :=
  ⟨h.symm.trans, h.trans⟩

/-- Without sharing between the directions, only channels of one direction are together. -/
theorem Admits.direction_eq (h : flags.Admits c c') (hd : flags.directions = false) :
    c.direction = c'.direction := by
  obtain ⟨-, ⟨-, -, hdir⟩ | ⟨-, hdir⟩ | hflag⟩ := admits_iff.mp h
  · exact hdir
  · exact hdir
  · exact nomatch hd.symm.trans hflag

end Sharing

namespace Directory

variable {d : Directory} {c : Channel} {flags : Sharing} {listener : Option SocketId}

/-- What the search in one circle finds. -/
theorem exists_of_served? {scope : Scope} {s : Subject} {r : Remote} {excluded : Option SocketId}
    {id : SocketId} (h : d.served? scope s r excluded = some id) : ∃ e ∈ d.entries,
      e.socket = some id ∧ e.channel.remote = r ∧ scope.covers s e.channel.subject = true := by
  unfold served? at h
  obtain ⟨e, he, hsocket⟩ := Option.bind_eq_some_iff.mp h
  have htest := List.find?_some he
  simp only [Bool.and_eq_true, beq_iff_eq] at htest
  exact ⟨e, List.mem_of_find?_eq_some he, hsocket, htest.1.2, htest.2⟩

/-- The search in one circle passes no channel on a socket that is not excluded. -/
theorem served?_ne_none {scope : Scope} {s : Subject} {r : Remote} {excluded : Option SocketId}
    {e : Entry} (he : e ∈ d.entries) {i : SocketId} (hi : e.socket = some i)
    (hx : excluded ≠ some i) (hr : e.channel.remote = r)
    (hc : scope.covers s e.channel.subject = true) : d.served? scope s r excluded ≠ none := by
  unfold served?
  intro hnone
  rw [Option.bind_eq_none_iff] at hnone
  generalize hp : (fun e : Entry => e.socket.isSome && e.socket != excluded &&
    e.channel.remote == r && scope.covers s e.channel.subject) = p at hnone
  have hpass : p e = true := by
    subst hp
    simp [hi, hr, hc, Ne.symm hx]
  cases hfind : d.entries.find? p with
  | none => exact absurd hpass (List.find?_eq_none.mp hfind e he)
  | some e' =>
    have htest : p e' = true := List.find?_some hfind
    subst hp
    simp [hnone e' hfind] at htest

/-- A socket that is found is that of a channel which the flags admit. -/
theorem admits_of_sharedSocket? {id : SocketId} (h : d.sharedSocket? c flags listener = some id) :
    ∃ e ∈ d.entries, e.socket = some id ∧ flags.Admits c e.channel := by
  unfold sharedSocket? at h
  obtain ⟨scope, hscope, hs⟩ := List.exists_of_findSome?_eq_some h
  obtain ⟨e, he, hsocket, hremote, hcovers⟩ := exists_of_served? hs
  exact ⟨e, he, hsocket, hremote.symm, scope, hscope, hcovers⟩

/-- Where none is found, no channel that the flags admit is on a socket other than the listener. -/
theorem not_admits_of_sharedSocket? (h : d.sharedSocket? c flags listener = none) {e : Entry}
    (he : e ∈ d.entries) {i : SocketId} (hi : e.socket = some i) (hl : listener ≠ some i) :
    ¬ flags.Admits c e.channel := by
  rintro ⟨hremote, scope, hscope, hcovers⟩
  unfold sharedSocket? at h
  have hnone := List.findSome?_eq_none_iff.mp h scope hscope
  refine served?_ne_none he hi ?_ hremote.symm hcovers hnone
  -- At most the listener is excluded.
  cases c.subject.direction with
  | inbound => exact nofun
  | outbound => exact hl

/-- Linking leaves an entry alone, or puts the socket under the channel itself or one that the flags
admit. -/
theorem linkEntry_cases (c : Channel) (id : SocketId) (flags : Sharing)
    (listener : Option SocketId) (e : Entry) : linkEntry c id flags listener e = e ∨
      linkEntry c id flags listener e = { e with socket := some id } ∧ (e.channel.id = c.id ∨
        flags.Admits c e.channel ∧ (listener = some id → e.channel.direction = .inbound)) := by
  unfold linkEntry
  split_ifs with h
  · refine .inr ⟨rfl, ?_⟩
    rw [Bool.or_eq_true, decide_eq_true_eq] at h
    refine h.imp_right fun hj => ?_
    simp only [joins, Bool.and_eq_true, beq_iff_eq, List.any_eq_true] at hj
    obtain ⟨⟨⟨-, hside⟩, hremote⟩, scope, hscope, hcovers⟩ := hj
    refine ⟨⟨hremote.symm, scope, hscope, hcovers⟩, fun hl => ?_⟩
    cases hd : e.channel.direction with
    | inbound => rfl
    | outbound =>
      have hd' : e.channel.subject.direction = .outbound := hd
      simp [hl, hd'] at hside
  · exact .inl rfl

/-! ### Channels that are arranged -/

/-- **Those channels are together that the flags admit,** and an inbound channel is beside outbound
ones only if it may be. -/
structure Arranged (flags : Sharing) (listener : Option SocketId) (entries : List Entry) : Prop where
  together : ∀ e ∈ entries, ∀ e' ∈ entries, e ≠ e' → ∀ i j, e.socket = some i → e'.socket = some j →
    listener ≠ some i → listener ≠ some j → (i = j ↔ flags.Admits e.channel e'.channel)
  home : flags.directions = false → ∀ e ∈ entries, e.channel.direction = .inbound →
    ∀ i, e.socket = some i → listener = some i

namespace Arranged

variable {entries entries' : List Entry}

/-- Links may go, and channels may come that have none. -/
theorem of_linked (h : Arranged flags listener entries)
    (hsub : ∀ e ∈ entries', e.socket ≠ none → e ∈ entries) : Arranged flags listener entries' where
  together e he e' he' hne i j hi hj := by
    have hlinked := hsub e he (by rw [hi]; exact Option.some_ne_none i)
    have hlinked' := hsub e' he' (by rw [hj]; exact Option.some_ne_none j)
    exact h.together e hlinked e' hlinked' hne i j hi hj
  home hd e he hin i hi := h.home hd e (hsub e he (by rw [hi]; exact Option.some_ne_none i)) hin i hi

/-- Where nobody has a socket. -/
theorem of_none (hnone : ∀ e ∈ entries, e.socket = none) : Arranged flags listener entries where
  together e he _ _ _ _ _ hi _ := nomatch (hnone e he).symm.trans hi
  home _ e he _ _ hi := nomatch (hnone e he).symm.trans hi

/-- A new socket may take the place of an old one, be it the listener or not. -/
theorem relink (h : Arranged flags listener entries) (old : SocketId) {new : SocketId}
    (hnew : ∀ e ∈ entries, e.socket ≠ some new) (hl : listener ≠ some new) :
    Arranged flags (if listener = some old then some new else listener)
      (entries.map (relinkEntry old new)) := by
  have hsocket : ∀ e ∈ entries, ∀ i, (relinkEntry old new e).socket = some i →
      (e.socket = some old ∧ i = new) ∨ e.socket = some i ∧ i ≠ old ∧ i ≠ new := by
    intro e he i hi
    rw [socket_relinkEntry] at hi
    split_ifs at hi with hold
    · exact .inl ⟨hold, (Option.some.inj hi).symm⟩
    · refine .inr ⟨hi, ?_, ?_⟩
      · rintro rfl
        exact hold hi
      · rintro rfl
        exact hnew e he hi
  -- Whose socket is not the listener now had another one before, too.
  have hbefore : ∀ e ∈ entries, ∀ i, (relinkEntry old new e).socket = some i →
      (if listener = some old then some new else listener) ≠ some i →
        ∃ k, e.socket = some k ∧ listener ≠ some k ∧
          (k = old ∧ i = new ∨ k = i ∧ i ≠ old ∧ i ≠ new) := by
    intro e he i hi hli
    rcases hsocket e he i hi with ⟨hs, rfl⟩ | ⟨hs, hold, hfresh⟩
    · refine ⟨old, hs, fun hlold => ?_, .inl ⟨rfl, rfl⟩⟩
      rw [if_pos hlold] at hli
      exact hli rfl
    · refine ⟨i, hs, fun hlold => ?_, .inr ⟨rfl, hold, hfresh⟩⟩
      rw [hlold, if_neg fun heq => hold (Option.some.inj heq)] at hli
      exact hli rfl
  constructor
  · intro e₁ he₁ e₁' he₁' hne i j hi hj hli hlj
    obtain ⟨e, he, rfl⟩ := List.mem_map.mp he₁
    obtain ⟨e', he', rfl⟩ := List.mem_map.mp he₁'
    have hne : e ≠ e' := fun heq => hne (congrArg _ heq)
    obtain ⟨k, hk, hlk, hki⟩ := hbefore e he i hi hli
    obtain ⟨k', hk', hlk', hkj⟩ := hbefore e' he' j hj hlj
    rw [channel_relinkEntry, channel_relinkEntry,
      ← h.together e he e' he' hne k k' hk hk' hlk hlk']
    -- The new socket was nobody's, so that sockets that differed still differ.
    rcases hki with ⟨rfl, rfl⟩ | ⟨rfl, hold, hfresh⟩ <;>
      rcases hkj with ⟨rfl, rfl⟩ | ⟨rfl, hold', hfresh'⟩
    · exact iff_of_true rfl rfl
    · exact iff_of_false hfresh'.symm hold'.symm
    · exact iff_of_false hfresh hold
    · exact .rfl
  · intro hd e₁ he₁ hin i hi
    obtain ⟨e, he, rfl⟩ := List.mem_map.mp he₁
    rw [channel_relinkEntry] at hin
    rcases hsocket e he i hi with ⟨hs, rfl⟩ | ⟨hs, hold, -⟩
    · rw [if_pos (h.home hd e he hin old hs)]
    · have hlistener := h.home hd e he hin i hs
      rw [hlistener, if_neg fun heq => hold (Option.some.inj heq)]

/-- **A channel and its siblings may get a socket** on which are just those channels that the flags
admit, unless it is the listener. -/
theorem link (h : Arranged flags listener entries) {id : SocketId}
    (hdistinct : ∀ e ∈ entries, e.channel.id = c.id → e = { channel := c })
    (hown : listener ≠ some id → ∀ e ∈ entries, ∀ j, e.socket = some j → listener ≠ some j →
      (id = j ↔ flags.Admits c e.channel))
    (hhome : flags.directions = false → c.direction = .inbound → listener = some id) :
    Arranged flags listener (entries.map (linkEntry c id flags listener)) := by
  -- Whoever is linked may share with the same channels as the channel itself.
  have hkin : ∀ e ∈ entries, (e.channel.id = c.id ∨
      flags.Admits c e.channel ∧ (listener = some id → e.channel.direction = .inbound)) →
        ∀ c', flags.Admits e.channel c' ↔ flags.Admits c c' := by
    rintro e he (hid | ⟨hadmits, -⟩) c'
    · rw [hdistinct e he hid]
    · exact hadmits.congr_left.symm
  constructor
  · intro e₁ he₁ e₁' he₁' hne i j hi hj hli hlj
    obtain ⟨e, he, rfl⟩ := List.mem_map.mp he₁
    obtain ⟨e', he', rfl⟩ := List.mem_map.mp he₁'
    have hne : e ≠ e' := fun heq => hne (congrArg _ heq)
    rw [channel_linkEntry, channel_linkEntry]
    rcases linkEntry_cases c id flags listener e with heq | ⟨heq, hlinked⟩ <;>
      rcases linkEntry_cases c id flags listener e' with heq' | ⟨heq', hlinked'⟩ <;>
      rw [heq] at hi <;> rw [heq'] at hj
    · exact h.together e he e' he' hne i j hi hj hli hlj
    · obtain rfl : id = j := Option.some.inj hj
      have hlaw := hown hlj e he i hi hli
      rw [← hkin e' he' hlinked'] at hlaw
      exact ⟨fun heq => (hlaw.mp heq.symm).symm, fun hadmits => (hlaw.mpr hadmits.symm).symm⟩
    · obtain rfl : id = i := Option.some.inj hi
      rw [hkin e he hlinked]
      exact hown hli e' he' j hj hlj
    · -- Two that are linked now: one of them at most is the channel itself.
      obtain rfl : id = i := Option.some.inj hi
      obtain rfl : id = j := Option.some.inj hj
      refine iff_of_true rfl ?_
      rw [hkin e he hlinked]
      rcases hlinked' with hid' | ⟨hadmits', -⟩
      · rcases hlinked with hid | ⟨hadmits, -⟩
        · exact absurd ((hdistinct e he hid).trans (hdistinct e' he' hid').symm) hne
        · rw [hdistinct e' he' hid']
          exact hadmits.trans hadmits.symm
      · exact hadmits'
  · intro hd e₁ he₁ hin i hi
    obtain ⟨e, he, rfl⟩ := List.mem_map.mp he₁
    rw [channel_linkEntry] at hin
    rcases linkEntry_cases c id flags listener e with heq | ⟨heq, hlinked⟩ <;> rw [heq] at hi
    · exact h.home hd e he hin i hi
    · obtain rfl : id = i := Option.some.inj hi
      rcases hlinked with hid | ⟨hadmits, -⟩
      · rw [hdistinct e he hid] at hin
        exact hhome hd hin
      · exact hhome hd ((hadmits.direction_eq hd).trans hin)

end Arranged

end Directory

namespace Exchange

variable {ν : Type} {x y : Exchange ν} {flags : Sharing}

/-- The channels of the exchange are arranged by the flags. -/
def Shares (flags : Sharing) (x : Exchange ν) : Prop :=
  Arranged flags x.listener x.directory.entries

/-! ### Giving sockets to channels -/

theorem Shares.join (h : x.outline.Sound) (hx : x.Shares x.profile.sharing) {c : Channel}
    {id : SocketId} (hc : c ∈ x.directory.channels) (hw : x.directory.Waits c.id)
    (hown : x.listener ≠ some id → ∀ e ∈ x.directory.entries, ∀ j, e.socket = some j →
      x.listener ≠ some j → (id = j ↔ x.profile.sharing.Admits c e.channel))
    (hhome : x.profile.sharing.directions = false → c.direction = .inbound →
      x.listener = some id) : (x.join c id).Shares x.profile.sharing := by
  obtain ⟨hentries, hlistener⟩ := entries_join (knows_of_mem_channels h hc) id
  unfold Shares
  rw [hentries, hlistener]
  exact Arranged.link hx (fun e he hid => eq_of_waits h hc hw he hid) hown hhome

/-- Who joins a socket that there is joins just those whom the flags admit. -/
theorem Shares.joined (h : x.outline.Sound) (hx : x.Shares x.profile.sharing) {c : Channel}
    {id : SocketId} (hc : c ∈ x.directory.channels) (hw : x.directory.Waits c.id)
    (hid : x.directory.sharedSocket? c x.profile.sharing x.listener = some id ∨
      c.direction = .inbound ∧ x.listener = some id) : (x.join c id).Shares x.profile.sharing := by
  rcases hid with hshared | ⟨hin, hl⟩
  · obtain ⟨e₀, he₀, hs₀, hadmits⟩ := admits_of_sharedSocket? hshared
    refine .join h hx hc hw (fun hl e he j hj hlj => ?_) fun hd hin => ?_
    · by_cases heq : e₀ = e
      · subst heq
        exact iff_of_true (Option.some.inj (hs₀.symm.trans hj)) hadmits
      · rw [hadmits.congr_left]
        exact hx.together e₀ he₀ e he heq id j hs₀ hj hl hlj
    · have hin₀ := (hadmits.direction_eq hd).symm.trans hin
      exact hx.home hd e₀ he₀ hin₀ id hs₀
  · exact .join h hx hc hw (fun hne => absurd hl hne) fun _ _ => hl

/-- A new socket is opened only where nobody is whom the flags admit. -/
theorem Shares.connected (h : x.outline.Sound) (hx : x.Shares x.profile.sharing) {c : Channel}
    {remote : Endpoint} (ownEnd : Endpoint) (hc : c ∈ x.directory.channels)
    (hw : x.directory.Waits c.id) (hd : c.direction = .outbound)
    (hn : x.directory.sharedSocket? c x.profile.sharing x.listener = none) :
    Shares x.profile.sharing ((track (Socket.outgoing x.profile.transport ownEnd remote) x).join c
      x.nextSocket) := by
  -- Opening the socket leaves the directory, the listener and the settings alone.
  generalize hopened : track (Socket.outgoing x.profile.transport ownEnd remote) x = x'
  have hdirectory : x'.directory = x.directory := by rw [← hopened]; rfl
  have hlistener : x'.listener = x.listener := by rw [← hopened]; rfl
  have hprofile : x'.profile = x.profile := by rw [← hopened]; rfl
  have hknows : x'.directory.knows c = true := hdirectory ▸ knows_of_mem_channels h hc
  obtain ⟨hentries, hsame⟩ := entries_join hknows x.nextSocket
  unfold Shares
  rw [hentries, hsame, hdirectory, hlistener, hprofile]
  refine Arranged.link hx (fun e he hid => eq_of_waits h hc hw he hid)
    (fun _ e he j hj hlj => ?_) fun _ hin => nomatch hd.symm.trans hin
  refine iff_of_false ?_ (not_admits_of_sharedSocket? hn he hj hlj)
  rintro rfl
  exact socket_ne_nextSocket h he hj

/-! ### Steps -/

variable [Network ν]

theorem Shares.deactivate (h : x.outline.Sound) : x.deactivate.Shares flags := by
  have hsound := h.move (move_deactivate x)
  exact .of_none (bare_of_sound hsound (isOpen_deactivate x)).links

theorem Shares.moveListener (h : x.outline.Sound) (ho : x.isOpen = true) (hx : x.Shares flags)
    (p : Profile) (ownEnd : Endpoint) : (x.moveListener p ownEnd).Shares flags := by
  obtain ⟨old, hold⟩ : ∃ old, x.listener = some old := Option.ne_none_iff_exists'.mp (h.opened ho)
  obtain ⟨next, -, heq⟩ := outline_moveListener p ownEnd x
  rw [rebind_eq (show x.outline.listener = some old from hold)] at heq
  have hrelinked := Arranged.relink hx old
    (fun e he => socket_ne_nextSocket h he) fun hl => h.listener_ne hl rfl
  rw [if_pos hold] at hrelinked
  have hafter : Arranged flags (x.moveListener p ownEnd).outline.listener
      (x.moveListener p ownEnd).outline.entries := by
    rw [heq]
    split_ifs
    · -- A change of the transport takes links away, and changes no other ones.
      refine hrelinked.of_linked fun e he hlinked => ?_
      obtain ⟨e', he', rfl⟩ := List.mem_map.mp he
      unfold detachEntry at hlinked ⊢
      split_ifs at hlinked ⊢
      · exact absurd rfl hlinked
      · exact he'
    · exact hrelinked
  exact hafter

theorem Shares.retain (hx : x.Shares flags) (kept : List Channel) : (x.retain kept).Shares flags := by
  have heq := outline_retain kept x
  have hafter : Arranged flags (x.retain kept).outline.listener (x.retain kept).outline.entries := by
    rw [heq]
    exact Arranged.of_linked hx fun e he _ => (List.mem_filter.mp he).1
  exact hafter

/-- An attempt leaves links as they are, or puts a new socket in the place of the old one. -/
theorem Shares.retry (h : x.outline.Sound) (hx : x.Shares flags) {r : Retry} {s : Socket}
    (hs : x.sockets.find? r.socket = some s) (hr : s.role = .outbound) : (retry r x).Shares flags := by
  obtain ⟨network, heq | ⟨ownEnd, remote, heq⟩⟩ := retry_cases_of_outbound h hs hr <;> rw [heq]
  · obtain ⟨_, _, hsame⟩ := scheduleRetry_eq r.socket r.delay
      ((x.attempting r.socket network).modifySocket r.socket fun s => { s with phase := .retryScheduled })
    rw [hsame]
    exact hx
  · have hl : x.listener ≠ some r.socket := by
      refine h.ne_listener (Sockets.mem_natures.mpr ⟨s, Sockets.mem_of_find? hs, rfl⟩) ?_
      rw [show s.nature.role = .outbound from hr]
      exact nofun
    have hrelinked := Arranged.relink hx r.socket
      (fun e he => socket_ne_nextSocket h he) fun hl => h.listener_ne hl rfl
    rw [if_neg hl] at hrelinked
    obtain ⟨next, told, -, houtline⟩ := outline_substitute r.socket
      (Socket.outgoing x.profile.transport ownEnd remote) (x.attempting r.socket network)
    have hafter : Arranged flags ((x.attempting r.socket network).substitute r.socket
        (Socket.outgoing x.profile.transport ownEnd remote)).outline.listener
        ((x.attempting r.socket network).substitute r.socket
          (Socket.outgoing x.profile.transport ownEnd remote)).outline.entries := by
      rw [houtline]
      exact hrelinked
    exact hafter

/-- **A step keeps the channels arranged,** unless it changes the flags. -/
theorem Shares.singleStep (h : x.outline.Sound) (hx : x.Shares x.profile.sharing)
    (hstep : SingleStep x y) : y.Shares x.profile.sharing := by
  have hcall : ∀ c f, (x.onDirectory (·.modifyCall c f)).Shares x.profile.sharing := by
    intro c f
    have hentries := entries_modifyCall c f x.directory
    unfold Shares onDirectory
    rw [hentries]
    exact hx
  cases hstep with
  | answered network => exact hx
  | elapsed ms => exact hx
  | opened ownEnd ho => exact .of_none (bare_of_sound h ho).links
  | adopted p hs hm ht => exact hx
  | moved p ownEnd hs hm ho => exact .moveListener h ho hx p ownEnd
  | enrolled s r hv hb =>
    refine Arranged.of_linked hx fun e he hlinked => ?_
    rcases List.mem_append.mp he with he | he
    · exact he
    · rw [List.mem_singleton.mp he] at hlinked
      exact absurd rfl hlinked
  | joined ho hc hu hid => exact .joined h hx hc hu hid
  | connected ownEnd ho hc hu hd hr hn => exact .connected h hx ownEnd hc hu hd hn
  | retained kept => exact .retain hx kept
  | queued data call ho hc ht => exact hx
  | armed id => exact hx
  | rearmed =>
    obtain ⟨_, _, heq⟩ := armPending_eq x
    rw [heq]
    exact hx
  | began c hb => exact hcall c _
  | collected c g => exact hcall c _
  | finished c g => exact hcall c _
  | faulted id =>
    obtain ⟨hentries, hlistener, -⟩ := entries_passMoves (passMoves_of_events (events_reportFault x id))
    exact (congr (congrArg (Arranged _) hlistener) hentries).mpr hx

theorem Shares.plainStep (h : x.outline.Sound) (ha : x.sockets.Attended x.outline.retries)
    (hx : x.Shares x.profile.sharing) (hstep : PlainStep x y) : y.Shares x.profile.sharing := by
  cases hstep with
  | single hstep => exact .singleStep h hx hstep
  | retried => exact retryDue_induction h ha hx fun y r s hsound hs hr _ hy => .retry hsound hy hs hr
  | @passed y ho hpass =>
    obtain ⟨hentries, hlistener, -⟩ := entries_passMoves (passMoves_passSteps h hpass)
    obtain ⟨_, _, heq⟩ := armPending_eq y
    rw [heq]
    exact (congr (congrArg (Arranged _) hlistener) hentries).mpr hx

/-! ### Runs -/

/-- New settings in the run keep the flags of sharing. -/
def KeepsFlags (x : Exchange ν) (ops : List (Operation ν)) : Prop :=
  ∀ before c after, ops = before ++ .updateProfile c :: after →
    ((x.run before).apply (.updateProfile c)).profile.sharing = (x.run before).profile.sharing

theorem Shares.steadySteps (h : x.outline.Sound) (ha : x.sockets.Attended x.outline.retries)
    (hx : x.Shares x.profile.sharing) (hsteps : SteadySteps x y) : y.Shares x.profile.sharing := by
  induction hsteps with
  | refl => exact hx
  | @tail y z hbefore hstep ih =>
    have hsteps := SteadySteps.steps hbefore
    have hsound := h.moves (moves_steps h hsteps)
    have hattended := (Tends.steps h ha hsteps).attended ha
    have hsame := congrArg Profile.sharing (SteadySteps.profile hbefore)
    rw [← hsame] at ih ⊢
    exact .plainStep hsound hattended ih hstep.1

/-- An operation arranges the channels by the flags that were in effect before it. -/
theorem Shares.apply (h : x.outline.Sound) (ha : x.sockets.Attended x.outline.retries)
    (hx : x.Shares x.profile.sharing) (op : Operation ν) : (x.apply op).Shares x.profile.sharing := by
  rcases apply_cases x op with ⟨c, rfl⟩ | rfl | rfl | hsteady
  · obtain ⟨network, heq | hstep⟩ := updateProfile_cases c x
    · have hafter : x.apply (.updateProfile c) = { x with network } := heq
      rw [hafter]
      exact hx
    · exact Shares.singleStep (x := { x with network }) h hx hstep
  · exact .deactivate h
  · exact hx
  · exact .steadySteps h ha hx hsteady

/-- **While the flags stay, the channels are arranged by them.** -/
theorem shares_run {name : String} {profile : Profile} {network : ν}
    (hx : create name profile network = .ok x) {ops : List (Operation ν)} (hops : x.KeepsFlags ops) :
    (x.run ops).profile.sharing = profile.sharing ∧ (x.run ops).Shares profile.sharing := by
  induction ops using List.reverseRecOn with
  | nil =>
    have hentries := congrArg Outline.entries (outline_create hx)
    refine ⟨?_, .of_none fun e he => ?_⟩
    · unfold create at hx
      split at hx
      · exact nomatch hx
      · rw [run_nil, ← Except.ok.inj hx]
    · rw [show (x.run []).directory.entries = [] from hentries] at he
      exact nomatch he
  | append_singleton ops op ih =>
    obtain ⟨hflags, hshares⟩ := ih fun before c after heq =>
      hops before c (after ++ [op]) (by rw [heq]; simp)
    have hreached : (x.run ops).Reachable := ⟨name, profile, network, x, ops, hx, rfl⟩
    rw [run_snoc]
    refine ⟨?_, hflags ▸ .apply hreached.sound hreached.attended (hflags ▸ hshares) op⟩
    rcases apply_cases (x.run ops) op with ⟨c, rfl⟩ | rfl | rfl | hsteady
    · exact (hops ops c [] rfl).trans hflags
    · exact (congrArg Profile.sharing (profile_deactivate (x.run ops))).trans hflags
    · exact hflags
    · exact (congrArg Profile.sharing (SteadySteps.profile hsteady)).trans hflags

omit [Network ν] in
/-- Two different outbound channels of the exchange, with their sockets. -/
structure OutboundPair (x : Exchange ν) (c c' : Channel) (i i' : SocketId) : Prop where
  channels : c ∈ x.directory.channels ∧ c' ∈ x.directory.channels
  different : c ≠ c'
  outbound : c.direction = .outbound ∧ c'.direction = .outbound
  sockets : x.directory.socketOf c.id = some i ∧ x.directory.socketOf c'.id = some i'

omit [Network ν] in
/-- Who has a socket, by the entry of the channel. -/
theorem exists_entry (h : x.outline.Sound) {c : Channel} (hc : c ∈ x.directory.channels)
    {i : SocketId} (hi : x.directory.socketOf c.id = some i) :
    ∃ e ∈ x.directory.entries, e.channel = c ∧ e.socket = some i := by
  obtain ⟨e, he, rfl⟩ := List.mem_map.mp hc
  exact ⟨e, he, rfl, (socketOf_of_mem h.numbered he).symm.trans hi⟩

omit [Network ν] in
/-- No outbound channel is on the listener. -/
theorem listener_ne_of_outbound (h : x.outline.Sound) {e : Entry} (he : e ∈ x.directory.entries)
    (hd : e.channel.direction = .outbound) {i : SocketId} (hi : e.socket = some i) :
    x.listener ≠ some i := by
  intro hl
  obtain ⟨n, hn, hr⟩ := h.listener i hl
  rcases h.nature_of_link he hi hn with ⟨-, hin⟩ | ⟨hout, -⟩
  · exact nomatch hd.symm.trans hin
  · exact nomatch hr.symm.trans hout

omit [Network ν] in
/-- Of outbound channels, those are together that have one remote and that a circle holds. -/
theorem Shares.eq_iff (h : x.outline.Sound) (hx : x.Shares flags) {c c' : Channel} {i i' : SocketId}
    (hp : x.OutboundPair c c' i i') : i = i' ↔ c.remote = c'.remote ∧
      (flags.item = true ∧ c.item = c'.item ∨ flags.binding = true ∨ flags.directions = true) := by
  obtain ⟨⟨hc, hc'⟩, hne, ⟨hd, hd'⟩, hi, hi'⟩ := hp
  obtain ⟨e, he, rfl, hs⟩ := exists_entry h hc hi
  obtain ⟨e', he', rfl, hs'⟩ := exists_entry h hc' hi'
  rw [hx.together e he e' he' (fun heq => hne (congrArg _ heq)) i i' hs hs'
    (listener_ne_of_outbound h he hd hs) (listener_ne_of_outbound h he' hd' hs'), Sharing.admits_iff]
  simp [hd, hd']

omit [Network ν] in
/-- An inbound channel is beside an outbound one only where the directions are shared. -/
theorem Shares.directions (h : x.outline.Sound) (hx : x.Shares flags) {c c' : Channel} {i : SocketId}
    (hc : c ∈ x.directory.channels ∧ c' ∈ x.directory.channels)
    (hd : c.direction = .inbound ∧ c'.direction = .outbound)
    (hi : x.directory.socketOf c.id = some i ∧ x.directory.socketOf c'.id = some i) :
    flags.directions = true ∧ c.remote = c'.remote := by
  obtain ⟨e, he, rfl, hs⟩ := exists_entry h hc.1 hi.1
  obtain ⟨e', he', rfl, hs'⟩ := exists_entry h hc.2 hi.2
  have hl := listener_ne_of_outbound h he' hd.2 hs'
  have hne : e ≠ e' := by
    rintro rfl
    exact nomatch hd.1.symm.trans hd.2
  have hadmits := (hx.together e he e' he' hne i i hs hs' hl hl).mp rfl
  refine ⟨?_, hadmits.1⟩
  by_contra hoff
  exact hl (hx.home (eq_false_of_ne_true hoff) e he hd.1 i hs)

/-- **Who shares a socket.**  In a run in which the flags of sharing stay as they are, two outbound
channels that have sockets have the same one exactly if their remotes are equal and a circle that is
open holds both; an inbound channel is beside an outbound one only if the directions are shared and
their remotes are equal.  So in any two such runs the same outbound channels share sockets. -/
theorem shared_iff {name : String} {profile : Profile} {network : ν}
    (hx : create name profile network = .ok x) {ops : List (Operation ν)} (hops : x.KeepsFlags ops) :
    (∀ c c' i i', (x.run ops).OutboundPair c c' i i' → (i = i' ↔ c.remote = c'.remote ∧
      (profile.sharing.item = true ∧ c.item = c'.item ∨ profile.sharing.binding = true ∨
        profile.sharing.directions = true))) ∧
    (∀ c ∈ (x.run ops).directory.channels, ∀ c' ∈ (x.run ops).directory.channels,
      c.direction = .inbound → c'.direction = .outbound → ∀ i,
        (x.run ops).directory.socketOf c.id = some i →
          (x.run ops).directory.socketOf c'.id = some i →
            profile.sharing.directions = true ∧ c.remote = c'.remote) ∧
    ∀ (other : Exchange ν) (name' : String) (profile' : Profile) (network' : ν)
      (more : List (Operation ν)), create name' profile' network' = .ok other →
        profile'.sharing = profile.sharing → other.KeepsFlags more →
          ∀ c c' i i' d d' j j', (x.run ops).OutboundPair c c' i i' →
            (other.run more).OutboundPair d d' j j' →
              (d.subject = c.subject ∧ d.remote = c.remote) →
                (d'.subject = c'.subject ∧ d'.remote = c'.remote) → (i = i' ↔ j = j') := by
  have hreached : ∀ {y : Exchange ν} {name profile network} ops,
      create name profile network = .ok y → (y.run ops).Reachable :=
    fun ops hy => ⟨_, _, _, _, ops, hy, rfl⟩
  have hshares := (shares_run hx hops).2
  have hsound := (hreached ops hx).sound
  refine ⟨fun c c' i i' hp => hshares.eq_iff hsound hp, ?_, ?_⟩
  · intro c hc c' hc' hd hd' i hi hi'
    exact hshares.directions hsound ⟨hc, hc'⟩ ⟨hd, hd'⟩ ⟨hi, hi'⟩
  · intro other name' profile' network' more hother hsame hmore c c' i i' d d' j j' hp hq hd hd'
    have hothers := (shares_run hother hmore).2
    rw [hshares.eq_iff hsound hp, hothers.eq_iff (hreached more hother).sound hq, hsame, hd.2, hd'.2,
      Channel.item, Channel.item, Channel.item, Channel.item, hd.1, hd'.1]

/-- An outbound channel of another item, to the remote of the ferry. -/
def barge : Channel :=
  ⟨0, 2, ⟨"barge", "*", .outbound⟩, ferry.remote⟩

/-- At the pier, one outbound channel gets a socket, and others of its remote come to it. -/
def landing : List (Operation Narrow) := [
  .openUp, .bind ferry.subject ferry.remote, .ensureSocket ferry, .bind buoy.subject buoy.remote,
  .bind barge.subject barge.remote, .ensureSocket barge]

theorem shared_iff_pier : (create pier.name pier.profile pier.network = .ok pier ∧
      pier.KeepsFlags landing) ∧
    (pier.run landing).OutboundPair ferry barge 1001 1001 ∧ ferry.remote = barge.remote ∧
      (pier.run landing).directory.socketOf buoy.id = some 1001 ∧
        pier.profile.sharing.directions = true := by
  have hcreate : create pier.name pier.profile pier.network = .ok pier := rfl
  have hkeeps : pier.KeepsFlags landing := by
    intro before c after heq
    have hmem : Operation.updateProfile c ∈ landing := by rw [heq]; simp
    simp [landing] at hmem
  have hstate : (pier.run landing).directory.channels = [ferry, buoy, barge] ∧
      [ferry, buoy, barge].map ((pier.run landing).directory.socketOf ·.id) =
        [some 1001, some 1001, some 1001] := by
    decide +kernel
  obtain ⟨hchannels, hsockets⟩ := hstate
  simp only [List.map_cons, List.map_nil, List.cons.injEq, and_true] at hsockets
  obtain ⟨hferry, hbuoy, hbarge⟩ := hsockets
  have hpair : (pier.run landing).OutboundPair ferry barge 1001 1001 :=
    ⟨by simp [hchannels], by decide, ⟨rfl, rfl⟩, hferry, hbarge⟩
  obtain ⟨htogether, hbeside, -⟩ := shared_iff hcreate hkeeps
  have hremote := ((htogether ferry barge 1001 1001 hpair).mp rfl).1
  have hdirections := (hbeside buoy (by simp [hchannels]) ferry (by simp [hchannels]) rfl rfl 1001
    hbuoy hferry).1
  exact ⟨⟨hcreate, hkeeps⟩, hpair, hremote, hbuoy, hdirections⟩

end Exchange

end Switchboard
