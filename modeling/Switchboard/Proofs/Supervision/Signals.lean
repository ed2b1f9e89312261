import Switchboard.Proofs.Undisturbed

/-!
# Flags

A channel has a flag that says whether its socket is being replaced.  The flags are changed together
with the links, or with the list of the sockets that wait to be replaced, and this file says what each
such change does to the flags of the channels that are there.

What an operation may do is `Signals`: a channel that is not on a waiting socket has its flag lowered,
and one that is was there before, or its socket failed and its flag was raised, or it joined a socket
that waited already, and nobody raised its flag.  An operation does one of three things.

* It `Gathers`: channels come, and those without a socket get one.
* Sockets fail, and the flags of their channels are raised (`Fails`).
* Waiting sockets go, and the flags of their channels are lowered (`Abates`).
-/

namespace Switchboard.Directory

open Net

variable {d d' d'' : Directory} {w w' w'' : List SocketId} {c : Channel}

/-- Is the socket of the channel said to be replaced? -/
def isReconnecting (d : Directory) (c : Channel) : Bool :=
  (d.status c).reconnecting

/-! ### What changes a flag -/

theorem isReconnecting_modifyStatus (c c' : Channel) {f : Status → Status}
    (hf : ∀ s, (f s).reconnecting = s.reconnecting) (d : Directory) :
    (d.modifyStatus c f).isReconnecting c' = d.isReconnecting c' := by
  unfold isReconnecting
  rw [status_modifyStatus]
  split_ifs
  · exact hf _
  · rfl

@[simp] theorem isReconnecting_modifyCall (c c' : Channel) (f : CallBox → CallBox) (d : Directory) :
    (d.modifyCall c f).isReconnecting c' = d.isReconnecting c' :=
  isReconnecting_modifyStatus c c' (f := fun s => { s with call := f s.call }) (fun _ => rfl) d

@[simp] theorem isReconnecting_cancelCalls (cs : List Channel) (c : Channel) (d : Directory) :
    (d.cancelCalls cs).isReconnecting c = d.isReconnecting c := by
  unfold cancelCalls
  induction cs generalizing d with
  | nil => rfl
  | cons c' cs ih => rw [List.foldl_cons, ih, isReconnecting_modifyCall]

@[simp] theorem isReconnecting_append (s : Subject) (r : Remote) (c : Channel) (d : Directory) :
    (d.append s r).2.isReconnecting c = d.isReconnecting c :=
  congrArg Status.reconnecting (status_append d s r c)

@[simp] theorem isReconnecting_link (id : ChannelId) (socket : SocketId) (sharing : Sharing)
    (listener : Option SocketId) (c : Channel) (d : Directory) :
    (d.link id socket sharing listener).isReconnecting c = d.isReconnecting c :=
  congrArg Status.reconnecting (status_link id socket sharing listener d c)

theorem channels_of_core (h : d'.core = d.core) : d'.channels = d.channels :=
  congrArg (fun core : Core => core.entries.map Entry.channel) h

theorem isReconnecting_markReconnecting (value : Bool) {cs : List Channel} (hn : d.core.Numbered)
    (hcs : cs ⊆ d.channels) (hc : c ∈ d.channels) :
    (d.markReconnecting value cs).isReconnecting c =
      if c ∈ cs then value else d.isReconnecting c := by
  induction cs generalizing d with
  | nil => rfl
  | cons c' cs ih =>
    let f : Status → Status := fun s => { s with reconnecting := value }
    have hcore : (d.modifyStatus c' f).core = d.core := core_modifyStatus c' f (fun _ => rfl) d
    have hchannels := channels_of_core hcore
    have hrest := ih (d := d.modifyStatus c' f) (hcore ▸ hn)
      (hchannels ▸ fun _ h => hcs (List.mem_cons_of_mem _ h)) (hchannels ▸ hc)
    obtain ⟨e, he, rfl⟩ := List.mem_map.mp hc
    obtain ⟨e', he', rfl⟩ := List.mem_map.mp (hcs List.mem_cons_self)
    -- Of the channels that are there, no other one has the number of the first of the list.
    have hfirst : (d.modifyStatus e'.channel f).isReconnecting e.channel =
        if e.channel = e'.channel then value else d.isReconnecting e.channel := by
      unfold isReconnecting
      rw [status_modifyStatus]
      by_cases heq : e.channel = e'.channel
      · rw [if_pos ⟨keeps_of_mem hn he', by rw [heq], by rw [heq]⟩, if_pos heq]
      · rw [if_neg heq, if_neg fun h => heq (by rw [hn.eq_of_id_eq he he' h.2.2])]
    change (markReconnecting value cs (d.modifyStatus e'.channel f)).isReconnecting e.channel = _
    rw [hrest, hfirst]
    by_cases hmem : e.channel ∈ cs <;> simp [hmem]

/-! ### Who is on a socket -/

theorem mem_channels_of_mem_onSocket {id : SocketId} (h : c ∈ d.onSocket id) : c ∈ d.channels := by
  obtain ⟨e, he, -, rfl⟩ := mem_onSocket.mp h
  exact List.mem_map_of_mem he

/-- A channel is on one socket. -/
theorem onSocket_unique (hn : d.core.Numbered) {i j : SocketId} (hi : c ∈ d.onSocket i)
    (hj : c ∈ d.onSocket j) : i = j := by
  obtain ⟨e, he, hs, rfl⟩ := mem_onSocket.mp hi
  obtain ⟨e', he', hs', hc⟩ := mem_onSocket.mp hj
  rw [hn.eq_of_id_eq he' he (by rw [hc]), hs] at hs'
  exact Option.some.inj hs'

theorem isReconnecting_setReconnecting (socket : SocketId) (value : Bool) (hn : d.core.Numbered)
    (hc : c ∈ d.channels) : (d.setReconnecting socket value).isReconnecting c =
      if c ∈ d.onSocket socket then value else d.isReconnecting c :=
  isReconnecting_markReconnecting value hn (fun _ => mem_channels_of_mem_onSocket) hc

theorem mem_onSocket_of_entries (h : d'.entries = d.entries) {id : SocketId} :
    c ∈ d'.onSocket id ↔ c ∈ d.onSocket id := by
  rw [mem_onSocket, mem_onSocket, h]

theorem mem_onSocket_relink {old new id : SocketId} (hold : id ≠ old) (hnew : id ≠ new) :
    c ∈ (d.relink old new).onSocket id ↔ c ∈ d.onSocket id := by
  simp only [mem_onSocket, relink, List.mem_map]
  constructor
  · rintro ⟨_, ⟨e, he, rfl⟩, hs, rfl⟩
    split_ifs at hs ⊢
    · exact absurd (Option.some.inj hs).symm hnew
    · exact ⟨e, he, hs, rfl⟩
  · rintro ⟨e, he, hs, rfl⟩
    have hne : ¬ e.socket = some old := fun h => hold (Option.some.inj (hs.symm.trans h))
    exact ⟨e, ⟨e, he, if_neg hne⟩, hs, rfl⟩

/-- Who was on the old socket is on the new one. -/
theorem mem_onSocket_relink_new {old new : SocketId} (h : c ∈ d.onSocket old) :
    c ∈ (d.relink old new).onSocket new := by
  obtain ⟨e, he, hs, rfl⟩ := mem_onSocket.mp h
  refine mem_onSocket.mpr ⟨{ e with socket := some new }, ?_, rfl, rfl⟩
  exact List.mem_map.mpr ⟨e, he, if_pos hs⟩

theorem mem_onSocket_unlink {socket id : SocketId} :
    c ∈ (d.unlink socket).onSocket id ↔ id ≠ socket ∧ c ∈ d.onSocket id := by
  have hentries := congrArg Core.entries (core_unlink socket d)
  change (d.unlink socket).entries = d.entries.map _ at hentries
  simp only [mem_onSocket, hentries, List.mem_map]
  constructor
  · rintro ⟨_, ⟨e, he, rfl⟩, hs, rfl⟩
    rw [socket_detachEntry] at hs
    split_ifs at hs with hgone
    rw [hs] at hgone
    exact ⟨by simpa using hgone, e, he, hs, (channel_detachEntry ..).symm⟩
  · rintro ⟨hne, e, he, hs, rfl⟩
    refine ⟨_, ⟨e, he, rfl⟩, ?_, channel_detachEntry ..⟩
    rw [socket_detachEntry, hs, if_neg (by simpa using hne)]

theorem channels_unlink (socket : SocketId) (d : Directory) :
    (d.unlink socket).channels = d.channels := by
  have hentries := congrArg Core.entries (core_unlink socket d)
  change (d.unlink socket).entries = d.entries.map _ at hentries
  rw [channels, hentries, List.map_map]
  exact List.map_congr_left fun e _ => channel_detachEntry _ e

/-! ### Flags and waiting sockets -/

/-- A flag is raised only on a channel whose socket waits to be replaced. -/
def Honest (w : List SocketId) (d : Directory) : Prop :=
  ∀ c ∈ d.channels, d.isReconnecting c = true → ∃ id ∈ w, c ∈ d.onSocket id

/-- How a channel has come to be on a socket that waits to be replaced. -/
inductive Comes (w : List SocketId) (d d' : Directory) (id : SocketId) (c : Channel) : Prop
  /-- It was there, and the socket waited already. -/
  | before (hw : id ∈ w) (hc : c ∈ d.onSocket id) (hf : d'.isReconnecting c = d.isReconnecting c)
  /-- It was there, and the socket failed. -/
  | failed (hw : id ∉ w) (hc : c ∈ d.onSocket id) (hf : d'.isReconnecting c = true)
  /-- It joined the socket, which waited already. -/
  | joined (hw : id ∈ w) (hc : c ∉ d.onSocket id) (hf : d'.isReconnecting c = false)

/-- **What an operation does to the flags.** -/
structure Signals (w : List SocketId) (d : Directory) (w' : List SocketId) (d' : Directory) :
    Prop where
  lowered : ∀ c ∈ d'.channels, (∀ id ∈ w', c ∉ d'.onSocket id) → d'.isReconnecting c = false
  comes : ∀ id ∈ w', ∀ c ∈ d'.onSocket id, Comes w d d' id c

/-- **No socket failed or went, and nobody lost a socket;** who had none may have got one. -/
structure Gathers (d d' : Directory) : Prop where
  flag : ∀ c, d'.isReconnecting c = d.isReconnecting c
  keeps : ∀ c id, c ∈ d.onSocket id → c ∈ d'.onSocket id
  gains : ∀ c id, c ∈ d'.onSocket id → c ∈ d.onSocket id ∨ ∀ i, c ∉ d.onSocket i
  fresh : ∀ c ∈ d'.channels, c ∈ d.channels ∨ d.isReconnecting c = false

/-- **Some sockets failed,** and nothing changed about the links. -/
structure Fails (w : List SocketId) (d : Directory) (w' : List SocketId) (d' : Directory) :
    Prop where
  waits : w ⊆ w'
  entries : d'.entries = d.entries
  flag : ∀ c ∈ d.channels, d'.isReconnecting c = true ↔ d.isReconnecting c = true ∨
    ∃ id ∈ w', id ∉ w ∧ c ∈ d.onSocket id

/-- **Some waiting sockets went,** and nobody came to one of the others. -/
structure Abates (w : List SocketId) (d : Directory) (w' : List SocketId) (d' : Directory) :
    Prop where
  waits : w' ⊆ w
  channels : d'.channels ⊆ d.channels
  stays : ∀ id ∈ w', ∀ c ∈ d'.onSocket id,
    c ∈ d.onSocket id ∧ d'.isReconnecting c = d.isReconnecting c
  lowered : ∀ c ∈ d'.channels, (∀ id ∈ w', c ∉ d'.onSocket id) → d'.isReconnecting c = false ∨
    d'.isReconnecting c = d.isReconnecting c ∧ ∀ id ∈ w, c ∉ d.onSocket id

namespace Gathers

theorem of_entries (hf : ∀ c, d'.isReconnecting c = d.isReconnecting c)
    (he : d'.entries = d.entries) : Gathers d d' where
  flag := hf
  keeps _ _ := (mem_onSocket_of_entries he).mpr
  gains _ _ h := .inl ((mem_onSocket_of_entries he).mp h)
  fresh _ h := .inl (by rwa [channels, he] at h)

theorem refl (d : Directory) : Gathers d d :=
  of_entries (fun _ => rfl) rfl

theorem trans (h : Gathers d d') (h' : Gathers d' d'') : Gathers d d'' where
  flag c := (h'.flag c).trans (h.flag c)
  keeps c id hc := h'.keeps c id (h.keeps c id hc)
  gains c id hc := by
    rcases h'.gains c id hc with hc | hnone
    · exact h.gains c id hc
    · exact .inr fun i hi => hnone i (h.keeps c i hi)
  fresh c hc := by
    rcases h'.fresh c hc with hc | hlow
    · exact h.fresh c hc
    · exact .inr (h.flag c ▸ hlow)

theorem append (s : Subject) (r : Remote) (d : Directory) : Gathers d (d.append s r).2 where
  flag c := isReconnecting_append s r c d
  keeps c id hc := by
    obtain ⟨e, he, hs, hc⟩ := mem_onSocket.mp hc
    exact mem_onSocket.mpr ⟨e, List.mem_append_left _ he, hs, hc⟩
  gains c id hc := by
    obtain ⟨e, he, hs, rfl⟩ := mem_onSocket.mp hc
    rcases List.mem_append.mp he with he | he
    · exact .inl (mem_onSocket.mpr ⟨e, he, hs, rfl⟩)
    · rw [List.mem_singleton.mp he] at hs
      exact nomatch hs
  fresh c hc := by
    obtain ⟨e, he, rfl⟩ := List.mem_map.mp hc
    rcases List.mem_append.mp he with he | he
    · exact .inl (List.mem_map_of_mem he)
    · -- Nothing is kept yet of the number that a new channel gets.
      refine .inr ?_
      rw [List.mem_singleton.mp he]
      simp [isReconnecting, status]

/-- Linking a channel without a socket, and its siblings. -/
theorem link (hn : d.core.Numbered) (hw : d.Waits c.id) (hk : d.knows c = true) (socket : SocketId)
    (sharing : Sharing) (listener : Option SocketId) :
    Gathers d (d.link c.id socket sharing listener) := by
  have hcore := core_link hk socket sharing listener
  have hentries := congrArg Core.entries hcore
  change (d.link c.id socket sharing listener).entries = d.entries.map _ at hentries
  -- Who gets the socket had none.
  have hentry : ∀ e ∈ d.entries, (linkEntry c socket sharing listener e).socket = e.socket ∨
      e.socket = none := by
    intro e he
    rcases socket_linkEntry c socket sharing listener e with hsame | ⟨-, hown | ⟨hnone, -⟩⟩
    · exact .inl hsame
    · exact .inr (hw.socket_eq_none hn he hown)
    · exact .inr hnone
  refine ⟨fun c' => isReconnecting_link .., fun c' id hc => ?_, fun c' id hc => ?_, fun c' hc => ?_⟩
  · obtain ⟨e, he, hs, rfl⟩ := mem_onSocket.mp hc
    refine mem_onSocket.mpr ⟨_, hentries ▸ List.mem_map_of_mem he, ?_, channel_linkEntry ..⟩
    rcases hentry e he with hsame | hnone
    · exact hsame.trans hs
    · exact nomatch hs.symm.trans hnone
  · obtain ⟨e', he', hs, rfl⟩ := mem_onSocket.mp hc
    obtain ⟨e, he, rfl⟩ := List.mem_map.mp (hentries ▸ he')
    rw [channel_linkEntry]
    rcases hentry e he with hsame | hnone
    · exact .inl (mem_onSocket.mpr ⟨e, he, hsame ▸ hs, rfl⟩)
    · refine .inr fun i hi => ?_
      obtain ⟨e', he', hs', hc'⟩ := mem_onSocket.mp hi
      rw [hn.eq_of_id_eq he' he (by rw [hc'])] at hs'
      exact nomatch hs'.symm.trans hnone
  · obtain ⟨e', he', rfl⟩ := List.mem_map.mp hc
    obtain ⟨e, he, rfl⟩ := List.mem_map.mp (hentries ▸ he')
    rw [channel_linkEntry]
    exact .inl (List.mem_map_of_mem he)

end Gathers

namespace Fails

theorem of_same (hf : ∀ c, d'.isReconnecting c = d.isReconnecting c) (he : d'.entries = d.entries) :
    Fails w d w d' where
  waits := List.Subset.refl _
  entries := he
  flag c _ := by
    rw [hf]
    exact ⟨.inl, fun h => h.resolve_right fun ⟨_, hid, hnot, _⟩ => hnot hid⟩

theorem trans (h : Fails w d w' d') (h' : Fails w' d' w'' d'') : Fails w d w'' d'' where
  waits := List.Subset.trans h.waits h'.waits
  entries := h'.entries.trans h.entries
  flag c hc := by
    rw [h'.flag c (by rwa [channels, h.entries]), h.flag c hc]
    constructor
    · rintro ((hf | ⟨id, hid, hnot, hon⟩) | ⟨id, hid, hnot, hon⟩)
      · exact .inl hf
      · exact .inr ⟨id, h'.waits hid, hnot, hon⟩
      · exact .inr ⟨id, hid, fun hw => hnot (h.waits hw), (mem_onSocket_of_entries h.entries).mp hon⟩
    · rintro (hf | ⟨id, hid, hnot, hon⟩)
      · exact .inl (.inl hf)
      · by_cases hmid : id ∈ w'
        · exact .inl (.inr ⟨id, hmid, hnot, hon⟩)
        · exact .inr ⟨id, hid, hmid, (mem_onSocket_of_entries h.entries).mpr hon⟩

/-- A socket fails, and the flags of its channels are raised. -/
theorem raise (hn : d.core.Numbered) {id : SocketId} (hid : id ∉ w) :
    Fails w d (w ++ [id]) (d.setReconnecting id true) where
  waits := List.subset_append_left _ _
  entries := entries_setReconnecting ..
  flag c hc := by
    rw [isReconnecting_setReconnecting id true hn hc]
    by_cases hon : c ∈ d.onSocket id
    · rw [if_pos hon]
      exact iff_of_true rfl (.inr ⟨id, by simp, hid, hon⟩)
    · rw [if_neg hon]
      refine ⟨.inl, fun h => h.resolve_right ?_⟩
      rintro ⟨i, hi, hnot, hon'⟩
      obtain rfl := List.mem_singleton.mp ((List.mem_append.mp hi).resolve_left hnot)
      exact hon hon'

end Fails

namespace Abates

theorem of_entries (hf : ∀ c, d'.isReconnecting c = d.isReconnecting c)
    (he : d'.entries = d.entries) : Abates w d w d' where
  waits := List.Subset.refl _
  channels := by rw [Directory.channels, he, ← Directory.channels]; exact List.Subset.refl _
  stays id _ c hc := ⟨(mem_onSocket_of_entries he).mp hc, hf c⟩
  lowered c _ hnone :=
    .inr ⟨hf c, fun id hid hc => hnone id hid ((mem_onSocket_of_entries he).mpr hc)⟩

theorem refl (w : List SocketId) (d : Directory) : Abates w d w d :=
  of_entries (fun _ => rfl) rfl

theorem trans (h : Abates w d w' d') (h' : Abates w' d' w'' d'') : Abates w d w'' d'' where
  waits := List.Subset.trans h'.waits h.waits
  channels := List.Subset.trans h'.channels h.channels
  stays id hid c hc := by
    obtain ⟨hc', hf'⟩ := h'.stays id hid c hc
    obtain ⟨hc, hf⟩ := h.stays id (h'.waits hid) c hc'
    exact ⟨hc, hf'.trans hf⟩
  lowered c hc hnone := by
    rcases h'.lowered c hc hnone with hlow | ⟨hf', hnone'⟩
    · exact .inl hlow
    · rw [hf']
      exact h.lowered c (h'.channels hc) hnone'

/-- Sockets that nobody is on may go. -/
theorem drop (hw : w' ⊆ w) (hempty : ∀ id ∈ w, id ∈ w' ∨ d.onSocket id = []) :
    Abates w d w' d where
  waits := hw
  channels := List.Subset.refl _
  stays _ _ _ hc := ⟨hc, rfl⟩
  lowered c _ hnone := by
    refine .inr ⟨rfl, fun id hid hc => ?_⟩
    rcases hempty id hid with hid | hnobody
    · exact hnone id hid hc
    · rw [hnobody] at hc
      exact nomatch hc

theorem of_perm (h : Abates w d w' d') (hp : w''.Perm w) : Abates w'' d w' d' where
  waits := List.Subset.trans h.waits hp.symm.subset
  channels := h.channels
  stays := h.stays
  lowered c hc hnone := (h.lowered c hc hnone).imp_right fun ⟨hf, hnowhere⟩ =>
    ⟨hf, fun id hid => hnowhere id (hp.subset hid)⟩

/-- Nobody comes to or from a socket that waits. -/
theorem relink {old new : SocketId} (hold : old ∉ w) (hnew : new ∉ w) :
    Abates w d w (d.relink old new) := by
  have hiff : ∀ id ∈ w, ∀ c, c ∈ (d.relink old new).onSocket id ↔ c ∈ d.onSocket id :=
    fun id hid c => mem_onSocket_relink (fun h => hold (h ▸ hid)) (fun h => hnew (h ▸ hid))
  exact {
    waits := List.Subset.refl _
    channels := by rw [channels_relink]; exact List.Subset.refl _
    stays := fun id hid c hc => ⟨(hiff id hid c).mp hc, rfl⟩
    lowered := fun c _ hnone =>
      .inr ⟨rfl, fun id hid hc => hnone id hid ((hiff id hid c).mpr hc)⟩ }

/-- The socket that takes the place of one that waited does not wait, and the flags of its channels
are lowered. -/
theorem substitute (hn : d.core.Numbered) {old new : SocketId} (hw : w' ⊆ w) (hold : old ∉ w')
    (hnew : new ∉ w) (hrest : ∀ id ∈ w, id = old ∨ id ∈ w') :
    Abates w d w' ((d.relink old new).setReconnecting new false) := by
  have hnumbered : (d.relink old new).core.Numbered := hn.map (channel_relinkEntry old new)
  have hentries : ((d.relink old new).setReconnecting new false).entries =
      (d.relink old new).entries := entries_setReconnecting ..
  have hchannels : ((d.relink old new).setReconnecting new false).channels = d.channels := by
    rw [Directory.channels, hentries, ← Directory.channels, channels_relink]
  have hflag : ∀ c ∈ d.channels,
      ((d.relink old new).setReconnecting new false).isReconnecting c =
        if c ∈ (d.relink old new).onSocket new then false else d.isReconnecting c := fun c hc =>
    isReconnecting_setReconnecting new false hnumbered (by rwa [channels_relink])
  have hiff : ∀ id ∈ w', ∀ c, c ∈ (d.relink old new).onSocket id ↔ c ∈ d.onSocket id :=
    fun id hid c => mem_onSocket_relink (fun h => hold (h ▸ hid)) (fun h => hnew (h ▸ hw hid))
  refine ⟨hw, hchannels ▸ List.Subset.refl _, fun id hid c hc => ?_, fun c hc hnone => ?_⟩
  · have hon := (mem_onSocket_of_entries hentries).mp hc
    rw [hflag c (hchannels ▸ mem_channels_of_mem_onSocket hc), if_neg fun hon' => ?_]
    · exact ⟨(hiff id hid c).mp hon, rfl⟩
    · exact hnew (onSocket_unique hnumbered hon' hon ▸ hw hid)
  · rw [hflag c (hchannels ▸ hc)]
    split_ifs with hon
    · exact .inl rfl
    · refine .inr ⟨rfl, fun id hid hon' => ?_⟩
      rcases hrest id hid with rfl | hid'
      · exact hon (mem_onSocket_relink_new hon')
      · exact hnone id hid' ((mem_onSocket_of_entries hentries).mpr ((hiff id hid' c).mpr hon'))

/-- A socket is taken away from its channels, and their flags are lowered. -/
theorem unlink (hn : d.core.Numbered) (id : SocketId) :
    Abates w d (w.filter (· != id)) (d.unlink id) where
  waits := List.filter_subset_self _
  channels := by rw [channels_unlink]; exact List.Subset.refl _
  stays i hi c hc := by
    obtain ⟨hne, hon⟩ := mem_onSocket_unlink.mp hc
    refine ⟨hon, ?_⟩
    change (d.setReconnecting id false).isReconnecting c = _
    rw [isReconnecting_setReconnecting id false hn (mem_channels_of_mem_onSocket hon),
      if_neg fun hon' => hne (onSocket_unique hn hon hon')]
  lowered c hc hnone := by
    rw [channels_unlink] at hc
    change (d.setReconnecting id false).isReconnecting c = _ ∨
      (d.setReconnecting id false).isReconnecting c = _ ∧ _
    rw [isReconnecting_setReconnecting id false hn hc]
    split_ifs with hon
    · exact .inl rfl
    · refine .inr ⟨rfl, fun i hi hc => ?_⟩
      have hne : i ≠ id := fun h => hon (h ▸ hc)
      exact hnone i (List.mem_filter.mpr ⟨hi, by simpa using hne⟩) (mem_onSocket_unlink.mpr ⟨hne, hc⟩)

theorem foldl_unlink (hn : d.core.Numbered) (ids : List SocketId) :
    Abates w d (w.filter (!ids.contains ·)) (ids.foldl (fun d id => d.unlink id) d) := by
  induction ids generalizing w d with
  | nil =>
    have hall : w.filter (fun id => !([] : List SocketId).contains id) = w := by simp
    rw [hall]
    exact refl w d
  | cons id ids ih =>
    have hnumbered : (d.unlink id).core.Numbered := by
      rw [core_unlink]
      exact hn.map (channel_detachEntry _)
    have hboth : (w.filter (· != id)).filter (!ids.contains ·) =
        w.filter (!(id :: ids).contains ·) := by
      rw [List.filter_filter]
      refine List.filter_congr fun i _ => ?_
      rw [List.contains_cons, Bool.not_or, Bool.and_comm]
      rfl
    exact hboth ▸ (unlink hn id).trans (ih hnumbered)

/-- All flags are lowered. -/
theorem unlinkAll (hn : d.core.Numbered) : Abates w d [] d.unlinkAll := by
  have hchannels : d.unlinkAll.channels = d.channels := by
    have hentries := congrArg Core.entries (core_unlinkAll d)
    change d.unlinkAll.entries = d.entries.map _ at hentries
    rw [Directory.channels, hentries, List.map_map]
    rfl
  refine ⟨List.nil_subset _, hchannels ▸ List.Subset.refl _,
    fun _ hid => absurd hid List.not_mem_nil, fun c hc _ => .inl ?_⟩
  rw [hchannels] at hc
  change (d.markReconnecting false d.channels).isReconnecting c = false
  rw [isReconnecting_markReconnecting false hn (List.Subset.refl _) hc, if_pos hc]

/-- Channels are let go. -/
theorem keepOnly (p : Channel → Bool) : Abates w d w (d.keepOnly p).2 := by
  have hiff : ∀ id c, c ∈ (d.keepOnly p).2.onSocket id ↔ c ∈ d.onSocket id ∧ p c = true := by
    intro id c
    simp only [mem_onSocket, Directory.keepOnly, List.mem_filter]
    constructor
    · rintro ⟨e, ⟨he, hp⟩, hs, rfl⟩
      exact ⟨⟨e, he, hs, rfl⟩, hp⟩
    · rintro ⟨⟨e, he, hs, rfl⟩, hp⟩
      exact ⟨e, ⟨he, hp⟩, hs, rfl⟩
  have hchannels : ∀ c, c ∈ (d.keepOnly p).2.channels → c ∈ d.channels ∧ p c = true := by
    intro c hc
    obtain ⟨e, he, rfl⟩ := List.mem_map.mp hc
    obtain ⟨he, hp⟩ := List.mem_filter.mp he
    exact ⟨List.mem_map_of_mem he, hp⟩
  exact {
    waits := List.Subset.refl _
    channels := fun c hc => (hchannels c hc).1
    stays := fun id _ c hc => ⟨((hiff id c).mp hc).1, rfl⟩
    lowered := fun c hc hnone =>
      .inr ⟨rfl, fun id hid hon => hnone id hid ((hiff id c).mpr ⟨hon, (hchannels c hc).2⟩)⟩ }

end Abates

namespace Signals

/-- Who comes to a socket that waits already has its flag lowered, and nobody raises it. -/
theorem of_gathers (h : Gathers d d') (hd : Honest w d) : Signals w d w d' where
  lowered c hc hnone := by
    by_contra hf
    rw [Bool.not_eq_false, h.flag c] at hf
    rcases h.fresh c hc with hc | hlow
    · obtain ⟨id, hid, hon⟩ := hd c hc hf
      exact hnone id hid (h.keeps c id hon)
    · exact nomatch hf.symm.trans hlow
  comes id hid c hc := by
    rcases h.gains c id hc with hon | hnowhere
    · exact .before hid hon (h.flag c)
    · refine .joined hid (hnowhere id) ?_
      by_contra hf
      rw [Bool.not_eq_false, h.flag c] at hf
      rcases h.fresh c (mem_channels_of_mem_onSocket hc) with hc | hlow
      · obtain ⟨i, -, hon⟩ := hd c hc hf
        exact hnowhere i hon
      · exact nomatch hf.symm.trans hlow

theorem refl (hd : Honest w d) : Signals w d w d :=
  of_gathers (.refl d) hd

theorem of_fails (h : Fails w d w' d') (hn : d.core.Numbered) (hd : Honest w d) :
    Signals w d w' d' where
  lowered c hc hnone := by
    have hc : c ∈ d.channels := by rwa [channels, h.entries] at hc
    have hnone : ∀ id ∈ w', c ∉ d.onSocket id := fun id hid hon =>
      hnone id hid ((mem_onSocket_of_entries h.entries).mpr hon)
    rw [← Bool.not_eq_true, h.flag c hc]
    rintro (hf | ⟨id, hid, -, hon⟩)
    · obtain ⟨id, hid, hon⟩ := hd c hc hf
      exact hnone id (h.waits hid) hon
    · exact hnone id hid hon
  comes id hid c hc := by
    have hon := (mem_onSocket_of_entries h.entries).mp hc
    have hflag := h.flag c (mem_channels_of_mem_onSocket hon)
    by_cases hw : id ∈ w
    · refine .before hw hon (Bool.eq_iff_iff.mpr (hflag.trans (or_iff_left ?_)))
      rintro ⟨i, -, hi, hon'⟩
      exact hi (onSocket_unique hn hon hon' ▸ hw)
    · exact .failed hw hon (hflag.mpr (.inr ⟨id, hid, hw, hon⟩))

/-- Waiting sockets may go after that. -/
theorem abates (h : Signals w d w' d') (h' : Abates w' d' w'' d'') : Signals w d w'' d'' where
  lowered c hc hnone := by
    rcases h'.lowered c hc hnone with hlow | ⟨hf, hnowhere⟩
    · exact hlow
    · rw [hf]
      exact h.lowered c (h'.channels hc) hnowhere
  comes id hid c hc := by
    obtain ⟨hon, hf⟩ := h'.stays id hid c hc
    cases h.comes id (h'.waits hid) c hon with
    | before hw hc hf' => exact .before hw hc (hf.trans hf')
    | failed hw hc hf' => exact .failed hw hc (hf.trans hf')
    | joined hw hc hf' => exact .joined hw hc (hf.trans hf')

theorem of_abates (h : Abates w d w' d') (hd : Honest w d) : Signals w d w' d' :=
  (refl hd).abates h

/-- After an operation, only channels of waiting sockets have their flags raised. -/
theorem honest (h : Signals w d w' d') : Honest w' d' := by
  intro c hc hf
  by_contra hnone
  push Not at hnone
  exact nomatch hf.symm.trans (h.lowered c hc hnone)

end Signals

end Switchboard.Directory
