import Switchboard.Directory
import Mathlib.Data.List.Nodup

/-!
# The directory of channels

The *core* of a directory is what decides where data goes: its channels with their links, and the
last sender of every channel ever made.  Calls and flags are no part of it, so whatever changes only
those leaves the core alone (`core_modifyCall`, `core_markReconnecting`, `core_cancelCalls`).

Beside that, this file says what linking and moving do to the entries (`mem_link`, `mem_relink`,
`mem_unlink`), and what a look-up finds where every channel has a number of its own (`Numbered`).
-/

namespace Switchboard

open Net

/-- What decides where data goes: the channels with their links, and the last senders. -/
structure Directory.Core where
  home : Nat
  entries : List Entry
  senders : List (Option Endpoint)

namespace Directory

/-- The core of a directory. -/
def core (d : Directory) : Core :=
  ⟨d.home, d.entries, d.statuses.map (·.lastSender)⟩

/-! ### Calls and flags -/

theorem core_modifyStatus (c : Channel) (f : Status → Status)
    (hf : ∀ s, (f s).lastSender = s.lastSender) (d : Directory) :
    (d.modifyStatus c f).core = d.core := by
  unfold modifyStatus
  split_ifs
  · simp only [core, Core.mk.injEq, true_and]
    refine List.ext_getElem (by simp) fun i h _ => ?_
    simp only [List.getElem_map, List.getElem_modify]
    split_ifs
    · exact hf _
    · rfl
  · rfl

@[simp] theorem core_modifyCall (c : Channel) (f : CallBox → CallBox) (d : Directory) :
    (d.modifyCall c f).core = d.core :=
  core_modifyStatus c (fun s => { s with call := f s.call }) (fun _ => rfl) d

@[simp] theorem core_markReconnecting (value : Bool) (cs : List Channel) (d : Directory) :
    (d.markReconnecting value cs).core = d.core := by
  unfold markReconnecting
  induction cs generalizing d with
  | nil => rfl
  | cons c cs ih =>
    rw [List.foldl_cons, ih]
    exact core_modifyStatus c (fun s => { s with reconnecting := value }) (fun _ => rfl) d

@[simp] theorem core_setReconnecting (socket : SocketId) (value : Bool) (d : Directory) :
    (d.setReconnecting socket value).core = d.core :=
  core_markReconnecting value _ d

@[simp] theorem core_cancelCalls (cs : List Channel) (d : Directory) :
    (d.cancelCalls cs).core = d.core := by
  unfold cancelCalls
  induction cs generalizing d with
  | nil => rfl
  | cons c cs ih => rw [List.foldl_cons, ih, core_modifyCall]

/-- The last sender of a channel is written in the core. -/
theorem lastSender_status (d : Directory) (c : Channel) :
    (d.status c).lastSender =
      if c.home = d.core.home then (d.core.senders[c.id]?).join else none := by
  unfold status
  by_cases h : c.home = d.home
  · rw [if_pos h, if_pos (show c.home = d.core.home from h)]
    cases hs : d.statuses[c.id]? with
    | none => simp [core, hs]
    | some s => simp [core, hs]
  · rw [if_neg h, if_neg (show ¬ c.home = d.core.home from h)]

/-! ### Numbers -/

/-- Every channel is of this directory, and its number is below the number of the next one and
above those of the channels before it. -/
structure Core.Numbered (d : Core) : Prop where
  home : ∀ e ∈ d.entries, e.channel.home = d.home
  below : ∀ e ∈ d.entries, e.channel.id < d.senders.length
  ascending : (d.entries.map (·.channel.id)).Pairwise (· < ·)

/-- Two entries of one channel number are the same. -/
theorem Core.Numbered.eq_of_id_eq {d : Core} (h : d.Numbered) {e e' : Entry} (he : e ∈ d.entries)
    (he' : e' ∈ d.entries) (hid : e.channel.id = e'.channel.id) : e = e' :=
  List.inj_on_of_nodup_map (h.ascending.imp fun hlt => Nat.ne_of_lt hlt) he he' hid

/-- So are two channels of one number. -/
theorem Core.Numbered.channel_eq {d : Directory} (h : d.core.Numbered) {c c' : Channel}
    (hc : c ∈ d.channels) (hc' : c' ∈ d.channels) (hid : c.id = c'.id) : c = c' := by
  obtain ⟨e, he, rfl⟩ := List.mem_map.mp hc
  obtain ⟨e', he', rfl⟩ := List.mem_map.mp hc'
  exact congrArg Entry.channel (h.eq_of_id_eq he he' hid)

variable {d : Directory}

theorem entry?_of_mem (h : d.core.Numbered) {e : Entry} (he : e ∈ d.entries) :
    d.entry? e.channel.id = some e := by
  unfold entry?
  cases hf : d.entries.find? (·.channel.id == e.channel.id) with
  | none =>
    have := List.find?_eq_none.mp hf e he
    simp at this
  | some e' =>
    have hid : e'.channel.id = e.channel.id := by simpa using List.find?_some hf
    rw [h.eq_of_id_eq (List.mem_of_find?_eq_some hf) he hid]

theorem socketOf_of_mem (h : d.core.Numbered) {e : Entry} (he : e ∈ d.entries) :
    d.socketOf e.channel.id = e.socket := by
  rw [socketOf, entry?_of_mem h he, Option.bind_some]

/-- A socket is the link of some entry of its channel number. -/
theorem exists_of_socketOf {id : ChannelId} {socket : SocketId} (h : d.socketOf id = some socket) :
    ∃ e ∈ d.entries, e.channel.id = id ∧ e.socket = some socket := by
  unfold socketOf entry? at h
  obtain ⟨e, he, hs⟩ := Option.bind_eq_some_iff.mp h
  exact ⟨e, List.mem_of_find?_eq_some he, by simpa using List.find?_some he, hs⟩

/-- A channel that is known is the one that its number finds. -/
theorem channel?_of_knows {c : Channel} (h : d.knows c = true) : d.channel? c.id = some c := by
  simpa [knows] using h

theorem mem_of_knows {c : Channel} (h : d.knows c = true) : ∃ e ∈ d.entries, e.channel = c := by
  have hc := channel?_of_knows h
  unfold channel? entry? at hc
  obtain ⟨e, he, rfl⟩ := Option.map_eq_some_iff.mp hc
  exact ⟨e, List.mem_of_find?_eq_some he, rfl⟩

theorem knows_of_mem (h : d.core.Numbered) {e : Entry} (he : e ∈ d.entries) :
    d.knows e.channel = true := by
  simp [knows, channel?, entry?_of_mem h he]

theorem mem_onSocket {socket : SocketId} {c : Channel} :
    c ∈ d.onSocket socket ↔ ∃ e ∈ d.entries, e.socket = some socket ∧ e.channel = c := by
  simp only [onSocket, select, List.mem_map, List.mem_filter, beq_iff_eq]
  constructor
  · rintro ⟨e, ⟨he, hs⟩, hc⟩
    exact ⟨e, he, hs, hc⟩
  · rintro ⟨e, he, hs, hc⟩
    exact ⟨e, ⟨he, hs⟩, hc⟩

theorem mem_linkedSockets {socket : SocketId} :
    socket ∈ d.linkedSockets ↔ ∃ e ∈ d.entries, e.socket = some socket := by
  simp [linkedSockets]

/-! ### Waiting for a socket -/

/-- The channel of a number has no socket. -/
def Waits (d : Directory) (id : ChannelId) : Prop :=
  ∃ e ∈ d.entries, e.channel.id = id ∧ e.socket = none

theorem waits_of_mem {c : Channel} (hc : c ∈ d.channels) (hs : d.socketOf c.id = none) :
    d.Waits c.id := by
  obtain ⟨e, he, rfl⟩ := List.mem_map.mp hc
  cases hf : d.entry? e.channel.id with
  | none =>
    have := List.find?_eq_none.mp hf e he
    simp at this
  | some e' =>
    rw [socketOf, hf, Option.bind_some] at hs
    exact ⟨e', List.mem_of_find?_eq_some hf, by simpa using List.find?_some hf, hs⟩

theorem Waits.socket_eq_none {id : ChannelId} (hw : d.Waits id) (h : d.core.Numbered) {e : Entry}
    (he : e ∈ d.entries) (hid : e.channel.id = id) : e.socket = none := by
  obtain ⟨e', he', hid', hs⟩ := hw
  rwa [h.eq_of_id_eq he he' (hid.trans hid'.symm)]

/-! ### Making channels -/

theorem core_append (d : Directory) (s : Subject) (r : Remote) :
    (d.append s r).2.core =
      ⟨d.core.home, d.core.entries ++ [{ channel := (d.append s r).1 }], d.core.senders ++ [none]⟩ := by
  simp [append, core]

/-- A channel with the next number comes after all others. -/
theorem Core.Numbered.append {d : Core} (h : d.Numbered) {c : Channel} (hh : c.home = d.home)
    (hid : c.id = d.senders.length) :
    Core.Numbered ⟨d.home, d.entries ++ [{ channel := c }], d.senders ++ [none]⟩ where
  home e he := by
    rcases List.mem_append.mp he with he | he
    · exact h.home e he
    · rw [List.mem_singleton.mp he]
      exact hh
  below e he := by
    rw [List.length_append]
    rcases List.mem_append.mp he with he | he
    · exact Nat.lt_succ_of_lt (h.below e he)
    · rw [List.mem_singleton.mp he, hid]
      exact Nat.lt_succ_self _
  ascending := by
    rw [List.map_append, List.pairwise_append]
    refine ⟨h.ascending, List.pairwise_singleton _ _, fun i hi j hj => ?_⟩
    obtain ⟨e, he, rfl⟩ := List.mem_map.mp hi
    rw [List.map_singleton, List.mem_singleton] at hj
    rw [hj, hid]
    exact h.below e he

/-! ### Linking and moving -/

/-- Changing nothing but links leaves the numbers alone. -/
theorem Core.Numbered.map {d : Core} (h : d.Numbered) {f : Entry → Entry}
    (hf : ∀ e, (f e).channel = e.channel) :
    Core.Numbered { d with entries := d.entries.map f } where
  home e he := by
    obtain ⟨e', he', rfl⟩ := List.mem_map.mp he
    rw [hf]
    exact h.home e' he'
  below e he := by
    obtain ⟨e', he', rfl⟩ := List.mem_map.mp he
    rw [hf]
    exact h.below e' he'
  ascending := by
    rw [List.map_map, show (fun e : Entry => e.channel.id) ∘ f = fun e => e.channel.id from
      funext fun e => congrArg Channel.id (hf e)]
    exact h.ascending

/-- Letting channels go leaves the numbers of the others alone. -/
theorem Core.Numbered.filter {d : Core} (h : d.Numbered) (p : Entry → Bool) :
    Core.Numbered { d with entries := d.entries.filter p } where
  home e he := h.home e (List.mem_filter.mp he).1
  below e he := h.below e (List.mem_filter.mp he).1
  ascending := h.ascending.sublist (List.filter_sublist.map _)

/-- The entry after its channel or a sibling got a socket. -/
def linkEntry (c : Channel) (socket : SocketId) (sharing : Sharing) (listener : Option SocketId)
    (e : Entry) : Entry :=
  if e.channel.id = c.id || joins sharing (listener == some socket) c e then
    { e with socket := some socket }
  else e

theorem core_link {c : Channel} (h : d.knows c = true) (socket : SocketId) (sharing : Sharing)
    (listener : Option SocketId) :
    (d.link c.id socket sharing listener).core =
      { d.core with entries := d.core.entries.map (linkEntry c socket sharing listener) } := by
  unfold link
  rw [channel?_of_knows h]
  rfl

theorem channel_linkEntry (c : Channel) (socket : SocketId) (sharing : Sharing)
    (listener : Option SocketId) (e : Entry) :
    (linkEntry c socket sharing listener e).channel = e.channel := by
  unfold linkEntry
  split_ifs <;> rfl

/-- An entry keeps its link, or it is the channel's own, or it had none and is a sibling's. -/
theorem socket_linkEntry (c : Channel) (socket : SocketId) (sharing : Sharing)
    (listener : Option SocketId) (e : Entry) :
    (linkEntry c socket sharing listener e).socket = e.socket ∨
      (linkEntry c socket sharing listener e).socket = some socket ∧
        (e.channel.id = c.id ∨ e.socket = none ∧ e.channel.remote = c.remote ∧
          (listener = some socket → e.channel.direction ≠ .outbound)) := by
  unfold linkEntry
  split_ifs with h
  · refine .inr ⟨rfl, ?_⟩
    rw [Bool.or_eq_true, decide_eq_true_eq] at h
    refine h.imp_right fun hj => ?_
    simp only [joins, Bool.and_eq_true, Option.isNone_iff_eq_none, Bool.not_eq_true',
      Bool.and_eq_false_iff, beq_eq_false_iff_ne, beq_iff_eq] at hj
    exact ⟨hj.1.1.1, hj.1.2, fun hl => hj.1.1.2.resolve_left fun hne => hne hl⟩
  · exact .inl rfl

/-- The entry after an old socket gave way to a new one. -/
def relinkEntry (old new : SocketId) (e : Entry) : Entry :=
  if e.socket = some old then { e with socket := some new } else e

theorem core_relink (old new : SocketId) (d : Directory) :
    (d.relink old new).core = { d.core with entries := d.core.entries.map (relinkEntry old new) } :=
  rfl

theorem channel_relinkEntry (old new : SocketId) (e : Entry) :
    (relinkEntry old new e).channel = e.channel := by
  unfold relinkEntry
  split_ifs <;> rfl

theorem socket_relinkEntry (old new : SocketId) (e : Entry) :
    (relinkEntry old new e).socket = if e.socket = some old then some new else e.socket := by
  unfold relinkEntry
  split_ifs <;> rfl

/-- The entry after some sockets were taken away. -/
def detachEntry (gone : SocketId → Bool) (e : Entry) : Entry :=
  if e.socket.any gone = true then { e with socket := none } else e

theorem channel_detachEntry (gone : SocketId → Bool) (e : Entry) :
    (detachEntry gone e).channel = e.channel := by
  unfold detachEntry
  split_ifs <;> rfl

theorem socket_detachEntry (gone : SocketId → Bool) (e : Entry) :
    (detachEntry gone e).socket = if e.socket.any gone = true then none else e.socket := by
  unfold detachEntry
  split_ifs <;> rfl

/-- Taking sockets away one after the other is taking them away at once. -/
theorem detachEntry_detachEntry (gone gone' : SocketId → Bool) (e : Entry) :
    detachEntry gone' (detachEntry gone e) = detachEntry (fun id => gone id || gone' id) e := by
  obtain ⟨channel, socket⟩ := e
  cases socket with
  | none => rfl
  | some id =>
    unfold detachEntry
    cases h : gone id <;> cases h' : gone' id <;> simp [h, h']

theorem core_unlink (socket : SocketId) (d : Directory) : (d.unlink socket).core =
    { d.core with entries := d.core.entries.map (detachEntry (· == socket)) } := by
  have h := core_setReconnecting socket false d
  rw [core, core, Core.mk.injEq] at h
  have hentry : (fun e : Entry => if e.socket = some socket then { e with socket := none } else e) =
      detachEntry (· == socket) := by
    funext e
    unfold detachEntry
    cases hs : e.socket <;> simp
  unfold unlink
  simp only [core]
  rw [h.1, h.2.1, h.2.2, hentry]

theorem core_unlinkAll (d : Directory) :
    d.unlinkAll.core =
      { d.core with entries := d.core.entries.map fun e => { e with socket := none } } := by
  have h := core_markReconnecting false d.channels d
  rw [core, core, Core.mk.injEq] at h
  unfold unlinkAll
  simp only [core]
  rw [h.1, h.2.1, h.2.2]

/-! ### Sharing -/

/-- A shared socket is the link of a channel with the same remote, and an outbound channel never
shares the listener. -/
theorem exists_of_sharedSocket? {c : Channel} {sharing : Sharing} {listener : Option SocketId}
    {socket : SocketId} (h : d.sharedSocket? c sharing listener = some socket) :
    ∃ e ∈ d.entries, e.socket = some socket ∧ e.channel.remote = c.remote ∧
      (c.direction = .outbound → listener ≠ some socket) := by
  unfold sharedSocket? at h
  obtain ⟨scope, -, hs⟩ := List.exists_of_findSome?_eq_some h
  unfold served? at hs
  obtain ⟨e, he, hsocket⟩ := Option.bind_eq_some_iff.mp hs
  have htest := List.find?_some he
  simp only [Bool.and_eq_true, bne_iff_ne, beq_iff_eq] at htest
  refine ⟨e, List.mem_of_find?_eq_some he, hsocket, htest.1.2, fun hd => ?_⟩
  have hex := htest.1.1.2
  rw [show c.subject.direction = .outbound from hd] at hex
  rw [← hsocket]
  exact hex.symm

/-! ### Recipients -/

/-- Whom one more entry adds is its own channel: inbound on the listener, and a match of the
sender. -/
theorem mem_consider {listener : SocketId} {sender : Endpoint} {best : Option Tier × List Channel}
    {e : Entry} {c : Channel} (hc : c ∈ (consider listener sender best e).2) :
    c ∈ best.2 ∨ e.socket = some listener ∧ e.channel = c ∧ c.direction = .inbound ∧
      c.remote.tier? sender ≠ none := by
  unfold consider at hc
  split at hc
  · rename_i hin
    obtain ⟨closest, cs⟩ := best
    rcases ht : e.channel.remote.tier? sender with _ | t
    · rw [ht] at hc
      exact .inl hc
    · have hown : c = e.channel → e.socket = some listener ∧ e.channel = c ∧
          c.direction = .inbound ∧ c.remote.tier? sender ≠ none := by
        rintro rfl
        exact ⟨hin.2, rfl, hin.1, by simp [ht]⟩
      rw [ht] at hc
      cases closest with
      | none => exact .inr (hown (List.mem_singleton.mp hc))
      | some closest =>
        dsimp only at hc
        split_ifs at hc
        · exact .inr (hown (List.mem_singleton.mp hc))
        · exact (List.mem_append.mp hc).imp_right fun hc => hown (List.mem_singleton.mp hc)
        · exact .inl hc
  · exact .inl hc

/-- Who gets what a sender sent is an inbound channel on the listener that matches the sender. -/
theorem exists_of_mem_recipients {listener : SocketId} {sender : Endpoint} {c : Channel}
    (h : c ∈ d.recipients listener sender) :
    ∃ e ∈ d.entries, e.socket = some listener ∧ e.channel = c ∧ c.direction = .inbound ∧
      c.remote.tier? sender ≠ none := by
  -- What the fold has gathered comes from the entries that it has passed.
  have hfold : ∀ (entries : List Entry) (best : Option Tier × List Channel),
      c ∈ (entries.foldl (consider listener sender) best).2 → c ∈ best.2 ∨
        ∃ e ∈ entries, e.socket = some listener ∧ e.channel = c ∧ c.direction = .inbound ∧
          c.remote.tier? sender ≠ none := by
    intro entries
    induction entries with
    | nil => exact fun best hc => .inl hc
    | cons e entries ih =>
      intro best hc
      rcases ih _ hc with hc | ⟨e', he', hfound⟩
      · exact (mem_consider hc).imp_right fun hfound => ⟨e, List.mem_cons_self, hfound⟩
      · exact .inr ⟨e', List.mem_cons_of_mem _ he', hfound⟩
  exact (hfold d.entries (none, []) h).resolve_left (by simp)

/-- The core after a channel heard from a sender. -/
theorem core_setLastSender {c : Channel} (hh : c.home = d.home) (sender : Endpoint) :
    (d.modifyStatus c fun s => { s with lastSender := some sender }).core =
      { d.core with senders := d.core.senders.set c.id (some sender) } := by
  unfold modifyStatus
  rw [if_pos hh]
  simp only [core, Core.mk.injEq, true_and]
  refine List.ext_getElem (by simp) fun i hi _ => ?_
  simp only [List.getElem_map, List.getElem_modify, List.getElem_set]
  split_ifs <;> rfl

end Directory

end Switchboard
