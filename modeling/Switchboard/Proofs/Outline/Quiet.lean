import Switchboard.Proofs.Outline.Order

/-!
# Quiet moves

Most moves send nothing and queue nothing.  Such a move is *quiet* (`Quiet`): it brings no write to
an outbound socket that has sent something, and a write that waits there goes on waiting there,
unless its channel leaves or the socket is closed.  Every move is a quiet one, a pass before a quiet
one, or the queueing of a write (`quiet_move`).
-/

namespace Switchboard.Outline

open Settings Relation Directory

variable {o o' : Outline} {id : SocketId}

/-- Is the socket there, and an outbound one? -/
def Outgoing (o : Outline) (id : SocketId) : Prop :=
  ∃ n, (id, n) ∈ o.sockets ∧ n.role = .outbound

/-- Was the channel there once, and is no more? -/
def Gone (o : Outline) (c : Channel) : Prop :=
  c.id < o.directory.senders.length ∧ ∀ e ∈ o.entries, e.channel ≠ c

theorem Outgoing.of_grows (hg : Grows o o') (hid : id < o.nextSocket) (h : o'.Outgoing id) :
    o.Outgoing id := by
  obtain ⟨n, hn, hr⟩ := h
  rcases hg.sockets _ hn with hold | hnew
  · exact ⟨n, hold, hr⟩
  · exact absurd hid (Nat.not_lt.mpr hnew)

/-- A channel that has left does not come back. -/
theorem Gone.of_grows (hg : Grows o o') {c : Channel} (h : o.Gone c) : o'.Gone c := by
  refine ⟨Nat.lt_of_lt_of_le h.1 hg.senders, fun e he hc => ?_⟩
  rcases hg.channels e he with ⟨e', he', hc'⟩ | hnew
  · exact h.2 e' he' (hc'.trans hc)
  · rw [hc] at hnew
    exact absurd h.1 (Nat.not_lt.mpr hnew)

theorem Outgoing.lane (h : o.Outgoing id) : o.Lane id := by
  obtain ⟨n, hn, hr⟩ := h
  exact ⟨n, hn, fun hacc => nomatch hr.symm.trans hacc⟩

theorem Outgoing.ne_listener (h : o.Outgoing id) (hs : o.Sound) {l : SocketId}
    (hl : o.listener = some l) : id ≠ l := by
  rintro rfl
  obtain ⟨n, hn, hr⟩ := h
  obtain ⟨n', hn', hr'⟩ := hs.listener id hl
  obtain rfl := hs.nature_eq hn hn'
  exact nomatch hr.symm.trans hr'

/-- A channel is linked to one socket. -/
theorem Links.unique (hs : o.Sound) {c : Channel} {i j : SocketId} (hi : o.Links c i)
    (hj : o.Links c j) : i = j := by
  obtain ⟨e, he, hid, hsocket⟩ := hi
  obtain ⟨e', he', hid', hsocket'⟩ := hj
  obtain rfl := hs.numbered.eq_of_id_eq he he' (hid.trans hid'.symm)
  exact Option.some.inj (hsocket.symm.trans hsocket')

/-- **Nothing is sent and no write comes,** no write comes to an outbound socket that has sent
something, and the writes that wait there stay there, unless their channel leaves or the socket is
closed. -/
structure Quiet (o o' : Outline) : Prop where
  grows : Grows o o'
  sendings : o'.sendings = o.sendings
  writes : o'.outbox.writes ⊆ o.outbox.writes
  comes : ∀ p ∈ o.sendings, o'.Outgoing p.socket → ∀ w ∈ o'.outbox.writes,
    o'.Links w.channel p.socket → o.Links w.channel p.socket
  stays : ∀ p ∈ o.sendings, o'.Outgoing p.socket → ∀ w ∈ o.outbox.writes,
    o.Links w.channel p.socket →
      o'.Gone w.channel ∨ w ∈ o'.outbox.writes ∧ o'.Links w.channel p.socket

/-- Where links and writes stay as they are. -/
theorem Quiet.of_same (hg : Grows o o') (hsent : o'.sendings = o.sendings)
    (hw : o'.outbox.writes = o.outbox.writes) (he : o'.entries = o.entries) : Quiet o o' where
  grows := hg
  sendings := hsent
  writes := hw ▸ List.Subset.refl _
  comes p _ _ w _ hlink := by
    unfold Links at hlink ⊢
    rwa [he] at hlink
  stays p _ _ w hmem hlink := by
    refine .inr ⟨hw ▸ hmem, ?_⟩
    unfold Links at hlink ⊢
    rwa [he]

/-- Where no outbound socket is left. -/
theorem Quiet.of_none (hg : Grows o o') (hsent : o'.sendings = o.sendings)
    (hw : o'.outbox.writes ⊆ o.outbox.writes) (hnone : ∀ i, ¬ o'.Outgoing i) : Quiet o o' where
  grows := hg
  sendings := hsent
  writes := hw
  comes p _ hout := absurd hout (hnone p.socket)
  stays p _ hout := absurd hout (hnone p.socket)

theorem quiet_event (h : Event o o') : Quiet o o' := by
  have hgrows := grows_event h
  cases h with
  | _ => exact .of_same hgrows rfl rfl rfl

/-! ### Operations -/

/-- Who is linked to another socket than the one that is replaced stays so. -/
theorem links_relink_of_ne {old new i : SocketId} (hne : i ≠ old) {c : Channel}
    (h : o.Links c i) : (o.onEntries (·.map (relinkEntry old new))).Links c i := by
  obtain ⟨e, he, hid, hs⟩ := h
  refine ⟨relinkEntry old new e, List.mem_map_of_mem he, ?_, ?_⟩
  · rw [channel_relinkEntry]
    exact hid
  · rw [socket_relinkEntry, hs, if_neg fun heq => hne (Option.some.inj heq)]

theorem quiet_rebind (ho : o.Ordered) (hs : o.Sound) {t : Transport} {next : SocketId}
    (hopen : o.isOpen = true) (hnext : o.nextSocket < next) : Quiet o (o.rebind t next) := by
  obtain ⟨old, hold⟩ := Option.ne_none_iff_exists'.mp (hs.opened hopen)
  have hgrows := Grows.rebind (o := o) t hnext
  rw [rebind_eq hold] at hgrows ⊢
  refine ⟨hgrows, rfl, List.Subset.refl _, fun p hp _ w _ hlink => ?_, fun p hp hout w hw hlink => ?_⟩
  · exact links_of_relink (ho.socket_ne hp) hlink
  · have hout' := Outgoing.of_grows hgrows (ho.sent p hp).1 hout
    exact .inr ⟨hw, links_relink_of_ne (hout'.ne_listener hs hold) hlink⟩

/-- Where a channel comes, which has no socket yet. -/
theorem quiet_enrolled {c : Channel} (hg : Grows o o') (hsent : o'.sendings = o.sendings)
    (hw : o'.outbox = o.outbox) (he : o'.entries = o.entries ++ [{ channel := c }]) :
    Quiet o o' where
  grows := hg
  sendings := hsent
  writes := hw ▸ List.Subset.refl _
  comes p _ _ w _ hlink := by
    unfold Links at hlink
    rw [he] at hlink
    exact links_of_mem_append hlink
  stays p _ _ w hw' hlink := by
    obtain ⟨e, he', hlink⟩ := hlink
    exact .inr ⟨hw ▸ hw', e, he ▸ List.mem_append_left _ he', hlink⟩

/-- Where a channel and its siblings are linked, and nothing is sent. -/
theorem quiet_linked (hset : o.Settled) (ho : o.Ordered) (hs : o.Sound) {c : Channel}
    {i : SocketId} {sharing : Sharing} (hc : { channel := c } ∈ o.entries)
    (hg : Grows o o') (hsent : o'.sendings = o.sendings) (hw : o'.outbox = o.outbox)
    (he : o'.entries = o.entries.map (linkEntry c i sharing o.listener)) : Quiet o o' where
  grows := hg
  sendings := hsent
  writes := hw ▸ List.Subset.refl _
  comes p hp hout w hw' hlink := by
    rw [hw] at hw'
    have hlane := (hout.of_grows hg (ho.sent p hp).1).lane
    exact links_of_map_linkEntry hs.numbered hc he (hset p hp hlane w hw') hlink
  stays p _ _ w hw' hlink :=
    .inr ⟨hw ▸ hw', links_map_linkEntry hs.numbered hc he hlink⟩

theorem quiet_substitute (ho : o.Ordered) {old : SocketId} {n : Nature} {next : SocketId}
    (hgrows : Grows o (o.substitute old n next)) : Quiet o (o.substitute old n next) where
  grows := hgrows
  sendings := rfl
  writes := List.Subset.refl _
  comes p hp _ w _ hlink := links_of_relink (ho.socket_ne hp) hlink
  stays p hp hout w hw hlink := by
    have hne : p.socket ≠ old := by
      obtain ⟨n', hn', -⟩ := hout
      rcases (mem_sockets_add next).mp hn' with hn' | hnew
      · exact (mem_sockets_erase.mp hn').2
      · exact absurd (congrArg Prod.fst hnew) (ho.socket_ne hp)
    exact .inr ⟨hw, links_relink_of_ne hne hlink⟩

/-- A write stays, with its link, if its channel does. -/
theorem quiet_retain (ho : o.Ordered) (hs : o.Sound) (p : Channel → Bool) :
    Quiet o (o.retain p) where
  grows := .retain p o
  sendings := rfl
  writes := List.filter_subset_self _
  comes q _ _ w _ hlink := by
    obtain ⟨e, he, hlink⟩ := hlink
    exact ⟨e, (List.mem_filter.mp he).1, hlink⟩
  stays q _ _ w hw hlink := by
    obtain ⟨e, he, hid, hsocket⟩ := hlink
    obtain ⟨e', he', hc⟩ := ho.owned w hw
    obtain rfl := hs.numbered.eq_of_id_eq he he' (hid.trans (congrArg Channel.id hc).symm)
    cases hp : p e.channel with
    | true =>
      -- Its channel is the only one with its number, so the write is none of those that leave.
      refine .inr ⟨List.mem_filter.mpr ⟨hw, ?_⟩, e, List.mem_filter.mpr ⟨he, hp⟩, hid, hsocket⟩
      rw [Bool.not_eq_true', List.any_eq_false]
      intro e' he' htest
      rw [Bool.and_eq_true, Bool.not_eq_true', beq_iff_eq] at htest
      obtain rfl := hs.numbered.eq_of_id_eq he he' (hid.trans htest.2.symm)
      exact nomatch hp.symm.trans htest.1
    | false =>
      refine .inl ⟨hc ▸ hs.numbered.below e he, fun e' he' hc' => ?_⟩
      obtain ⟨-, hp'⟩ := List.mem_filter.mp he'
      rw [hc', ← hc, hp] at hp'
      exact nomatch hp'

theorem not_outgoing_closeOutbound (h : o.Rebound) (i : SocketId) : ¬ o.closeOutbound.Outgoing i := by
  rintro ⟨n, hn, hr⟩
  obtain ⟨-, hr'⟩ := h.mem_closeOutbound.mp hn
  exact nomatch hr.symm.trans hr'

/-- **A move that is no pass and queues nothing is quiet.** -/
theorem quiet_move (hset : o.Settled) (ho : o.Ordered) (hs : o.Sound) (hm : Move o o') :
    Quiet o o' ∨ (∃ o₁ p, PassMoves o o₁ ∧ o' = { o₁ with outbox := o₁.outbox.keep p } ∧
        Quiet o₁ { o₁ with outbox := o₁.outbox.keep p }) ∨
      ∃ c data call, o' = { o with outbox := o.outbox.push c data call } := by
  have hgrows := grows_move hm
  cases hm with
  | event he => exact .inl (quiet_event he)
  | @passed o₁ p hpass hp hstay =>
    refine .inr (.inl ⟨o₁, p, hpass, rfl, { Grows.refl o₁ with }, rfl, List.filter_subset_self _,
      fun _ _ _ _ _ => id, fun q _ hout w hw hlink => ?_⟩)
    obtain ⟨n, hn, hr⟩ := hout
    exact .inr ⟨List.mem_filter.mpr ⟨hw, hstay w hw q.socket n hlink hn hr⟩, hlink⟩
  | opened next hopen hnext => exact .inl (.of_same hgrows rfl rfl rfl)
  | closed hopen =>
    refine .inl (.of_none hgrows rfl (List.nil_subset _) ?_)
    rintro i ⟨n, hn, -⟩
    exact nomatch hn
  | cleared hopen =>
    refine .inl (.of_none hgrows rfl (List.nil_subset _) ?_)
    rintro i ⟨n, hn, -⟩
    have hnone : o.sockets = [] := (hs.closed hopen).1
    change (i, n) ∈ o.sockets at hn
    rw [hnone] at hn
    exact nomatch hn
  | adopted t ht => exact .inl (.of_same hgrows rfl rfl rfl)
  | moved t next hopen hnext =>
    refine .inl ?_
    split_ifs with hne
    · -- With another transport, the listener alone is left.
      rw [if_pos hne] at hgrows
      have hrebound := hs.rebind t hopen hnext
      obtain ⟨old, hold⟩ := Option.ne_none_iff_exists'.mp (hs.opened hopen)
      rw [rebind_eq hold] at hgrows hrebound ⊢
      exact .of_none hgrows rfl (List.Subset.refl _) (not_outgoing_closeOutbound hrebound)
    · exact quiet_rebind ho hs hopen hnext
  | enrolled hh hid hd => exact .inl (quiet_enrolled hgrows rfl rfl rfl)
  | joined sharing hopen hc hid => exact .inl (quiet_linked hset ho hs hc hgrows rfl rfl rfl)
  | connected next sharing hopen hc hr hnext =>
    exact .inl (quiet_linked hset ho hs hc hgrows rfl rfl rfl)
  | substituted next hopen hs' hr hf hnext => exact .inl (quiet_substitute ho hgrows)
  | retained p => exact .inl (quiet_retain ho hs p)
  | queued data call hopen he hid hl => exact .inr (.inr ⟨_, data, call, rfl⟩)
  | told => exact .inl (.of_same hgrows rfl rfl rfl)

end Switchboard.Outline
