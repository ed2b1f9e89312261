import Switchboard.Proofs.Outline.Order

/-!
# What becomes of links

A channel that stays keeps its link as long as the socket is there, and a channel on the listener
stays on the listener.  Links never come together: of two channels that were linked and lead to one
socket now, both were linked to one socket before.  And a link is cut only when the exchange closes,
or when its transport changes and the socket is not the listener (`linksKept_move`).

A channel *holds* (`Holds`) if it stays, and so does its link where the transport stays.  Whoever
does not hold was let go, or is on a socket that took the place of its own.

None of this is said of a channel that had no socket, which may join any that fits.
-/

namespace Switchboard.Outline

open Net Settings Relation Directory

/-- **What becomes of the links of the channels that stay.** -/
structure LinksKept (o o' : Outline) : Prop where
  /-- A link to a socket that stays stays. -/
  kept : ∀ e ∈ o.entries, ∀ e' ∈ o'.entries, e'.channel = e.channel → ∀ i n, e.socket = some i →
    (i, n) ∈ o'.sockets → e'.socket = some i
  /-- Who was on the listener is on the listener. -/
  home : ∀ e ∈ o.entries, ∀ e' ∈ o'.entries, e'.channel = e.channel → ∀ l, o.listener = some l →
    e.socket = some l → e'.socket = o'.listener
  /-- Links that lead to one socket did so before, if they led anywhere. -/
  apart : ∀ e₁ ∈ o.entries, ∀ e₁' ∈ o'.entries, e₁'.channel = e₁.channel →
    ∀ e₂ ∈ o.entries, ∀ e₂' ∈ o'.entries, e₂'.channel = e₂.channel → ∀ i₁ i₂ j,
      e₁.socket = some i₁ → e₂.socket = some i₂ → e₁'.socket = some j → e₂'.socket = some j → i₁ = i₂
  /-- A link is cut when the exchange closes or its transport changes. -/
  anchored : ∀ e ∈ o.entries, ∀ e' ∈ o'.entries, e'.channel = e.channel → ∀ i, e.socket = some i →
    e'.socket = none → o'.isOpen = false ∨ o'.transport ≠ o.transport ∧ o.listener ≠ some i

variable {o o' : Outline}

/-- Where every link is held. -/
theorem LinksKept.of_held (hl : ∀ l, o.listener = some l → o'.listener = some l)
    (hheld : ∀ e ∈ o.entries, ∀ e' ∈ o'.entries, e'.channel = e.channel → ∀ i, e.socket = some i →
      e'.socket = some i) : LinksKept o o' where
  kept e he e' he' hc i _ hi _ := hheld e he e' he' hc i hi
  home e he e' he' hc l hl' hs := (hheld e he e' he' hc l hs).trans (hl l hl').symm
  apart e₁ he₁ e₁' he₁' hc₁ e₂ he₂ e₂' he₂' hc₂ i₁ i₂ j hi₁ hi₂ hj₁ hj₂ := by
    have h₁ := hheld e₁ he₁ e₁' he₁' hc₁ i₁ hi₁
    have h₂ := hheld e₂ he₂ e₂' he₂' hc₂ i₂ hi₂
    exact Option.some.inj ((h₁.symm.trans hj₁).trans (hj₂.symm.trans h₂))
  anchored e he e' he' hc i hi hnone := nomatch (hheld e he e' he' hc i hi).symm.trans hnone

/-- Where entries are only taken out, or new channels come. -/
theorem LinksKept.of_subset (hn : o.directory.Numbered)
    (hl : ∀ l, o.listener = some l → o'.listener = some l)
    (hsub : ∀ e' ∈ o'.entries, e' ∈ o.entries ∨ o.directory.senders.length ≤ e'.channel.id) :
    LinksKept o o' := by
  refine .of_held hl fun e he e' he' hc i hi => ?_
  rcases hsub e' he' with hold | hnew
  · rwa [hn.eq_of_id_eq hold he (congrArg Channel.id hc)]
  · rw [hc] at hnew
    exact absurd (hn.below e he) (Nat.not_lt.mpr hnew)

/-- Where a channel without a socket and its siblings are linked. -/
theorem LinksKept.linked (hn : o.directory.Numbered) {c : Channel} {id : SocketId} {sharing : Sharing}
    (hc : { channel := c } ∈ o.entries) (hl : o'.listener = o.listener)
    (he : o'.entries = o.entries.map (linkEntry c id sharing o.listener)) : LinksKept o o' := by
  refine .of_held (fun l hl' => hl.trans hl') fun e he₀ e' he' hch i hi => ?_
  rw [he] at he'
  obtain ⟨e₁, he₁, rfl⟩ := List.mem_map.mp he'
  rw [channel_linkEntry] at hch
  obtain rfl := hn.eq_of_id_eq he₁ he₀ (congrArg Channel.id hch)
  rw [linkEntry_eq_self hn id sharing hc he₀ hi]
  exact hi

/-- Where a new socket takes the place of an old one that goes. -/
theorem LinksKept.relinked (hs : o.Sound) {old : SocketId} (hgone : ∀ n, (old, n) ∉ o'.sockets)
    (he : o'.entries = o.entries.map (relinkEntry old o.nextSocket))
    (hl : ∀ l, o.listener = some l → o'.listener = some (if l = old then o.nextSocket else l)) :
    LinksKept o o' := by
  have hbecome : ∀ e ∈ o.entries, ∀ e' ∈ o'.entries, e'.channel = e.channel →
      e'.socket = if e.socket = some old then some o.nextSocket else e.socket := by
    intro e he₀ e' he' hch
    rw [he] at he'
    obtain ⟨e₁, he₁, rfl⟩ := List.mem_map.mp he'
    rw [channel_relinkEntry] at hch
    obtain rfl := hs.numbered.eq_of_id_eq he₁ he₀ (congrArg Channel.id hch)
    exact socket_relinkEntry old o.nextSocket e₁
  -- Nobody was linked to the new socket before.
  have hfresh : ∀ e ∈ o.entries, e.socket ≠ some o.nextSocket := by
    intro e he₀ hlink
    obtain ⟨n, hn, -⟩ := hs.linked e he₀ _ hlink
    exact hs.fresh hn
  constructor
  · intro e he₀ e' he' hch i n hi hn
    have hne : i ≠ old := by
      rintro rfl
      exact hgone n hn
    rw [hbecome e he₀ e' he' hch, hi, if_neg fun heq => hne (Option.some.inj heq)]
  · intro e he₀ e' he' hch l hl' hlink
    rw [hbecome e he₀ e' he' hch, hlink, hl l hl']
    by_cases h : l = old
    · rw [h, if_pos rfl, if_pos rfl]
    · rw [if_neg h, if_neg fun heq => h (Option.some.inj heq)]
  · intro e₁ he₁ e₁' he₁' hc₁ e₂ he₂ e₂' he₂' hc₂ i₁ i₂ j hi₁ hi₂ hj₁ hj₂
    rw [hbecome e₁ he₁ e₁' he₁' hc₁] at hj₁
    rw [hbecome e₂ he₂ e₂' he₂' hc₂] at hj₂
    -- Both went over to the new socket, or both stayed.
    split_ifs at hj₁ hj₂ with h₁ h₂ h₂
    · exact Option.some.inj (hi₁.symm.trans (h₁.trans (h₂.symm.trans hi₂)))
    · rw [← hj₁] at hj₂
      exact absurd hj₂ (hfresh e₂ he₂)
    · rw [← hj₂] at hj₁
      exact absurd hj₁ (hfresh e₁ he₁)
    · exact Option.some.inj (hi₁.symm.trans (hj₁.trans (hj₂.symm.trans hi₂)))
  · intro e he₀ e' he' hch i hi hnone
    rw [hbecome e he₀ e' he' hch, hi] at hnone
    split_ifs at hnone

/-- Where then the links to the other sockets are cut, and those are closed. -/
theorem LinksKept.cut {o₁ : Outline} (h : LinksKept o o₁) (hr : o₁.Rebound)
    (ht : o₁.transport ≠ o.transport) : LinksKept o o₁.closeOutbound := by
  have hbefore : ∀ e ∈ o.entries, ∀ e' ∈ o₁.closeOutbound.entries, e'.channel = e.channel →
      ∃ e₁ ∈ o₁.entries, e₁.channel = e.channel ∧
        e'.socket = if e₁.socket.any o₁.isOther = true then none else e₁.socket := by
    intro e he e' he' hch
    obtain ⟨e₁, he₁, rfl⟩ := List.mem_map.mp he'
    rw [channel_detachEntry] at hch
    exact ⟨e₁, he₁, hch, socket_detachEntry _ _⟩
  have hstays : ∀ l, o₁.listener = some l → o₁.isOther l = false := by
    intro l hl
    obtain ⟨n, hn', hrole⟩ := hr.listener l hl
    have hmem := (List.mem_filter.mp (hr.mem_closeOutbound.mpr ⟨hn', hrole⟩)).2
    simpa using hmem
  have hhome : ∀ e ∈ o.entries, ∀ e' ∈ o₁.closeOutbound.entries, e'.channel = e.channel →
      ∀ l, o.listener = some l → e.socket = some l → e'.socket = o₁.listener := by
    intro e he e' he' hch l hl hlink
    obtain ⟨e₁, he₁, hc₁, hs₁⟩ := hbefore e he e' he' hch
    have hs := h.home e he e₁ he₁ hc₁ l hl hlink
    obtain ⟨l', hl'⟩ := Option.ne_none_iff_exists'.mp hr.raised
    rw [hs₁, hs, hl', if_neg]
    simpa using hstays l' hl'
  constructor
  · intro e he e' he' hch i n hi hmem
    obtain ⟨e₁, he₁, hc₁, hs₁⟩ := hbefore e he e' he' hch
    obtain ⟨hmem, hrole⟩ := hr.mem_closeOutbound.mp hmem
    have hlink := h.kept e he e₁ he₁ hc₁ i n hi hmem
    have hother := hstays i (hr.only _ hmem hrole)
    rw [hs₁, hlink, if_neg]
    simpa using hother
  · exact hhome
  · intro e₁ he₁ e₁' he₁' hc₁ e₂ he₂ e₂' he₂' hc₂ i₁ i₂ j hi₁ hi₂ hj₁ hj₂
    obtain ⟨f₁, hf₁, hd₁, hs₁⟩ := hbefore e₁ he₁ e₁' he₁' hc₁
    obtain ⟨f₂, hf₂, hd₂, hs₂⟩ := hbefore e₂ he₂ e₂' he₂' hc₂
    rw [hs₁] at hj₁
    rw [hs₂] at hj₂
    split_ifs at hj₁ hj₂
    exact h.apart e₁ he₁ f₁ hf₁ hd₁ e₂ he₂ f₂ hf₂ hd₂ i₁ i₂ j hi₁ hi₂ hj₁ hj₂
  · intro e he e' he' hch i hi hnone
    refine .inr ⟨ht, fun hl => ?_⟩
    rw [hhome e he e' he' hch i hl hi] at hnone
    exact hr.raised hnone

/-! ### Channels that stay -/

/-- **The channel of the entry stays, and so does its link,** if that is not to the listener and the
transport stays. -/
def Holds (o o' : Outline) (e : Entry) : Prop :=
  ∃ e' ∈ o'.entries, e'.channel = e.channel ∧ ∀ i, e.socket = some i → o.listener ≠ some i →
    e'.socket = some i ∨ o'.transport ≠ o.transport

theorem Holds.of_mem {e : Entry} (he : e ∈ o'.entries) : Holds o o' e :=
  ⟨e, he, rfl, fun _ hi _ => .inl hi⟩

theorem Holds.linked (hn : o.directory.Numbered) {c : Channel} {id : SocketId} {sharing : Sharing}
    (hc : { channel := c } ∈ o.entries)
    (heq : o'.entries = o.entries.map (linkEntry c id sharing o.listener)) {e : Entry}
    (he : e ∈ o.entries) : Holds o o' e := by
  refine ⟨_, heq ▸ List.mem_map_of_mem he, channel_linkEntry .., fun i hi _ => .inl ?_⟩
  rw [linkEntry_eq_self hn id sharing hc he hi]
  exact hi

/-- Where a new socket takes the place of another one than the channel's. -/
theorem Holds.relinked {old new : SocketId}
    (heq : o'.entries = o.entries.map (relinkEntry old new)) {e : Entry} (he : e ∈ o.entries)
    (hold : o.listener = some old ∨ e.socket ≠ some old) : Holds o o' e := by
  refine ⟨_, heq ▸ List.mem_map_of_mem he, channel_relinkEntry .., fun i hi hl => .inl ?_⟩
  rw [socket_relinkEntry, if_neg]
  · exact hi
  · intro hlink
    rcases hold with hlistener | hother
    · exact hl (hlistener.trans (hlink.symm.trans hi))
    · exact hother hlink

/-- Where the transport changes, no link needs to stay. -/
theorem Holds.cut (ht : o'.transport ≠ o.transport) {e : Entry}
    (hc : ∃ e' ∈ o'.entries, e'.channel = e.channel) : Holds o o' e := by
  obtain ⟨e', he', hch⟩ := hc
  exact ⟨e', he', hch, fun _ _ _ => .inr ht⟩

/-- The listener may move. -/
theorem holds_moved (hs : o.Sound) (ho : o.isOpen = true) (t : Transport) (next : SocketId)
    {e : Entry} (he : e ∈ o.entries) : Holds o
      (if o.transport ≠ t then (o.rebind t next).closeOutbound else o.rebind t next) e := by
  obtain ⟨old, hold⟩ := Option.ne_none_iff_exists'.mp (hs.opened ho)
  rw [rebind_eq hold]
  split_ifs with hne
  · refine .cut (Ne.symm hne) ⟨_, List.mem_map_of_mem (List.mem_map_of_mem he), ?_⟩
    rw [channel_detachEntry, channel_relinkEntry]
  · exact .relinked rfl he (.inl hold)

/-- A channel that holds keeps its outbound socket, which stays. -/
theorem Holds.mem_sockets (hs : o.Sound) (hs' : o'.Sound) (hg : Grows o o')
    (ht : o'.transport = o.transport) {e : Entry} (hh : Holds o o' e) {s : SocketId × Nature}
    (hmem : s ∈ o.sockets) (hlink : e.socket = some s.1) (hr : s.2.role ≠ .listener) :
    s ∈ o'.sockets := by
  obtain ⟨e', he', -, hheld⟩ := hh
  have hlink' := (hheld s.1 hlink (hs.ne_listener hmem hr)).resolve_right fun hne => hne ht
  obtain ⟨n, hn, -⟩ := hs'.linked e' he' s.1 hlink'
  rcases hg.sockets _ hn with hold | hnew
  · rwa [hs.eq_of_fst_eq hmem hold rfl]
  · exact absurd (hs.below s hmem) (Nat.not_lt.mpr hnew)

/-! ### Moves -/

theorem linksKept_event (hn : o.directory.Numbered) (he : Event o o') : LinksKept o o' := by
  cases he with
  | _ => exact .of_subset hn (fun _ => id) fun e' he' => .inl he'

/-- A pass leaves links alone, and is over before the exchange closes. -/
theorem entries_passMoves (hm : PassMoves o o') :
    o'.entries = o.entries ∧ o'.listener = o.listener ∧ o'.isOpen = o.isOpen := by
  induction hm with
  | refl => exact ⟨rfl, rfl, rfl⟩
  | tail _ hstep ih =>
    cases hstep with
    | event he => cases he <;> exact ih
    | sent count => exact ih

/-- The listener gives way to another one. -/
theorem linksKept_rebind (hs : o.Sound) (ho : o.isOpen = true) (t : Transport) (next : SocketId) :
    LinksKept o (o.rebind t next) := by
  obtain ⟨old, hold⟩ := Option.ne_none_iff_exists'.mp (hs.opened ho)
  rw [rebind_eq hold]
  refine .relinked hs (fun n hn => ?_) rfl fun l hl => ?_
  · exact (mem_sockets_erase.mp hn).2 rfl
  · obtain rfl : old = l := Option.some.inj (hold.symm.trans hl)
    rw [if_pos rfl]
    rfl

/-- **A move keeps links,** and cuts them only where the exchange closes or its transport
changes. -/
theorem linksKept_move (hs : o.Sound) (hm : Move o o') : LinksKept o o' := by
  have hsame : ∀ {o₁ : Outline}, o₁.entries = o.entries → o₁.listener = o.listener →
      LinksKept o o₁ := fun he hl =>
    .of_subset hs.numbered (fun l h => hl.trans h) fun e' he' => .inl (he ▸ he')
  cases hm with
  | event he => exact linksKept_event hs.numbered he
  | passed p hpass hp hstay =>
    obtain ⟨he, hl, -⟩ := entries_passMoves hpass
    exact hsame he hl
  | opened next ho hnext =>
    refine .of_subset hs.numbered (fun l hl => ?_) fun e' he' => .inl he'
    rw [(hs.closed ho).2.1] at hl
    exact nomatch hl
  | closed ho =>
    have hnone : ∀ e' ∈ o.entries.map ({ · with socket := none }), e'.socket = none := by
      intro e' he'
      obtain ⟨e, -, rfl⟩ := List.mem_map.mp he'
      rfl
    refine ⟨fun _ _ _ _ _ i n _ hn => (nomatch hn), fun _ _ e' he' _ l _ _ => hnone e' he',
      fun _ _ e₁' he₁' _ _ _ _ _ _ _ _ _ _ _ hj _ => ?_, fun _ _ _ _ _ _ _ _ => .inl rfl⟩
    exact nomatch (hnone e₁' he₁').symm.trans hj
  | cleared ho => exact hsame rfl rfl
  | adopted t ht => exact hsame rfl rfl
  | moved t next ho hnext =>
    have hrebind := linksKept_rebind hs ho t next
    split_ifs with hne
    · refine hrebind.cut (hs.rebind t ho hnext) ?_
      obtain ⟨old, hold⟩ := Option.ne_none_iff_exists'.mp (hs.opened ho)
      rw [rebind_eq hold]
      exact Ne.symm hne
    · exact hrebind
  | enrolled hh hid hd =>
    refine .of_subset hs.numbered (fun _ => id) fun e' he' => ?_
    rcases List.mem_append.mp he' with he' | he'
    · exact .inl he'
    · rw [List.mem_singleton.mp he']
      exact .inr (Nat.le_of_eq hid.symm)
  | joined sharing ho hc hid => exact .linked hs.numbered hc rfl rfl
  | connected next sharing ho hc hr hnext => exact .linked hs.numbered hc rfl rfl
  | @substituted old n remote next ho hold hr hf hnext =>
    refine .relinked hs (fun n' hn' => ?_) rfl fun l hl => ?_
    · rcases (mem_sockets_add next).mp hn' with hn' | hnew
      · exact (mem_sockets_erase.mp hn').2 rfl
      · have := hs.below _ hold
        exact absurd (congrArg Prod.fst hnew) (Nat.ne_of_lt this)
    · rw [if_neg]
      · exact hl
      · rintro rfl
        exact hs.ne_listener hold (by rw [hr]; decide) hl
  | retained p =>
    exact .of_subset hs.numbered (fun _ => id) fun e' he' => .inl (List.mem_filter.mp he').1
  | queued data call ho he hid hl => exact hsame rfl rfl
  | told => exact hsame rfl rfl

/-- Whoever stays keeps the link to a socket that stays, whatever moves there are. -/
theorem socket_kept_moves (hs : o.Sound) (hm : Moves o o') {e e' : Entry} (he : e ∈ o.entries)
    (he' : e' ∈ o'.entries) (hc : e'.channel = e.channel) {i : SocketId} {n : Nature}
    (hi : e.socket = some i) (hn : (i, n) ∈ o'.sockets) : e'.socket = some i := by
  induction hm generalizing e' n with
  | refl => rwa [hs.numbered.eq_of_id_eq he' he (congrArg Channel.id hc)]
  | @tail o₁ o₂ hbefore hstep ih =>
    have hsound := hs.moves hbefore
    have hgrows := grows_move hstep
    have hgrown := grows_moves hbefore
    obtain ⟨n₀, hn₀, -⟩ := hs.linked e he i hi
    -- Neither the channel nor the socket is new, so both were there in between.
    have hsocket : (i, n) ∈ o₁.sockets := by
      refine (hgrows.sockets _ hn).resolve_right fun hnew => ?_
      have hlt := Nat.lt_of_lt_of_le (hs.below _ hn₀) hgrown.next
      exact absurd hlt (Nat.not_lt.mpr hnew)
    have hchannel : ∃ e₁ ∈ o₁.entries, e₁.channel = e'.channel := by
      refine (hgrows.channels e' he').resolve_right fun hnew => ?_
      have hlt := Nat.lt_of_lt_of_le (hs.numbered.below e he) hgrown.senders
      rw [hc] at hnew
      exact absurd hlt (Nat.not_lt.mpr hnew)
    obtain ⟨e₁, he₁, hc₁⟩ := hchannel
    have hlink := ih he₁ (hc₁.trans hc) hsocket
    exact (linksKept_move hsound hstep).kept e₁ he₁ e' he' hc₁.symm i n hlink hn

end Switchboard.Outline
