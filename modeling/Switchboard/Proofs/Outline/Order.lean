import Switchboard.Proofs.Outline.Growth
import Switchboard.Proofs.Outline.Sound

/-!
# The order of what is sent

Tickets number the writes in the order in which they were queued.  A *lane* is a socket that sends
the writes of the channels that are linked to it: every socket but a connection that was taken in.
On a lane, and for a channel over all its sockets, the pieces that go out never step back to an
earlier write, and after the last piece of a write none of it follows (`Ordered`).

What keeps it so is that whatever a lane or a channel has sent is no later than what still waits for
it.  A channel may come to a lane that has sent something only if none of its writes waits, and that
is so because, once a pass has sent anything, the writes of channels without a socket are dropped
(`Settled`).
-/

namespace Switchboard

open Net Settings Relation Directory

theorem Write.remaining_advance (w : Write) (count : Nat) :
    (w.advance count).remaining = w.remaining.drop count := by
  have hlength : w.remaining.length = w.data.length - w.offset := List.length_drop ..
  change w.data.drop (w.offset + min count w.remaining.length) = (w.data.drop w.offset).drop count
  rw [hlength, List.drop_drop]
  by_cases hle : count ≤ w.data.length - w.offset
  · rw [Nat.min_eq_left hle]
  · rw [List.drop_of_length_le (by omega), List.drop_of_length_le (by omega)]

/-- The second piece is of the same write or of a later one, and of a later one if the first was the
last of its write. -/
def Piece.Before (p q : Piece) : Prop :=
  p.write.ticket ≤ q.write.ticket ∧ (p.isLast = true → p.write.ticket < q.write.ticket)

namespace Outline

/-- Does the socket send the writes of the channels that are linked to it? -/
def Lane (o : Outline) (id : SocketId) : Prop :=
  ∃ n, (id, n) ∈ o.sockets ∧ n.role ≠ .accepted

/-- **What was sent is in order, and comes before what waits.** -/
structure Ordered (o : Outline) : Prop where
  ascending : o.outbox.writes.Pairwise (·.ticket < ·.ticket)
  below : ∀ w ∈ o.outbox.writes, w.ticket < o.outbox.nextTicket
  owned : ∀ w ∈ o.outbox.writes, ∃ e ∈ o.entries, e.channel = w.channel
  voiced : ∀ w ∈ o.outbox.writes, w.channel.remote.isMask = true →
    o.directory.lastSender w.channel ≠ none
  sent : ∀ p ∈ o.sendings, p.socket < o.nextSocket ∧ p.write.ticket < o.outbox.nextTicket
  gone : ∀ p ∈ o.sendings, p.isLast = true → ∀ w ∈ o.outbox.writes, p.write.ticket ≠ w.ticket
  channel : ∀ p ∈ o.sendings, ∀ w ∈ o.outbox.writes, p.write.channel = w.channel →
    p.write.ticket ≤ w.ticket
  lane : ∀ p ∈ o.sendings, o.Lane p.socket → ∀ w ∈ o.outbox.writes, o.Links w.channel p.socket →
    p.write.ticket ≤ w.ticket
  once : o.sendings.Pairwise fun p q => p.isLast = true → p.write.ticket ≠ q.write.ticket
  channels : o.sendings.Pairwise fun p q => p.write.channel = q.write.channel → p.Before q
  lanes : ∀ id, o.Lane id → o.sendings.Pairwise fun p q =>
    p.socket = id → q.socket = id → p.Before q

/-- **Where a lane has sent something, every write that waits is of a channel with a socket.** -/
def Settled (o : Outline) : Prop :=
  ∀ p ∈ o.sendings, o.Lane p.socket → ∀ w ∈ o.outbox.writes, ∃ id, o.Links w.channel id

variable {o o' : Outline}

/-! ### Moves that send nothing -/

/-- A lane that has sent something was one before. -/
theorem Ordered.lane_of_grows (h : o.Ordered) (hg : Grows o o') {p : Piece} (hp : p ∈ o.sendings)
    (hl : o'.Lane p.socket) : o.Lane p.socket := by
  obtain ⟨n, hn, hr⟩ := hl
  rcases hg.sockets _ hn with hold | hnew
  · exact ⟨n, hold, hr⟩
  · exact absurd (h.sent p hp).1 (Nat.not_lt.mpr hnew)

/-- Where nothing is sent and no write comes, order is kept if no write comes to a lane that has
sent something. -/
theorem Ordered.of_grows (h : o.Ordered) (hg : Grows o o') (hsent : o'.sendings = o.sendings)
    (hticket : o'.outbox.nextTicket = o.outbox.nextTicket)
    (hw : o'.outbox.writes.Sublist o.outbox.writes)
    (howned : ∀ w ∈ o'.outbox.writes, ∃ e ∈ o'.entries, e.channel = w.channel)
    (hvoiced : ∀ c, o.directory.lastSender c ≠ none → o'.directory.lastSender c ≠ none)
    (hlinks : ∀ p ∈ o.sendings, o.Lane p.socket → ∀ w ∈ o'.outbox.writes,
      o'.Links w.channel p.socket → o.Links w.channel p.socket) : o'.Ordered where
  ascending := h.ascending.sublist hw
  below w hm := by
    rw [hticket]
    exact h.below w (hw.subset hm)
  owned := howned
  voiced w hm hmask := hvoiced _ (h.voiced w (hw.subset hm) hmask)
  sent p hp := by
    rw [hsent] at hp
    rw [hticket]
    exact ⟨Nat.lt_of_lt_of_le (h.sent p hp).1 hg.next, (h.sent p hp).2⟩
  gone p hp hlast w hm := h.gone p (hsent ▸ hp) hlast w (hw.subset hm)
  channel p hp w hm := h.channel p (hsent ▸ hp) w (hw.subset hm)
  lane p hp hl w hm hlink := by
    rw [hsent] at hp
    have hl := h.lane_of_grows hg hp hl
    exact h.lane p hp hl w (hw.subset hm) (hlinks p hp hl w hm hlink)
  once := hsent ▸ h.once
  channels := hsent ▸ h.channels
  lanes id hl := by
    rw [hsent]
    by_cases hid : ∃ p ∈ o.sendings, p.socket = id
    · obtain ⟨p, hp, rfl⟩ := hid
      exact h.lanes p.socket (h.lane_of_grows hg hp hl)
    · exact List.pairwise_of_forall_mem_list fun p hp q _ hsocket => absurd ⟨p, hp, hsocket⟩ hid

/-- Where no write comes, and no write that stays loses its socket, it stays settled. -/
theorem Settled.of_grows (hset : o.Settled) (h : o.Ordered) (hg : Grows o o')
    (hsent : o'.sendings = o.sendings) (hw : o'.outbox.writes ⊆ o.outbox.writes)
    (hlinks : ∀ w ∈ o'.outbox.writes, (∃ id, o.Links w.channel id) → ∃ id, o'.Links w.channel id) :
    o'.Settled := by
  intro p hp hl w hm
  rw [hsent] at hp
  exact hlinks w hm (hset p hp (h.lane_of_grows hg hp hl) w (hw hm))

theorem lastSender_set (d : Directory.Core) (i : Nat) (sender : Endpoint) {c : Channel}
    (h : d.lastSender c ≠ none) :
    ({ d with senders := d.senders.set i (some sender) } : Directory.Core).lastSender c ≠ none := by
  unfold Directory.Core.lastSender at h ⊢
  dsimp only
  split_ifs at h ⊢
  · rw [List.getElem?_set]
    split_ifs with hi hlt
    · exact Option.some_ne_none sender
    · rw [← hi, List.getElem?_eq_none (Nat.not_lt.mp hlt)] at h
      exact absurd rfl h
    · exact h
  · exact absurd rfl h

theorem Ordered.event (h : o.Ordered) (he : Event o o') : o'.Ordered := by
  cases he with
  | admitted next remote hs hm hnext =>
    exact h.of_grows (.add (Nature.proper_taken remote) hnext) rfl rfl (.refl _) h.owned
      (fun _ => id) fun _ _ _ _ _ => id
  | dropped hs hr =>
    exact h.of_grows (.filter _) rfl rfl (.refl _) h.owned (fun _ => id) fun _ _ _ _ _ => id
  | rescheduled retries hr => exact { h with }
  | announced cs ho => exact { h with }
  | @remembered e sender he hm hd ht =>
    have hgrows := grows_event (.remembered o sender he hm hd ht)
    exact h.of_grows hgrows rfl rfl (.refl _) h.owned
      (fun c hc => lastSender_set o.directory _ sender hc) fun _ _ _ _ _ => id

theorem Settled.event (hset : o.Settled) (h : o.Ordered) (he : Event o o') : o'.Settled := by
  have hgrows := grows_event he
  cases he with
  | _ => exact hset.of_grows h hgrows rfl (List.Subset.refl _) fun _ _ => id

/-! ### Sending -/

theorem pairwise_snoc {α : Type} {R : α → α → Prop} {as : List α} {a : α} :
    (as ++ [a]).Pairwise R ↔ as.Pairwise R ∧ ∀ b ∈ as, R b a := by
  simp [List.pairwise_append]

/-- What waits after something was sent: the writes around, and the rest of the one that was
sent. -/
theorem mem_writes_send {id : SocketId} {n : Nature} {before after : List Write} {w w' : Write}
    {count : Nat} (h : w' ∈ (o.send id n before w after count).outbox.writes) :
    w' ∈ before ∨ w' ∈ after ∨ w' = w.advance count := by
  unfold send at h
  dsimp only at h
  rw [List.append_assoc, List.mem_append, List.mem_append] at h
  rcases h with h | h | h
  · exact .inl h
  · split_ifs at h
    · exact nomatch h
    · exact .inr (.inr (List.mem_singleton.mp h))
  · exact .inr (.inl h)

/-- What waits after something was sent did so before. -/
theorem exists_of_mem_send {id : SocketId} {n : Nature} {before after : List Write} {w w' : Write}
    {count : Nat} (h : w' ∈ (o.send id n before w after count).outbox.writes) :
    ∃ w₀ ∈ before ++ w :: after, w₀.ticket = w'.ticket ∧ w₀.channel = w'.channel ∧
      w₀.data = w'.data := by
  rcases mem_writes_send h with h | h | rfl
  · exact ⟨w', List.mem_append_left _ h, rfl, rfl, rfl⟩
  · exact ⟨w', List.mem_append_right _ (List.mem_cons_of_mem _ h), rfl, rfl, rfl⟩
  · exact ⟨w, List.mem_append_right _ List.mem_cons_self, rfl, rfl, rfl⟩

/-- The tickets of what waits after something was sent. -/
theorem tickets_send_sublist (id : SocketId) (n : Nature) (before after : List Write) (w : Write)
    (count : Nat) : ((o.send id n before w after count).outbox.writes.map (·.ticket)).Sublist
      ((before ++ w :: after).map (·.ticket)) := by
  unfold send
  dsimp only
  split_ifs
  · simp
  · simp [Write.advance]

/-- After the last piece of a write, the write waits no longer. -/
theorem writes_send_of_isLast {id : SocketId} {n : Nature} {before after : List Write} {w : Write}
    {count : Nat} (hlast : (⟨id, w, count⟩ : Piece).isLast = true) :
    (o.send id n before w after count).outbox.writes = before ++ after := by
  have hcount : count = w.remaining.length := beq_iff_eq.mp hlast
  have hgone : (w.advance count).remaining = [] := by
    rw [Write.remaining_advance, hcount, List.drop_length]
  unfold send
  dsimp only
  rw [if_pos (.inl hgone), List.append_nil]

/-- The writes before one that waits were queued earlier, and the ones after it later. -/
theorem Ordered.around (h : o.Ordered) {before after : List Write} {w : Write}
    (hw : o.outbox.writes = before ++ w :: after) :
    (∀ w' ∈ before, w'.ticket < w.ticket) ∧ ∀ w' ∈ after, w.ticket < w'.ticket := by
  have hascending := h.ascending
  rw [hw, List.pairwise_append, List.pairwise_cons] at hascending
  obtain ⟨-, ⟨hafter, -⟩, hbefore⟩ := hascending
  exact ⟨fun w' hw' => hbefore w' hw' w List.mem_cons_self, hafter⟩

theorem Ordered.ne_ticket (h : o.Ordered) {before after : List Write} {w w' : Write}
    (hw : o.outbox.writes = before ++ w :: after) (hw' : w' ∈ before ++ after) :
    w.ticket ≠ w'.ticket := by
  obtain ⟨hbefore, hafter⟩ := h.around hw
  rcases List.mem_append.mp hw' with hw' | hw'
  · exact Nat.ne_of_gt (hbefore w' hw')
  · exact Nat.ne_of_lt (hafter w' hw')

/-- What waits stands before a write that waits, or was queued no earlier. -/
theorem Ordered.mem_or_le (h : o.Ordered) {before after : List Write} {w w' : Write}
    (hw : o.outbox.writes = before ++ w :: after) (hw' : w' ∈ o.outbox.writes) :
    w' ∈ before ∨ w.ticket ≤ w'.ticket := by
  rw [hw] at hw'
  rcases List.mem_append.mp hw' with hin | hin
  · exact .inl hin
  · rcases List.mem_cons.mp hin with rfl | hin
    · exact .inr (Nat.le_refl _)
    · exact .inr (Nat.le_of_lt ((h.around hw).2 w' hin))

/-- A piece of a write that waits comes after every piece of one that was queued no later. -/
theorem Ordered.before_of_le (h : o.Ordered) {w : Write} (hw : w ∈ o.outbox.writes) {p : Piece}
    (hp : p ∈ o.sendings) (hle : p.write.ticket ≤ w.ticket) (id : SocketId) (count : Nat) :
    p.Before ⟨id, w, count⟩ := by
  refine ⟨hle, fun hlast => ?_⟩
  have hne := h.gone p hp hlast w hw
  change p.write.ticket < w.ticket
  omega

theorem Ordered.send (h : o.Ordered) (hs : o.Sound) {id : SocketId} {n : Nature}
    {before after : List Write} {w : Write} {count : Nat} (hn : (id, n) ∈ o.sockets)
    (hw : o.outbox.writes = before ++ w :: after)
    (hlink : o.Links w.channel id ∨
      n.role = .accepted ∧ ∃ l, o.listener = some l ∧ o.Links w.channel l)
    (hchannel : ∀ w' ∈ before, w'.channel ≠ w.channel)
    (hlane : n.role ≠ .accepted → ∀ w' ∈ before, o.Links w'.channel id →
      w'.channel.remote.isMask = true ∧ o.directory.lastSender w'.channel = none) :
    (o.send id n before w after count).Ordered := by
  have hmem : w ∈ o.outbox.writes := hw ▸ List.mem_append_right _ List.mem_cons_self
  have hone : ∀ {p : Piece}, p ∈ o.sendings ++ [⟨id, w, count⟩] →
      p ∈ o.sendings ∨ p = ⟨id, w, count⟩ := fun hp =>
    (List.mem_append.mp hp).imp_right List.mem_singleton.mp
  constructor
  case ascending =>
    have hsub := tickets_send_sublist (o := o) id n before after w count
    rw [← hw] at hsub
    exact List.pairwise_map.mp ((List.pairwise_map.mpr h.ascending).sublist hsub)
  case below =>
    intro w' hw'
    obtain ⟨w₀, hw₀, ht, -⟩ := exists_of_mem_send hw'
    rw [← ht]
    exact h.below w₀ (hw ▸ hw₀)
  case owned =>
    intro w' hw'
    obtain ⟨w₀, hw₀, -, hc, -⟩ := exists_of_mem_send hw'
    rw [← hc]
    exact h.owned w₀ (hw ▸ hw₀)
  case voiced =>
    intro w' hw'
    obtain ⟨w₀, hw₀, -, hc, -⟩ := exists_of_mem_send hw'
    rw [← hc]
    exact h.voiced w₀ (hw ▸ hw₀)
  case sent =>
    intro p hp
    rcases hone hp with hp | rfl
    · exact h.sent p hp
    · exact ⟨hs.below _ hn, h.below w hmem⟩
  case gone =>
    intro p hp hlast w' hw'
    rcases hone hp with hp | rfl
    · obtain ⟨w₀, hw₀, ht, -⟩ := exists_of_mem_send hw'
      rw [← ht]
      exact h.gone p hp hlast w₀ (hw ▸ hw₀)
    · exact h.ne_ticket hw (writes_send_of_isLast hlast ▸ hw')
  case channel =>
    -- No older write of the channel waits, for the oldest is the one that is sent.
    intro p hp w' hw' hc
    obtain ⟨w₀, hw₀, ht, hc₀, -⟩ := exists_of_mem_send hw'
    rw [← ht]
    rcases hone hp with hp | rfl
    · exact h.channel p hp w₀ (hw ▸ hw₀) (hc.trans hc₀.symm)
    · exact (h.mem_or_le hw (hw ▸ hw₀)).resolve_left fun hin => hchannel w₀ hin (hc₀.trans hc.symm)
  case lane =>
    -- An older write on the lane is of a masked channel without a sender, and none of those waits.
    intro p hp hl w' hw' hlink'
    obtain ⟨w₀, hw₀, ht, hc₀, -⟩ := exists_of_mem_send hw'
    rw [← ht]
    replace hlink' : o.Links w₀.channel p.socket := hc₀ ▸ hlink'
    rcases hone hp with hp | rfl
    · exact h.lane p hp hl w₀ (hw ▸ hw₀) hlink'
    · obtain ⟨n', hn', hr⟩ := hl
      obtain rfl := hs.nature_eq hn hn'
      refine (h.mem_or_le hw (hw ▸ hw₀)).resolve_left fun hin => ?_
      obtain ⟨hmask, hnone⟩ := hlane hr w₀ hin hlink'
      exact h.voiced w₀ (hw ▸ hw₀) hmask hnone
  case once => exact pairwise_snoc.mpr ⟨h.once, fun p hp hlast => h.gone p hp hlast w hmem⟩
  case channels =>
    exact pairwise_snoc.mpr ⟨h.channels, fun p hp hc =>
      h.before_of_le hmem hp (h.channel p hp w hmem hc) id count⟩
  case lanes =>
    -- A lane sends only what is linked to it, and that is no older than what it has sent.
    intro i hl
    refine pairwise_snoc.mpr ⟨h.lanes i hl, fun p hp hi hid => ?_⟩
    obtain rfl : id = i := hid
    subst hi
    refine h.before_of_le hmem hp (h.lane p hp hl w hmem (hlink.resolve_right fun hacc => ?_)) _ _
    obtain ⟨n', hn', hr⟩ := hl
    exact hr (hs.nature_eq hn hn' ▸ hacc.1)

theorem Ordered.passMove (h : o.Ordered) (hs : o.Sound) (hm : PassMove o o') : o'.Ordered := by
  cases hm with
  | event he => exact h.event he
  | sent count hn hm hw hlink hchannel hlane hcount => exact h.send hs hn hw hlink hchannel hlane

theorem Ordered.passMoves (h : o.Ordered) (hs : o.Sound) (hm : PassMoves o o') : o'.Ordered := by
  induction hm with
  | refl => exact h
  | tail hbefore hstep ih => exact ih.passMove (hs.passMoves hbefore) hstep

/-! ### Links and waiting writes -/

theorem owned_map {f : Entry → Entry} (hf : ∀ e, (f e).channel = e.channel) {w : Write}
    (h : ∃ e ∈ o.entries, e.channel = w.channel) :
    ∃ e ∈ o.entries.map f, e.channel = w.channel := by
  obtain ⟨e, he, hc⟩ := h
  exact ⟨f e, List.mem_map_of_mem he, (hf e).trans hc⟩

/-- Who is linked to a socket after a new one came was so before, unless it is the new one. -/
theorem links_of_relink {old new : SocketId} {c : Channel} {id : SocketId} (hne : id ≠ new)
    (h : (o.onEntries (·.map (relinkEntry old new))).Links c id) : o.Links c id := by
  obtain ⟨e', he', hc, hs⟩ := h
  obtain ⟨e, he, rfl⟩ := List.mem_map.mp he'
  rw [channel_relinkEntry] at hc
  rw [socket_relinkEntry] at hs
  split_ifs at hs
  · exact absurd (Option.some.inj hs).symm hne
  · exact ⟨e, he, hc, hs⟩

/-- Who is linked stays linked when a new socket comes. -/
theorem linked_map_relink (old new : SocketId) {c : Channel} (h : ∃ id, o.Links c id) :
    ∃ id, (o.onEntries (·.map (relinkEntry old new))).Links c id := by
  obtain ⟨id, e, he, hc, hs⟩ := h
  refine ⟨if id = old then new else id, relinkEntry old new e, List.mem_map_of_mem he, ?_, ?_⟩
  · rw [channel_relinkEntry]
    exact hc
  · rw [socket_relinkEntry, hs]
    by_cases hold : id = old
    · rw [if_pos (congrArg some hold), if_pos hold]
    · rw [if_neg fun heq => hold (Option.some.inj heq), if_neg hold]

section Linked

variable {c : Channel} {id : SocketId} {sharing : Sharing}

/-- Whoever is linked already is not linked anew. -/
theorem links_of_map_linkEntry (h : o.directory.Numbered) (hc : { channel := c } ∈ o.entries)
    (he : o'.entries = o.entries.map (linkEntry c id sharing o.listener)) {c' : Channel}
    (hold : ∃ i, o.Links c' i) {i : SocketId} (hlink : o'.Links c' i) : o.Links c' i := by
  obtain ⟨e', he', hid', hs'⟩ := hlink
  rw [he] at he'
  obtain ⟨e, he, rfl⟩ := List.mem_map.mp he'
  rw [channel_linkEntry] at hid'
  obtain ⟨j, e₀, he₀, hid₀, hs₀⟩ := hold
  obtain rfl := h.eq_of_id_eq he he₀ (hid'.trans hid₀.symm)
  rw [linkEntry_eq_self h id sharing hc he hs₀] at hs'
  exact ⟨e, he, hid', hs'⟩

/-- Whoever is linked already keeps the link. -/
theorem links_map_linkEntry (h : o.directory.Numbered) (hc : { channel := c } ∈ o.entries)
    (he : o'.entries = o.entries.map (linkEntry c id sharing o.listener)) {c' : Channel}
    {i : SocketId} (hlink : o.Links c' i) : o'.Links c' i := by
  obtain ⟨e, hmem, hid, hs⟩ := hlink
  refine ⟨e, ?_, hid, hs⟩
  rw [he]
  exact List.mem_map.mpr ⟨e, hmem, linkEntry_eq_self h id sharing hc hmem hs⟩

end Linked

/-! ### Operations -/

theorem Ordered.socket_ne (h : o.Ordered) {p : Piece} (hp : p ∈ o.sendings) :
    p.socket ≠ o.nextSocket :=
  Nat.ne_of_lt (h.sent p hp).1

theorem Ordered.moved (h : o.Ordered) (hset : o.Settled) (hs : o.Sound) {t : Transport}
    {next : SocketId} (ho : o.isOpen = true) (hnext : o.nextSocket < next) :
    (o.rebind t next).Ordered ∧ (o.rebind t next).Settled ∧
      (o.rebind t next).closeOutbound.Ordered ∧ (o.rebind t next).closeOutbound.Settled := by
  obtain ⟨old, hold⟩ := Option.ne_none_iff_exists'.mp (hs.opened ho)
  have hrebound := hs.rebind t ho hnext
  have hgrows := Grows.rebind (o := o) t hnext
  have hclose := Grows.closeOutbound (o.rebind t next)
  have hlistener : (o.rebind t next).listener = some o.nextSocket := by
    rw [rebind_eq hold]
    rfl
  rw [rebind_eq hold] at hgrows hclose hrebound hlistener ⊢
  have hordered := h.of_grows hgrows rfl rfl (.refl _)
    (fun w hw => owned_map (channel_relinkEntry _ _) (h.owned w hw)) (fun _ => id)
    fun p hp _ w _ hlink => links_of_relink (h.socket_ne hp) hlink
  refine ⟨hordered, ?_, ?_, ?_⟩
  · exact hset.of_grows h hgrows rfl (List.Subset.refl _) fun w _ => linked_map_relink _ _
  · refine hordered.of_grows hclose rfl rfl (.refl _)
      (fun w hw => owned_map (channel_detachEntry _) (hordered.owned w hw)) (fun _ => id) ?_
    intro p hp _ w _ hlink
    obtain ⟨e', he', hid, hlink⟩ := hlink
    obtain ⟨e, he, rfl⟩ := List.mem_map.mp he'
    rw [channel_detachEntry] at hid
    rw [socket_detachEntry] at hlink
    split_ifs at hlink
    exact ⟨e, he, hid, hlink⟩
  · -- Only the new listener is left, and it has sent nothing.
    intro p hp hl
    obtain ⟨n, hn, -⟩ := hl
    obtain ⟨hn, hr⟩ := hrebound.mem_closeOutbound.mp hn
    have hnew := hrebound.only _ hn hr
    rw [hlistener] at hnew
    exact absurd (Option.some.inj hnew).symm (h.socket_ne hp)

theorem Ordered.retain (h : o.Ordered) (hset : o.Settled) (p : Channel → Bool) :
    (o.retain p).Ordered ∧ (o.retain p).Settled := by
  have hgrows := Grows.retain p o
  have hkept : ∀ w ∈ (o.retain p).outbox.writes, w ∈ o.outbox.writes ∧
      ∀ e ∈ o.entries, e.channel.id = w.channel.id → p e.channel = true := by
    intro w hw
    obtain ⟨hw, hstays⟩ := List.mem_filter.mp hw
    rw [Bool.not_eq_true', List.any_eq_false] at hstays
    refine ⟨hw, fun e he hid => ?_⟩
    have := hstays e he
    rw [hid, beq_self_eq_true, Bool.and_true, Bool.not_eq_true', Bool.not_eq_false] at this
    exact this
  constructor
  · refine h.of_grows hgrows rfl rfl List.filter_sublist (fun w hw => ?_) (fun _ => id) ?_
    · obtain ⟨hw, hstays⟩ := hkept w hw
      obtain ⟨e, he, hc⟩ := h.owned w hw
      exact ⟨e, List.mem_filter.mpr ⟨he, hstays e he (congrArg Channel.id hc)⟩, hc⟩
    · intro q hq _ w _ hlink
      obtain ⟨e, he, hlink⟩ := hlink
      exact ⟨e, (List.mem_filter.mp he).1, hlink⟩
  · refine hset.of_grows h hgrows rfl (List.filter_subset_self _) fun w hw hlink => ?_
    obtain ⟨-, hstays⟩ := hkept w hw
    obtain ⟨id, e, he, hid, hlink⟩ := hlink
    exact ⟨id, e, List.mem_filter.mpr ⟨he, hstays e he hid⟩, hid, hlink⟩

theorem Ordered.queued (h : o.Ordered) (hset : o.Settled) (hs : o.Sound) {e : Entry} {id : SocketId}
    (data : Bytes) (call : Option Nat) (he : e ∈ o.entries) (hid : e.socket = some id)
    (hl : o.listener = some id → e.channel.remote.isMask = true →
      o.directory.lastSender e.channel ≠ none) :
    Ordered { o with outbox := o.outbox.push e.channel data call } ∧
      Settled { o with outbox := o.outbox.push e.channel data call } := by
  have hone : ∀ {w : Write}, w ∈ (o.outbox.push e.channel data call).writes →
      w ∈ o.outbox.writes ∨ w = { ticket := o.outbox.nextTicket, channel := e.channel, data, call } :=
    fun hw => (List.mem_append.mp hw).imp_right List.mem_singleton.mp
  constructor
  · constructor
    · exact pairwise_snoc.mpr ⟨h.ascending, h.below⟩
    · intro w hw
      rcases hone hw with hw | rfl
      · exact Nat.lt_succ_of_lt (h.below w hw)
      · exact Nat.lt_succ_self _
    · intro w hw
      rcases hone hw with hw | rfl
      · exact h.owned w hw
      · exact ⟨e, he, rfl⟩
    · intro w hw hmask
      rcases hone hw with hw | rfl
      · exact h.voiced w hw hmask
      · -- A masked channel is on the listener.
        obtain ⟨n, hn, hf⟩ := hs.linked e he id hid
        rcases hf with ⟨hr, -⟩ | ⟨-, remote, -, hremote⟩
        · exact hl (hs.only _ hn hr) hmask
        · rw [hremote] at hmask
          exact nomatch hmask
    · exact fun p hp => ⟨(h.sent p hp).1, Nat.lt_succ_of_lt (h.sent p hp).2⟩
    · intro p hp hlast w hw
      rcases hone hw with hw | rfl
      · exact h.gone p hp hlast w hw
      · exact Nat.ne_of_lt (h.sent p hp).2
    · intro p hp w hw hc
      rcases hone hw with hw | rfl
      · exact h.channel p hp w hw hc
      · exact Nat.le_of_lt (h.sent p hp).2
    · intro p hp hlane w hw hlink
      rcases hone hw with hw | rfl
      · exact h.lane p hp hlane w hw hlink
      · exact Nat.le_of_lt (h.sent p hp).2
    · exact h.once
    · exact h.channels
    · exact h.lanes
  · intro p hp hlane w hw
    rcases hone hw with hw | rfl
    · exact hset p hp hlane w hw
    · exact ⟨id, e, he, rfl, hid⟩

/-- A channel that is made has no socket yet. -/
theorem links_of_mem_append {c c' : Channel} {i : SocketId}
    (h : ∃ e ∈ o.entries ++ [{ channel := c }], e.channel.id = c'.id ∧ e.socket = some i) :
    o.Links c' i := by
  obtain ⟨e, he, hlink⟩ := h
  rcases List.mem_append.mp he with he | he
  · exact ⟨e, he, hlink⟩
  · rw [List.mem_singleton.mp he] at hlink
    exact nomatch hlink.2

theorem lastSender_append {home : Nat} {entries entries' : List Entry}
    {senders more : List (Option Endpoint)} {c : Channel}
    (h : (⟨home, entries, senders⟩ : Directory.Core).lastSender c ≠ none) :
    (⟨home, entries', senders ++ more⟩ : Directory.Core).lastSender c ≠ none := by
  unfold Directory.Core.lastSender at h ⊢
  dsimp only at h ⊢
  split_ifs at h ⊢
  · have hlt : c.id < senders.length := by
      by_contra hge
      rw [List.getElem?_eq_none (Nat.not_lt.mp hge)] at h
      exact h rfl
    rwa [List.getElem?_append_left hlt]
  · exact absurd rfl h

/-- Where a channel gets a socket, no write comes to a lane that has sent something: whoever has a
write waiting there is linked already. -/
theorem Ordered.linked (h : o.Ordered) (hset : o.Settled) (hs : o.Sound) (hg : Grows o o')
    (hsent : o'.sendings = o.sendings) (hout : o'.outbox = o.outbox)
    (hheard : ∀ c, o.directory.lastSender c ≠ none → o'.directory.lastSender c ≠ none)
    {c : Channel} {id : SocketId} {sharing : Sharing} (hc : { channel := c } ∈ o.entries)
    (he : o'.entries = o.entries.map (linkEntry c id sharing o.listener)) :
    o'.Ordered ∧ o'.Settled := by
  constructor
  · refine h.of_grows hg hsent (by rw [hout]) (by rw [hout]) (fun w hw => ?_) hheard ?_
    · rw [he]
      exact owned_map (channel_linkEntry _ _ sharing _) (h.owned w (hout ▸ hw))
    · intro p hp hl w hw hlink
      rw [hout] at hw
      exact links_of_map_linkEntry hs.numbered hc he (hset p hp hl w hw) hlink
  · refine hset.of_grows h hg hsent (hout ▸ List.Subset.refl _) fun w _ hlink => ?_
    obtain ⟨i, hlink⟩ := hlink
    exact ⟨i, links_map_linkEntry hs.numbered hc he hlink⟩

/-- **Every move keeps what is sent in order.** -/
theorem Ordered.move (h : o.Ordered) (hset : o.Settled) (hs : o.Sound) (hm : Move o o') :
    o'.Ordered ∧ o'.Settled := by
  have hgrows := grows_move hm
  cases hm with
  | event he => exact ⟨h.event he, hset.event h he⟩
  | @passed o' p hpass hp hstay =>
    have hafter := h.passMoves hs hpass
    refine ⟨hafter.of_grows { Grows.refl o' with } rfl rfl List.filter_sublist
      (fun w hw => hafter.owned w (List.mem_filter.mp hw).1) (fun _ => id) fun _ _ _ _ _ => id, ?_⟩
    intro q _ _ w hw
    obtain ⟨hw, hpw⟩ := List.mem_filter.mp hw
    exact hp w hw hpw
  | opened next ho hnext =>
    refine ⟨h.of_grows hgrows rfl rfl (.refl _) h.owned (fun _ => id) fun _ _ _ _ _ => id, ?_⟩
    exact hset.of_grows h hgrows rfl (List.Subset.refl _) fun _ _ => id
  | closed ho =>
    constructor
    · exact h.of_grows hgrows rfl rfl (List.nil_sublist _) (fun w hw => nomatch hw) (fun _ => id)
        fun _ _ _ w hw => nomatch hw
    · exact fun _ _ _ w hw => nomatch hw
  | cleared ho =>
    constructor
    · exact h.of_grows hgrows rfl rfl (List.nil_sublist _) (fun w hw => nomatch hw) (fun _ => id)
        fun _ _ _ w hw => nomatch hw
    · exact fun _ _ _ w hw => nomatch hw
  | adopted t ht => exact ⟨{ h with }, hset⟩
  | moved t next ho hnext =>
    obtain ⟨hsame, hsame', hclosed, hclosed'⟩ := h.moved hset hs (t := t) ho hnext
    split_ifs
    · exact ⟨hclosed, hclosed'⟩
    · exact ⟨hsame, hsame'⟩
  | @enrolled c hh hid hd =>
    refine ⟨h.of_grows hgrows rfl rfl (.refl _) (fun w hw => ?_) (fun _ => lastSender_append)
      fun p hp _ w _ => links_of_mem_append, ?_⟩
    · obtain ⟨e, he, hc⟩ := h.owned w hw
      exact ⟨e, List.mem_append_left _ he, hc⟩
    · refine hset.of_grows h hgrows rfl (List.Subset.refl _) fun w _ hlink => ?_
      obtain ⟨i, e, he, hlink⟩ := hlink
      exact ⟨i, e, List.mem_append_left _ he, hlink⟩
  | joined sharing ho hc hid => exact h.linked hset hs hgrows rfl rfl (fun _ => id) hc rfl
  | connected next sharing ho hc hr hnext =>
    exact h.linked hset hs hgrows rfl rfl (fun _ => id) hc rfl
  | substituted next ho hs' hr hf hnext =>
    exact ⟨h.of_grows hgrows rfl rfl (.refl _)
      (fun w hw => owned_map (channel_relinkEntry _ _) (h.owned w hw)) (fun _ => id)
      fun p hp _ w _ hlink => links_of_relink (h.socket_ne hp) hlink,
      hset.of_grows h hgrows rfl (List.Subset.refl _) fun w _ => linked_map_relink _ _⟩
  | retained p => exact h.retain hset p
  | queued data call ho he hid hl => exact h.queued hset hs data call he hid hl
  | told => exact ⟨{ h with }, hset⟩

theorem Ordered.moves (h : o.Ordered) (hset : o.Settled) (hs : o.Sound) (hm : Moves o o') :
    o'.Ordered ∧ o'.Settled := by
  induction hm with
  | refl => exact ⟨h, hset⟩
  | tail hbefore hstep ih =>
    exact ih.1.move ih.2 (hs.moves hbefore) hstep

end Outline

end Switchboard
