import Switchboard.Proofs.Outline.Quiet
import Mathlib.Data.List.Chain
import Mathlib.Data.List.TakeWhile

/-!
# The pieces of writes

A write may go out in pieces, and the socket that its channel is linked to may change between them.
Over all sockets, the pieces of a write are its bytes from the first on, none left out and none
twice (`Pieced`): what waits knows how much of it has gone, whatever happens to the socket.

An outbound connection *carries* pieces as a chain (`Carries`): each goes on where the one before it
stopped, or, after the end of a write or when its channel has left, begins a later write.  Once the
connection has carried anything, no write comes to it of which a part goes out elsewhere after that.
So the rest of a write that was begun on another socket can only come to a connection that takes the
place of that socket.
-/

namespace Switchboard

open Net Settings Relation Directory

/-- The bytes of a write that are in some pieces. -/
def Piece.bytesOf (ticket : Nat) (ps : List Piece) : Bytes :=
  (ps.filter (·.write.ticket == ticket)).flatMap Piece.bytes

namespace Outline

variable {o o' : Outline} {id : SocketId}

/-- What has gone out since a socket first sent something. -/
def since (o : Outline) (id : SocketId) : List Piece :=
  o.sendings.dropWhile (·.socket != id)

/-- The second piece goes on where the first stopped, or is of a later write, where the first was
the last of its own or its channel has left. -/
def Follows (o : Outline) (p q : Piece) : Prop :=
  q.write = p.write.advance p.count ∨
    p.write.ticket < q.write.ticket ∧ (p.isLast = true ∨ o.Gone p.write.channel)

/-- **The socket is, or was, an outbound connection,** and the pieces that it has carried are a
chain with nothing between them of what it carries. -/
structure Carries (id : SocketId) (o : Outline) : Prop where
  given : id < o.nextSocket
  kind : ∀ n, (id, n) ∈ o.sockets → n.role = .outbound ∧ n.medium = .connection
  chain : (o.sendings.filter (·.socket == id)).IsChain o.Follows
  /-- While it is there, the rest of what it carried last waits. -/
  waits : o.Outgoing id → ∀ p ∈ (o.sendings.filter (·.socket == id)).getLast?,
    p.isLast = true ∨ o.Gone p.write.channel ∨ p.write.advance p.count ∈ o.outbox.writes
  alone : (o.since id).Pairwise fun p q =>
    p.write.ticket = q.write.ticket → q.socket = id → p.socket = id
  /-- While it is there, no rest of what went out elsewhere waits for it. -/
  closed : o.Outgoing id → ∀ p ∈ o.since id, p.socket ≠ id → ∀ w ∈ o.outbox.writes,
    p.write.ticket = w.ticket → ¬ o.Links w.channel id

/-- **The pieces of every write are its bytes from the first on,** and while an outbound socket is
there, a write that was begun on it goes on there. -/
structure Pieced (o : Outline) : Prop where
  waits : ∀ w ∈ o.outbox.writes, Piece.bytesOf w.ticket o.sendings = w.data.take w.offset
  whole : ∀ before p after, o.sendings = before ++ p :: after →
    Piece.bytesOf p.write.ticket before = p.write.data.take p.write.offset
  counted : ∀ p ∈ o.sendings, p.count ≤ p.write.remaining.length
  alike : ∀ p ∈ o.sendings, ∀ w ∈ o.outbox.writes, p.write.ticket = w.ticket →
    p.write.channel = w.channel ∧ p.write.data = w.data
  same : o.sendings.Pairwise fun p q => p.write.ticket = q.write.ticket →
    p.write.channel = q.write.channel ∧ p.write.data = q.write.data
  bound : ∀ p ∈ o.sendings, o.Outgoing p.socket → ∀ w ∈ o.outbox.writes,
    p.write.ticket = w.ticket → o.Links w.channel p.socket
  parted : o.sendings.Pairwise fun p q => p.write.ticket = q.write.ticket →
    p.socket ≠ q.socket → ¬ o.Outgoing p.socket
  carries : ∀ id n, (id, n) ∈ o.sockets → n.role = .outbound → n.medium = .connection →
    o.Carries id

/-! ### What stays -/

theorem Follows.of_grows (hg : Grows o o') {p q : Piece} (h : o.Follows p q) : o'.Follows p q :=
  h.imp_right fun hlater => ⟨hlater.1, hlater.2.imp_right (Gone.of_grows hg)⟩

theorem since_eq_nil : o.since id = [] ↔ ∀ p ∈ o.sendings, p.socket ≠ id := by
  simp [since, List.dropWhile_eq_nil_iff]

/-- A socket on which nothing went out carries nothing. -/
theorem Carries.of_unused (hid : id < o.nextSocket)
    (hkind : ∀ n, (id, n) ∈ o.sockets → n.role = .outbound ∧ n.medium = .connection)
    (hnone : ∀ p ∈ o.sendings, p.socket ≠ id) : o.Carries id := by
  have hfilter : o.sendings.filter (·.socket == id) = [] :=
    List.filter_eq_nil_iff.mpr fun p hp => by simpa using hnone p hp
  have hsince : o.since id = [] := since_eq_nil.mpr hnone
  refine ⟨hid, hkind, ?_, fun _ p hp => ?_, ?_, fun _ p hp => ?_⟩
  · rw [hfilter]
    exact .nil
  · rw [hfilter] at hp
    exact nomatch hp
  · rw [hsince]
    exact .nil
  · rw [hsince] at hp
    exact nomatch hp

/-! ### Quiet moves -/

theorem Carries.quiet (h : o.Carries id) (hp : o.Pieced) (hq : Quiet o o') : o'.Carries id := by
  have hold : o'.Outgoing id → o.Outgoing id := Outgoing.of_grows hq.grows h.given
  have hsince : o'.since id = o.since id := by
    unfold since
    rw [hq.sendings]
  refine ⟨Nat.lt_of_lt_of_le h.given hq.grows.next, fun n hn => ?_, ?_, fun hout p hlast => ?_, ?_,
    fun hout p hmem hne w hw ht hlink => ?_⟩
  · rcases hq.grows.sockets _ hn with hn | hnew
    · exact h.kind n hn
    · exact absurd h.given (Nat.not_lt.mpr hnew)
  · rw [hq.sendings]
    exact h.chain.imp fun _ _ => Follows.of_grows hq.grows
  · rw [hq.sendings] at hlast
    rcases h.waits (hold hout) p hlast with hdone | hgone | hwait
    · exact .inl hdone
    · exact .inr (.inl (hgone.of_grows hq.grows))
    · -- The rest stays as long as its channel does, for it is linked to the socket.
      obtain ⟨hmem, hid⟩ := List.mem_filter.mp (List.mem_of_getLast? hlast)
      obtain rfl := beq_iff_eq.mp hid
      have hlink := hp.bound p hmem (hold hout) _ hwait rfl
      exact .inr ((hq.stays p hmem hout _ hwait hlink).imp_right And.left)
  · rw [hsince]
    exact h.alone
  · -- A connection that has sent something gets no write that waited before.
    rw [hsince] at hmem
    obtain ⟨q, hmem', hid⟩ : ∃ q ∈ o.sendings, q.socket = id := by
      by_contra hnone
      rw [since_eq_nil.mpr fun q hq heq => hnone ⟨q, hq, heq⟩] at hmem
      exact nomatch hmem
    subst hid
    exact h.closed (hold hout) p hmem hne w (hq.writes hw) ht (hq.comes q hmem' hout w hw hlink)

theorem Pieced.quiet (h : o.Pieced) (ho : o.Ordered) (ho' : o'.Ordered) (hs' : o'.Sound)
    (hq : Quiet o o') : o'.Pieced := by
  have hold : ∀ {p : Piece}, p ∈ o.sendings → o'.Outgoing p.socket → o.Outgoing p.socket :=
    fun hp => Outgoing.of_grows hq.grows (ho.sent _ hp).1
  constructor
  · intro w hw
    rw [hq.sendings]
    exact h.waits w (hq.writes hw)
  · rw [hq.sendings]
    exact h.whole
  · rw [hq.sendings]
    exact h.counted
  · intro p hp w hw
    rw [hq.sendings] at hp
    exact h.alike p hp w (hq.writes hw)
  · rw [hq.sendings]
    exact h.same
  · intro p hp hout w hw ht
    rw [hq.sendings] at hp
    have hlink := h.bound p hp (hold hp hout) w (hq.writes hw) ht
    rcases hq.stays p hp hout w (hq.writes hw) hlink with hgone | ⟨-, hlink'⟩
    · obtain ⟨e, he, hc⟩ := ho'.owned w hw
      exact absurd hc (hgone.2 e he)
    · exact hlink'
  · rw [hq.sendings]
    refine h.parted.imp_of_mem fun hp _ hparted ht hne hout => ?_
    exact hparted ht hne (hold hp hout)
  · intro id n hn hr hm
    rcases hq.grows.sockets _ hn with hn' | hnew
    · exact (h.carries id n hn' hr hm).quiet h hq
    · -- A new socket has sent nothing.
      refine .of_unused (hs'.below _ hn) (fun n' hn' => ?_) fun p hp => ?_
      · obtain rfl := hs'.nature_eq hn hn'
        exact ⟨hr, hm⟩
      · rw [hq.sendings] at hp
        exact Nat.ne_of_lt (Nat.lt_of_lt_of_le (ho.sent p hp).1 hnew)

/-! ### Sending -/

/-- What waits after something was sent waited before and is another write, or it is the rest of the
write that was sent. -/
theorem Ordered.mem_writes_send (h : o.Ordered) {n : Nature} {before after : List Write} {w w' : Write}
    {count : Nat} (hw : o.outbox.writes = before ++ w :: after)
    (hw' : w' ∈ (o.send id n before w after count).outbox.writes) :
    w' ∈ o.outbox.writes ∧ w'.ticket ≠ w.ticket ∨ w' = w.advance count := by
  obtain ⟨hbefore, hafter⟩ := h.around hw
  rw [hw]
  rcases Outline.mem_writes_send hw' with hw' | hw' | rfl
  · exact .inl ⟨List.mem_append_left _ hw', Nat.ne_of_lt (hbefore w' hw')⟩
  · exact .inl ⟨List.mem_append_right _ (List.mem_cons_of_mem _ hw'),
      Nat.ne_of_gt (hafter w' hw')⟩
  · exact .inr rfl

/-- Another write than the one that is sent goes on waiting. -/
theorem mem_writes_send_of_ne {n : Nature} {before after : List Write} {w w' : Write} {count : Nat}
    (hw : o.outbox.writes = before ++ w :: after) (hw' : w' ∈ o.outbox.writes) (hne : w' ≠ w) :
    w' ∈ (o.send id n before w after count).outbox.writes := by
  rw [hw] at hw'
  unfold send
  dsimp only
  rw [List.append_assoc, List.mem_append, List.mem_append]
  rcases List.mem_append.mp hw' with hw' | hw'
  · exact .inl hw'
  · exact .inr (.inr ((List.mem_cons.mp hw').resolve_left hne))

/-- After a piece that is not the last, the rest of the write waits if the socket is for
connections. -/
theorem rest_mem_writes_send {n : Nature} (hm : n.medium = .connection) {before after : List Write}
    {w : Write} {count : Nat} (hcount : count ≤ w.remaining.length)
    (hlast : ¬ (⟨id, w, count⟩ : Piece).isLast = true) :
    w.advance count ∈ (o.send id n before w after count).outbox.writes := by
  have hne : count ≠ w.remaining.length := fun heq => hlast (beq_iff_eq.mpr heq)
  have hlt : count < w.remaining.length := by omega
  have hrest : ¬ ((w.advance count).remaining = [] ∨ n.medium ≠ .connection) := by
    rw [Write.remaining_advance, List.drop_eq_nil_iff, hm]
    simpa using hlt
  unfold send
  dsimp only
  rw [if_neg hrest]
  simp

theorem bytesOf_append (ticket : Nat) (ps qs : List Piece) :
    Piece.bytesOf ticket (ps ++ qs) = Piece.bytesOf ticket ps ++ Piece.bytesOf ticket qs := by
  unfold Piece.bytesOf
  rw [List.filter_append, List.flatMap_append]

theorem bytesOf_snoc (ticket : Nat) (ps : List Piece) (p : Piece) :
    Piece.bytesOf ticket (ps ++ [p]) =
      Piece.bytesOf ticket ps ++ if p.write.ticket = ticket then p.bytes else [] := by
  rw [bytesOf_append]
  unfold Piece.bytesOf
  by_cases ht : p.write.ticket = ticket <;> simp [ht]

/-- The data up to where a write has got after some more bytes. -/
theorem take_advance {w : Write} {count : Nat} (hcount : count ≤ w.remaining.length) :
    w.data.take (w.advance count).offset =
      w.data.take w.offset ++ w.remaining.take count := by
  change w.data.take (w.offset + min count w.remaining.length) = _
  rw [Nat.min_eq_left hcount, List.take_add]
  rfl

/-- A write is sent on the outbound socket to which its channel is linked, if there is one. -/
theorem Outgoing.eq_of_links (hs : o.Sound) {n : Nature} {c : Channel}
    (hlink : o.Links c id ∨ n.role = .accepted ∧ ∃ l, o.listener = some l ∧ o.Links c l)
    {i : SocketId} (hi : o.Outgoing i) (hc : o.Links c i) : i = id := by
  rcases hlink with hlink | ⟨-, l, hl, hlink⟩
  · exact hc.unique hs hlink
  · exact absurd (hc.unique hs hlink) (hi.ne_listener hs hl)

section Send

variable {n : Nature} {before after : List Write} {w : Write} {count : Nat}

theorem since_send (i : SocketId) : (o.send id n before w after count).since i =
    if o.since i = [] then (if id = i then [⟨id, w, count⟩] else [])
    else o.since i ++ [⟨id, w, count⟩] := by
  unfold since
  change (o.sendings ++ [_]).dropWhile _ = _
  rw [List.dropWhile_append]
  by_cases hnone : o.sendings.dropWhile (·.socket != i) = []
  · rw [if_pos hnone, if_pos (List.isEmpty_iff.mpr hnone)]
    by_cases hid : id = i <;> simp [hid]
  · rw [if_neg hnone, if_neg fun hempty => hnone (List.isEmpty_iff.mp hempty)]

theorem mem_since_send {i : SocketId} {p : Piece}
    (h : p ∈ (o.send id n before w after count).since i) : p ∈ o.since i ∨ p = ⟨id, w, count⟩ := by
  rw [since_send] at h
  split_ifs at h
  · exact .inr (List.mem_singleton.mp h)
  · exact nomatch h
  · exact (List.mem_append.mp h).imp_right List.mem_singleton.mp

/-- **What an outbound connection sends goes on from the last piece that it carried.** -/
theorem Carries.follows_last (h : o.Carries id) (hp : o.Pieced) (ho : o.Ordered)
    (hn : (id, n) ∈ o.sockets) (hw : o.outbox.writes = before ++ w :: after)
    (hlink : o.Links w.channel id ∨
      n.role = .accepted ∧ ∃ l, o.listener = some l ∧ o.Links w.channel l)
    (hlane : n.role ≠ .accepted → ∀ w' ∈ before, o.Links w'.channel id →
      w'.channel.remote.isMask = true ∧ o.directory.lastSender w'.channel = none)
    (count : Nat) {p : Piece} (hlast : p ∈ (o.sendings.filter (·.socket == id)).getLast?) :
    o.Follows p ⟨id, w, count⟩ := by
  obtain ⟨hr, -⟩ := h.kind n hn
  have hout : o.Outgoing id := ⟨n, hn, hr⟩
  have hnot : n.role ≠ .accepted := fun hacc => nomatch hr.symm.trans hacc
  have hlink' : o.Links w.channel id := hlink.resolve_right fun hacc => hnot hacc.1
  have hmem : w ∈ o.outbox.writes := hw ▸ List.mem_append_right _ List.mem_cons_self
  obtain ⟨hsent, hsocket⟩ := List.mem_filter.mp (List.mem_of_getLast? hlast)
  obtain rfl : p.socket = id := beq_iff_eq.mp hsocket
  have hle : p.write.ticket ≤ w.ticket := ho.lane p hsent hout.lane w hmem hlink'
  rcases h.waits hout p hlast with hdone | hgone | hwait
  · have hne := ho.gone p hsent hdone w hmem
    have hlt : p.write.ticket < w.ticket := by omega
    exact .inr ⟨hlt, .inl hdone⟩
  · -- A write that waits is of a channel that is there, so it is not the one of the last piece.
    have hne : p.write.ticket ≠ w.ticket := by
      intro ht
      obtain ⟨e, he, hc⟩ := ho.owned w hmem
      exact hgone.2 e he (hc.trans (hp.alike p hsent w hmem ht).1.symm)
    have hlt : p.write.ticket < w.ticket := by omega
    exact .inr ⟨hlt, .inr hgone⟩
  · -- What waits of the last piece is the oldest write of the socket, and that is sent.
    refine .inl ?_
    have hrest := hwait
    rw [hw] at hrest
    rcases List.mem_append.mp hrest with hbefore | hrest
    · obtain ⟨hmask, hnone⟩ := hlane hnot _ hbefore (hp.bound p hsent hout _ hwait rfl)
      exact absurd hnone (ho.voiced _ hwait hmask)
    · rcases List.mem_cons.mp hrest with heq | hrest
      · exact heq.symm
      · have hlt : w.ticket < p.write.ticket := (ho.around hw).2 (p.write.advance p.count) hrest
        omega

theorem Carries.send {i : SocketId} (h : o.Carries i) (hp : o.Pieced) (ho : o.Ordered) (hs : o.Sound)
    (hn : (id, n) ∈ o.sockets) (hw : o.outbox.writes = before ++ w :: after)
    (hlink : o.Links w.channel id ∨
      n.role = .accepted ∧ ∃ l, o.listener = some l ∧ o.Links w.channel l)
    (hlane : n.role ≠ .accepted → ∀ w' ∈ before, o.Links w'.channel id →
      w'.channel.remote.isMask = true ∧ o.directory.lastSender w'.channel = none)
    (hcount : count ≤ w.remaining.length) : (o.send id n before w after count).Carries i := by
  have hmem : w ∈ o.outbox.writes := hw ▸ List.mem_append_right _ List.mem_cons_self
  have hfilter : (o.send id n before w after count).sendings.filter (·.socket == i) =
      o.sendings.filter (·.socket == i) ++ if id = i then [⟨id, w, count⟩] else [] := by
    change (o.sendings ++ [_]).filter _ = _
    rw [List.filter_append]
    by_cases hid : id = i <;> simp [hid]
  refine ⟨h.given, h.kind, ?_, fun hout p hlast => ?_, ?_, fun hout p hmem' hne w' hw' ht hl => ?_⟩
  · rw [hfilter]
    split_ifs with hid
    · subst hid
      refine h.chain.append (.singleton _) fun p hlast q hq => ?_
      obtain rfl : q = ⟨id, w, count⟩ := by simpa using hq.symm
      exact h.follows_last hp ho hn hw hlink hlane count hlast
    · rw [List.append_nil]
      exact h.chain
  · -- The rest of the last piece waits: of the new one, or of the old one if another socket sends.
    rw [hfilter] at hlast
    by_cases hid : id = i
    · subst hid
      rw [if_pos rfl, List.getLast?_concat] at hlast
      obtain rfl := Option.some.inj hlast
      by_cases hdone : (⟨id, w, count⟩ : Piece).isLast = true
      · exact .inl hdone
      · exact .inr (.inr (rest_mem_writes_send (h.kind n hn).2 hcount hdone))
    · rw [if_neg hid, List.append_nil] at hlast
      refine (h.waits hout p hlast).imp_right (Or.imp_right fun hwait => ?_)
      obtain ⟨hsent, hsocket⟩ := List.mem_filter.mp (List.mem_of_getLast? hlast)
      obtain rfl := beq_iff_eq.mp hsocket
      have hlink' := hp.bound p hsent hout _ hwait rfl
      refine mem_writes_send_of_ne hw hwait fun heq => ?_
      rw [heq] at hlink'
      exact hid (Outgoing.eq_of_links hs hlink hout hlink').symm
  · rw [since_send]
    split_ifs with hnone hid
    · exact List.pairwise_singleton _ _
    · exact .nil
    · refine pairwise_snoc.mpr ⟨h.alone, fun p hp' ht hid => ?_⟩
      obtain rfl : id = i := hid
      -- A write of which a part went out elsewhere in between does not wait for the connection.
      by_contra hne
      obtain ⟨hr, -⟩ := h.kind n hn
      refine h.closed ⟨n, hn, hr⟩ p hp' hne w hmem ht (hlink.resolve_right fun hacc => ?_)
      exact nomatch hr.symm.trans hacc.1
  · rcases ho.mem_writes_send hw hw' with ⟨hw', hne'⟩ | rfl
    · rcases mem_since_send hmem' with hmem' | rfl
      · exact h.closed hout p hmem' hne w' hw' ht hl
      · exact hne' ht.symm
    · -- The rest of what is sent is for the socket that sends it.
      obtain rfl : i = id := Outgoing.eq_of_links hs hlink hout hl
      rcases mem_since_send hmem' with hmem' | rfl
      · exact h.closed hout p hmem' hne w hmem ht hl
      · exact hne rfl

theorem Pieced.send (h : o.Pieced) (ho : o.Ordered) (hs : o.Sound) (hn : (id, n) ∈ o.sockets)
    (hw : o.outbox.writes = before ++ w :: after)
    (hlink : o.Links w.channel id ∨
      n.role = .accepted ∧ ∃ l, o.listener = some l ∧ o.Links w.channel l)
    (hlane : n.role ≠ .accepted → ∀ w' ∈ before, o.Links w'.channel id →
      w'.channel.remote.isMask = true ∧ o.directory.lastSender w'.channel = none)
    (hcount : count ≤ w.remaining.length) : (o.send id n before w after count).Pieced := by
  have hmem : w ∈ o.outbox.writes := hw ▸ List.mem_append_right _ List.mem_cons_self
  have hone : ∀ {p : Piece}, p ∈ (o.send id n before w after count).sendings →
      p ∈ o.sendings ∨ p = ⟨id, w, count⟩ := fun hp =>
    (List.mem_append.mp hp).imp_right List.mem_singleton.mp
  constructor
  · -- What waits of the write that is sent has got further by what goes out.
    intro w' hw'
    change Piece.bytesOf _ (o.sendings ++ [⟨id, w, count⟩]) = _
    rw [bytesOf_snoc]
    rcases ho.mem_writes_send hw hw' with ⟨hw', hne⟩ | rfl
    · rw [if_neg fun ht => hne ht.symm, List.append_nil]
      exact h.waits w' hw'
    · change Piece.bytesOf w.ticket o.sendings ++ (if w.ticket = w.ticket then _ else _) = _
      rw [if_pos rfl, h.waits w hmem]
      exact (take_advance hcount).symm
  · -- The new piece stands at the end, and it begins where its write had got.
    intro b p a heq
    rcases List.eq_nil_or_concat a with rfl | ⟨a, q, rfl⟩
    · obtain ⟨rfl, hp⟩ := List.append_inj' heq rfl
      obtain rfl := (List.cons.inj hp).1
      exact h.waits w hmem
    · rw [List.concat_eq_append, ← List.cons_append, ← List.append_assoc] at heq
      exact h.whole b p a (List.append_inj' heq rfl).1
  · intro p hp
    rcases hone hp with hp | rfl
    · exact h.counted p hp
    · exact hcount
  · intro p hp w' hw' ht
    rcases ho.mem_writes_send hw hw' with ⟨hw', hne⟩ | rfl
    · rcases hone hp with hp | rfl
      · exact h.alike p hp w' hw' ht
      · exact absurd ht.symm hne
    · rcases hone hp with hp | rfl
      · exact h.alike p hp w hmem ht
      · exact ⟨rfl, rfl⟩
  · exact pairwise_snoc.mpr ⟨h.same, fun p hp ht => h.alike p hp w hmem ht⟩
  · intro p hp hout w' hw' ht
    rcases ho.mem_writes_send hw hw' with ⟨hw', hne⟩ | rfl
    · rcases hone hp with hp | rfl
      · exact h.bound p hp hout w' hw' ht
      · exact absurd ht.symm hne
    · rcases hone hp with hp | rfl
      · exact h.bound p hp hout w hmem ht
      · obtain ⟨n', hn', hr⟩ := hout
        obtain rfl := hs.nature_eq hn hn'
        exact hlink.resolve_right fun hacc => nomatch hr.symm.trans hacc.1
  · -- As long as the socket of an earlier piece is there, the write goes out on it.
    refine pairwise_snoc.mpr ⟨h.parted, fun p hp ht hne hout => hne ?_⟩
    exact Outgoing.eq_of_links hs hlink hout (h.bound p hp hout w hmem ht)
  · intro i n' hn' hr hm
    exact (h.carries i n' hn' hr hm).send h ho hs hn hw hlink hlane hcount

end Send

theorem Carries.passMove (h : o.Carries id) (hp : o.Pieced) (ho : o.Ordered) (hs : o.Sound)
    (hm : PassMove o o') : o'.Carries id := by
  cases hm with
  | event he => exact h.quiet hp (quiet_event he)
  | sent count hn hm hw hlink hchannel hlane hcount =>
    exact h.send hp ho hs hn hw hlink hlane hcount

theorem Pieced.passMove (h : o.Pieced) (ho : o.Ordered) (hs : o.Sound) (hm : PassMove o o') :
    o'.Pieced := by
  cases hm with
  | event he => exact h.quiet ho (ho.event he) (hs.event he) (quiet_event he)
  | sent count hn hm hw hlink hchannel hlane hcount => exact h.send ho hs hn hw hlink hlane hcount

theorem Pieced.passMoves (h : o.Pieced) (ho : o.Ordered) (hs : o.Sound) (hm : PassMoves o o') :
    o'.Pieced := by
  induction hm with
  | refl => exact h
  | tail hbefore hstep ih =>
    exact ih.passMove (ho.passMoves hs hbefore) (hs.passMoves hbefore) hstep

theorem Carries.passMoves (h : o.Carries id) (hp : o.Pieced) (ho : o.Ordered) (hs : o.Sound)
    (hm : PassMoves o o') : o'.Carries id := by
  induction hm with
  | refl => exact h
  | tail hbefore hstep ih =>
    exact ih.passMove (hp.passMoves ho hs hbefore) (ho.passMoves hs hbefore)
      (hs.passMoves hbefore) hstep

/-! ### Operations -/

theorem bytesOf_eq_nil {t : Nat} {ps : List Piece} (h : ∀ p ∈ ps, p.write.ticket ≠ t) :
    Piece.bytesOf t ps = [] := by
  unfold Piece.bytesOf
  rw [List.filter_eq_nil_iff.mpr fun p hp => by simpa using h p hp, List.flatMap_nil]

section Queued

variable {c : Channel} {data : Bytes} {call : Option Nat}

theorem Carries.queued (h : o.Carries id) (ho : o.Ordered) :
    Carries id { o with outbox := o.outbox.push c data call } where
  given := h.given
  kind := h.kind
  chain := h.chain
  waits hout p hlast :=
    (h.waits hout p hlast).imp_right (Or.imp_right (List.mem_append_left _))
  alone := h.alone
  closed hout p hp hne w hw ht := by
    rcases List.mem_append.mp hw with hw | hw
    · exact h.closed hout p hp hne w hw ht
    · rw [List.mem_singleton.mp hw] at ht
      have hsent : p ∈ o.sendings := List.dropWhile_subset _ hp
      have hlt := (ho.sent p hsent).2
      change p.write.ticket = o.outbox.nextTicket at ht
      omega

theorem Pieced.queued (h : o.Pieced) (ho : o.Ordered) :
    Pieced { o with outbox := o.outbox.push c data call } := by
  -- No piece is of the new write.
  have hnew : ∀ p ∈ o.sendings, p.write.ticket ≠ o.outbox.nextTicket :=
    fun p hp => Nat.ne_of_lt (ho.sent p hp).2
  constructor
  · intro w hw
    rcases List.mem_append.mp hw with hw | hw
    · exact h.waits w hw
    · rw [List.mem_singleton.mp hw]
      exact bytesOf_eq_nil hnew
  · exact h.whole
  · exact h.counted
  · intro p hp w hw ht
    rcases List.mem_append.mp hw with hw | hw
    · exact h.alike p hp w hw ht
    · rw [List.mem_singleton.mp hw] at ht
      exact absurd ht (hnew p hp)
  · exact h.same
  · intro p hp hout w hw ht
    rcases List.mem_append.mp hw with hw | hw
    · exact h.bound p hp hout w hw ht
    · rw [List.mem_singleton.mp hw] at ht
      exact absurd ht (hnew p hp)
  · exact h.parted
  · exact fun i n hn hr hm => (h.carries i n hn hr hm).queued ho

end Queued

/-- **Every move keeps the pieces of every write together,** and what an outbound connection carries
a chain. -/
theorem Pieced.move (h : o.Pieced) (hset : o.Settled) (ho : o.Ordered) (hs : o.Sound)
    (hm : Move o o') : o'.Pieced ∧ ∀ id, o.Carries id → o'.Carries id := by
  have ho' := (ho.move hset hs hm).1
  have hs' := hs.move hm
  rcases quiet_move hset ho hs hm with hq | ⟨o₁, p, hpass, rfl, hq⟩ | ⟨c, data, call, rfl⟩
  · exact ⟨h.quiet ho ho' hs' hq, fun id hc => hc.quiet h hq⟩
  · have hp := h.passMoves ho hs hpass
    refine ⟨hp.quiet (ho.passMoves hs hpass) ho' hs' hq, fun id hc => ?_⟩
    exact (hc.passMoves h ho hs hpass).quiet hp hq
  · exact ⟨h.queued ho, fun id hc => hc.queued ho⟩

theorem Pieced.moves (h : o.Pieced) (hset : o.Settled) (ho : o.Ordered) (hs : o.Sound)
    (hm : Moves o o') : o'.Pieced ∧ ∀ id, o.Carries id → o'.Carries id := by
  induction hm with
  | refl => exact ⟨h, fun _ => id⟩
  | tail hbefore hstep ih =>
    obtain ⟨ho', hset'⟩ := ho.moves hset hs hbefore
    obtain ⟨hp, hc⟩ := ih.1.move hset' ho' (hs.moves hbefore) hstep
    exact ⟨hp, fun id h => hc id (ih.2 id h)⟩

end Outline

end Switchboard
