import Switchboard.Proofs.Calls.Turns

/-!
# Calls under way

Between the write of a blocking call and its reply, the call is *under way* (`Underway`): the last
of its write has left, nothing has come for it yet, and the channel still waits at the socket of the
write, or on the listener that came after it.  Only where the transport has changed since nothing is
known.

When a buffer comes, it comes through a socket that serves the channel, so it came through that of
the write or one that counts for it (`Underway.through`).  The `Origin` of a reply tells how it
came. Every turn keeps it so that calls are under way and replies have an origin (`Explained.turn`).

For that sockets and channels are to be told apart by their numbers for all time, also those that
have gone; they are what a `Past` holds.
-/

namespace Switchboard

open Net Settings Relation Directory

/-! ### What was there -/

/-- The sockets and the channels that there were so far. -/
structure Past where
  sockets : SocketId × Nature → Prop
  channels : Channel → Prop

namespace Past

/-- The later past has what the earlier one has. -/
structure Within (p p' : Past) : Prop where
  sockets : ∀ s, p.sockets s → p'.sockets s
  channels : ∀ c, p.channels c → p'.channels c

theorem Within.refl (p : Past) : p.Within p :=
  ⟨fun _ => id, fun _ => id⟩

theorem Within.trans {p p' p'' : Past} (h : p.Within p') (h' : p'.Within p'') : p.Within p'' :=
  ⟨fun s hs => h'.sockets s (h.sockets s hs), fun c hc => h'.channels c (h.channels c hc)⟩

/-- The past with what there is now. -/
def and (p : Past) (o : Outline) : Past where
  sockets s := p.sockets s ∨ s ∈ o.sockets
  channels c := p.channels c ∨ ∃ e ∈ o.entries, e.channel = c

theorem within_and (p : Past) (o : Outline) : p.Within (p.and o) :=
  ⟨fun _ => .inl, fun _ => .inl⟩

/-- **Of what there was and is, everything has a number of its own.** -/
structure Covers (p : Past) (o : Outline) : Prop where
  sockets : ∀ s ∈ o.sockets, p.sockets s
  given : ∀ s, p.sockets s → s.1 < o.nextSocket
  nature : ∀ s s', p.sockets s → p.sockets s' → s.1 = s'.1 → s = s'
  channels : ∀ e ∈ o.entries, p.channels e.channel
  made : ∀ c, p.channels c → c.home = o.directory.home ∧ c.id < o.directory.senders.length
  own : ∀ c c', p.channels c → p.channels c' → c.id = c'.id → c = c'

/-- What is new has a new number, so the past may be extended by it. -/
theorem Covers.grow {p : Past} {o o' : Outline} (h : p.Covers o) (hg : Outline.Grows o o')
    (hs : o'.Sound) : (p.and o').Covers o' := by
  have hsockets : ∀ s, (p.and o').sockets s →
      p.sockets s ∨ s ∈ o'.sockets ∧ o.nextSocket ≤ s.1 := by
    rintro s (hold | hnow)
    · exact .inl hold
    · exact (hg.sockets s hnow).imp (h.sockets s) fun hnew => ⟨hnow, hnew⟩
  have hchannels : ∀ c, (p.and o').channels c → p.channels c ∨
      ∃ e ∈ o'.entries, e.channel = c ∧ o.directory.senders.length ≤ c.id := by
    rintro c (hold | ⟨e, he, rfl⟩)
    · exact .inl hold
    · rcases hg.channels e he with ⟨e', he', hc⟩ | hnew
      · exact .inl (hc ▸ h.channels e' he')
      · exact .inr ⟨e, he, rfl, hnew⟩
  constructor
  · exact fun s hs => .inr hs
  · intro s hp
    rcases hsockets s hp with hold | ⟨hnow, -⟩
    · exact Nat.lt_of_lt_of_le (h.given s hold) hg.next
    · exact hs.below s hnow
  · intro s s' hp hp' heq
    rcases hsockets s hp with hold | ⟨hnow, hnew⟩ <;>
      rcases hsockets s' hp' with hold' | ⟨hnow', hnew'⟩
    · exact h.nature s s' hold hold' heq
    · exact absurd (heq ▸ h.given s hold) (Nat.not_lt.mpr hnew')
    · exact absurd (heq ▸ h.given s' hold') (Nat.not_lt.mpr hnew)
    · exact hs.eq_of_fst_eq hnow hnow' heq
  · exact fun e he => .inr ⟨e, he, rfl⟩
  · intro c hp
    rcases hchannels c hp with hold | ⟨e, he, rfl, -⟩
    · obtain ⟨hhome, hlt⟩ := h.made c hold
      exact ⟨hhome.trans hg.home.symm, Nat.lt_of_lt_of_le hlt hg.senders⟩
    · exact ⟨hs.numbered.home e he, hs.numbered.below e he⟩
  · intro c c' hp hp' heq
    rcases hchannels c hp with hold | ⟨e, he, rfl, hnew⟩ <;>
      rcases hchannels c' hp' with hold' | ⟨e', he', rfl, hnew'⟩
    · exact h.own c c' hold hold' heq
    · exact absurd (heq ▸ (h.made c hold).2) (Nat.not_lt.mpr hnew')
    · exact absurd (heq ▸ (h.made c' hold').2) (Nat.not_lt.mpr hnew)
    · rw [hs.numbered.eq_of_id_eq he he' heq]

end Past

/-! ### From the write to the reply -/

/-- The last of the write of a call, as it left. -/
structure Departure where
  socket : SocketId
  nature : Nature
  target : Endpoint
  write : Write
  count : Nat

namespace Departure

/-- How the journal shows it. -/
def event (d : Departure) : Traffic :=
  .sent d.socket (some d.target) d.write d.count

/-- **It is the last of the write of a call of the channel,** and goes to an endpoint that the
channel matches. -/
structure Completes (d : Departure) (c : Channel) (g : Nat) : Prop where
  channel : d.write.channel = c
  call : d.write.call = some g
  last : d.count = d.write.remaining.length ∨ d.nature.medium = .datagram
  target : c.remote.tier? d.target ≠ none
  outbound : c.direction = .outbound → d.nature.role = .outbound

end Departure

/-- How a reply came, with what happened between the write and it, and before.  The latest comes
first. -/
structure Origin where
  sent : Departure
  readOn : SocketId
  reader : Nature
  sender : Endpoint
  between : List Traffic
  earlier : List Traffic

namespace Origin

/-- **Through which socket a reply comes:** through that of the write, through another connection
that was taken in, or through the listener that came after the one of the write.  Nothing is said
where the transport changed in between; `changed` is what the journals showed when it did. -/
inductive Through (changed : List Traffic → Prop) (a : Origin) : Prop
  | same (h : a.readOn = a.sent.socket)
  | taken (hw : a.sent.nature.role = .accepted) (hr : a.reader.role = .accepted)
  | moved (hw : a.sent.nature.role = .listener) (hr : a.reader.role = .listener)
      (h : Traffic.closed a.sent.socket ∈ a.between)
  | changed (part : List Traffic) (hpart : part <:+ a.between)
      (h : changed (part ++ a.sent.event :: a.earlier))

/-- **The journal shows that the reply of a call came so.** -/
structure Explains (changed : List Traffic → Prop) (a : Origin) (journal : List Traffic)
    (c : Channel) (g : Nat) (data : Bytes) : Prop where
  journal : .received a.readOn (some a.sender) data (.caller c) ::
    (a.between ++ a.sent.event :: a.earlier) <:+ journal
  completes : a.sent.Completes c g
  sender : c.remote.tier? a.sender ≠ none
  /-- It is the first buffer for a caller of the channel. -/
  next : ∀ t ∈ a.between, t.answered? ≠ some c
  through : a.Through changed

variable {changed changed' : List Traffic → Prop} {a : Origin} {journal journal' : List Traffic}
  {c : Channel} {g : Nat} {data : Bytes}

theorem Through.mono (h : a.Through changed) (hsub : ∀ j, changed j → changed' j) :
    a.Through changed' := by
  cases h with
  | same h => exact .same h
  | taken hw hr => exact .taken hw hr
  | moved hw hr h => exact .moved hw hr h
  | changed part hpart h => exact .changed part hpart (hsub _ h)

/-- What happens later does not change where a reply came from. -/
theorem Explains.later (h : a.Explains changed journal c g data) (hj : journal <:+ journal')
    (hsub : ∀ j, changed j → changed' j) : a.Explains changed' journal' c g data :=
  { h with
    journal := h.journal.trans hj
    through := h.through.mono hsub }

end Origin

/-- Sockets that carry data for the channels on the listener, over one transport, have the same
role. -/
theorem Nature.role_eq_of_suits {t : Transport} {n n' : Nature} (hn : n.Suits t) (hn' : n'.Suits t)
    (hp : n.Proper) (hp' : n'.Proper) (hm : n.medium ≠ .acceptor) (hm' : n'.medium ≠ .acceptor)
    (hr : n.role ≠ .outbound) (hr' : n'.role ≠ .outbound) : n.role = n'.role := by
  have hkind : ∀ {n : Nature}, n.Suits t → n.Proper → n.medium ≠ .acceptor → n.role ≠ .outbound →
      n.role = match t with | .datagram => .listener | .stream => .accepted := by
    intro n hn hp hm hr
    obtain ⟨role, medium, farEnd⟩ := n
    cases role <;> cases t <;> simp_all [Nature.Suits, Nature.Proper, Role.medium]
  rw [hkind hn hp hm hr, hkind hn' hp' hm' hr']

namespace Exchange

open Outline

variable {ν : Type} {x y : Exchange ν} {changed : List Traffic → Prop} {p : Past} {c : Channel}
  {g : Nat}

/-! ### Calls under way -/

/-- The transport changed when the journal was this one. -/
def Changes (x y : Exchange ν) (journal : List Traffic) : Prop :=
  y.profile.transport ≠ x.profile.transport ∧ journal = x.journal

/-- **How the channel of an entry stands to the socket of a write that left,** with what happened
since: the socket serves it, or the channel is on the listener that came after it. -/
inductive StillReached (o : Outline) (d : Departure) (e : Entry) (since : List Traffic) : Prop
  | served (hmem : (d.socket, d.nature) ∈ o.sockets) (h : o.Serves (d.socket, d.nature) e)
  | home (hr : d.nature.role ≠ .outbound) (hsuits : d.nature.Suits o.transport)
      (hclosed : Traffic.closed d.socket ∈ since) {l : SocketId} (hl : o.listener = some l)
      (h : e.socket = some l)

/-- **The write of a call has left, and nothing has come for it yet.**  The channel still waits at
its socket, unless the transport has changed since. -/
structure Underway (changed : List Traffic → Prop) (x : Exchange ν) (c : Channel) (g : Nat)
    (d : Departure) (since earlier : List Traffic) : Prop where
  journal : x.journal = since ++ d.event :: earlier
  completes : d.Completes c g
  next : ∀ t ∈ since, t.answered? ≠ some c
  medium : d.nature.medium ≠ .acceptor
  proper : d.nature.Proper
  stands : (∃ part, part <:+ since ∧ changed (part ++ d.event :: earlier)) ∨
    ∃ e ∈ x.directory.entries, e.channel = c ∧ StillReached x.outline d e since

/-- **The journal accounts for what is in a box of the channel:** for the call that awaits its
reply, and for every reply. -/
structure Accounts (p : Past) (changed : List Traffic → Prop) (x : Exchange ν) (c : Channel)
    (b : CallBox) : Prop where
  awaiting : ∀ g, b.pending = .awaiting g → ∃ d since earlier,
    p.sockets (d.socket, d.nature) ∧ Underway changed x c g d since earlier
  replies : ∀ r ∈ b.replies, ∃ a : Origin, p.sockets (a.sent.socket, a.sent.nature) ∧
    p.sockets (a.readOn, a.reader) ∧ a.Explains changed x.journal c r.1 r.2

/-- **Everything has a number of its own, and the journal accounts for all calls.** -/
structure Explained (p : Past) (changed : List Traffic → Prop) (x : Exchange ν) : Prop where
  covers : p.Covers x.outline
  boxes : ∀ c, p.channels c → Accounts p changed x c (x.directory.call c)

/-! ### Shifts -/

/-- Who is on the listener stays there, if it still waits. -/
theorem Shift.exists_listener (hx : x.outline.Sound) (hy : y.outline.Sound) (hxy : Shift x y)
    {e e' : Entry} (he : e ∈ x.directory.entries) (he' : e' ∈ y.directory.entries)
    (hc : e'.channel = e.channel) (ha : y.directory.isAwaiting e.channel = true) {l : SocketId}
    (hl : x.outline.listener = some l) (hlink : e.socket = some l) :
    ∃ l', y.outline.listener = some l' ∧ e'.socket = some l' := by
  have hwas : x.isOpen = true := by
    by_contra hclosed
    rw [Bool.not_eq_true] at hclosed
    rw [(hx.closed hclosed).2.1] at hl
    exact nomatch hl
  have hopen : y.isOpen = true := by
    by_contra hclosed
    rw [Bool.not_eq_true] at hclosed
    rw [hxy.shut hwas hclosed e he] at ha
    exact nomatch ha
  obtain ⟨l', hl'⟩ := Option.ne_none_iff_exists'.mp (hy.opened hopen)
  exact ⟨l', hl', (hxy.links.home e he e' he' hc l hl hlink).trans hl'⟩

/-- **A channel that waits on goes on waiting at the socket of its write,** as long as the transport
stays. -/
theorem StillReached.shift (hx : x.outline.Sound) (hy : y.outline.Sound) (hxy : Shift x y)
    (ht : y.profile.transport = x.profile.transport) {since' : List Traffic}
    (hs : ∀ s ∈ x.outline.sockets, s ∈ y.outline.sockets ∨ Traffic.closed s.1 ∈ since')
    {d : Departure} {e : Entry} (he : e ∈ x.directory.entries)
    (ha : y.directory.isAwaiting e.channel = true) {since : List Traffic}
    (h : StillReached x.outline d e since) :
    ∃ e' ∈ y.directory.entries, e'.channel = e.channel ∧
      StillReached y.outline d e' (since' ++ since) := by
  have hholds := hxy.holds e he ha
  obtain ⟨e', he', hc, -⟩ := hxy.holds e he ha
  have hsuits : d.nature.Suits x.outline.transport → d.nature.Suits y.outline.transport := by
    rw [show y.outline.transport = x.outline.transport from ht]
    exact id
  refine ⟨e', he', hc, ?_⟩
  cases h with
  | served hmem hserves =>
    by_cases hstays : (d.socket, d.nature) ∈ y.outline.sockets
    · exact .served hstays (hserves.kept hxy.links hy he he' hc hstays)
    · have hclosed := (hs _ hmem).resolve_left hstays
      rcases hserves.outbound_or_home hx hmem with ⟨hr, hlink⟩ | ⟨hr, l, hl, hlink⟩
      · -- An outbound socket under a channel that waits would have stayed.
        have hne : d.nature.role ≠ .listener := by
          rw [show d.nature.role = .outbound from hr]
          decide
        exact absurd (hholds.mem_sockets hx hy hxy.grows ht hmem hlink hne) hstays
      · obtain ⟨l', hl', hlink'⟩ := hxy.exists_listener hx hy he he' hc ha hl hlink
        exact .home hr (hsuits (hx.suits _ hmem)) (List.mem_append_left _ hclosed) hl' hlink'
  | home hr hs hclosed hl hlink =>
    obtain ⟨l', hl', hlink'⟩ := hxy.exists_listener hx hy he he' hc ha hl hlink
    exact .home hr (hsuits hs) (List.mem_append_right _ hclosed) hl' hlink'

/-- **A call that waits on stays under way.** -/
theorem Underway.shift {d : Departure} {since earlier : List Traffic}
    (h : Underway changed x c g d since earlier) (hx : x.outline.Sound) (hy : y.outline.Sound)
    (hxy : Shift x y) (ha : y.directory.isAwaiting c = true) : ∃ since',
      Underway (fun j => changed j ∨ Changes x y j) y c g d since' earlier := by
  obtain ⟨since', hj, hnone, hs⟩ := hxy.logged
  refine ⟨since' ++ since, ?_, h.completes, fun t ht => ?_, h.medium, h.proper, ?_⟩
  · rw [hj, h.journal, List.append_assoc]
  · rcases List.mem_append.mp ht with ht | ht
    · simp [hnone t ht]
    · exact h.next t ht
  · rcases h.stands with ⟨part, hpart, hchanged⟩ | ⟨e, he, rfl, hstill⟩
    · exact .inl ⟨part, hpart.trans (List.suffix_append _ _), .inl hchanged⟩
    · by_cases ht : y.profile.transport = x.profile.transport
      · obtain ⟨e', he', hc, hstill'⟩ := hstill.shift hx hy hxy ht hs he ha
        exact .inr ⟨e', he', hc, hstill'⟩
      · exact .inl ⟨since, List.suffix_append _ _, .inr ⟨ht, h.journal.symm⟩⟩

theorem Accounts.shift {b : CallBox} (h : Accounts p changed x c b) (hx : x.outline.Sound)
    (hy : y.outline.Sound) (hxy : Shift x y) (hb : b.Calmer (y.directory.call c)) :
    Accounts (p.and y.outline) (fun j => changed j ∨ Changes x y j) y c (y.directory.call c) where
  awaiting g hg := by
    obtain ⟨d, since, earlier, hd, hunder⟩ := h.awaiting g (hb.awaiting g hg)
    obtain ⟨since', hunder'⟩ := hunder.shift hx hy hxy (isAwaiting_iff.mpr ⟨g, hg⟩)
    exact ⟨d, since', earlier, .inl hd, hunder'⟩
  replies r hr := by
    obtain ⟨a, hsent, hread, ha⟩ := h.replies r (hb.replies hr)
    obtain ⟨since, hj, -⟩ := hxy.logged
    exact ⟨a, .inl hsent, .inl hread, ha.later (hj ▸ List.suffix_append _ _) fun _ => .inl⟩

theorem Explained.shift (h : Explained p changed x) (hx : x.outline.Sound) (hy : y.outline.Sound)
    (hxy : Shift x y) :
    Explained (p.and y.outline) (fun j => changed j ∨ Changes x y j) y := by
  refine ⟨h.covers.grow hxy.grows hy, fun c hc => ?_⟩
  have hbefore : Accounts p changed x c (x.directory.call c) := by
    rcases hc with hold | ⟨e, he, rfl⟩
    · exact h.boxes c hold
    · rcases hxy.grows.channels e he with ⟨e', he', hc⟩ | hnew
      · exact h.boxes _ (hc ▸ h.covers.channels e' he')
      · -- There are no calls of a channel that is yet to be made.
        rw [call_of_unmade hnew]
        exact ⟨fun _ hg => (nomatch hg), fun _ hr => absurd hr List.not_mem_nil⟩
  exact hbefore.shift hx hy hxy (hxy.calls c)

/-! ### Marks and answers -/

/-- What only brings calls farther changes neither sockets nor links. -/
structure Calling (x y : Exchange ν) (t : Traffic) : Prop where
  journal : y.journal = t :: x.journal
  sockets : y.outline.sockets = x.outline.sockets
  listener : y.outline.listener = x.outline.listener
  transport : y.outline.transport = x.outline.transport
  nextSocket : y.outline.nextSocket = x.outline.nextSocket
  directory : y.outline.directory = x.outline.directory

theorem covers_calling {t : Traffic} (h : p.Covers x.outline) (hxy : Calling x y t) :
    p.Covers y.outline := by
  have hentries : y.outline.entries = x.outline.entries := congrArg Core.entries hxy.directory
  constructor
  · rw [hxy.sockets]
    exact h.sockets
  · rw [hxy.nextSocket]
    exact h.given
  · exact h.nature
  · rw [hentries]
    exact h.channels
  · rw [hxy.directory]
    exact h.made
  · exact h.own

/-- Who gets nothing waits on. -/
theorem Underway.calling {t : Traffic} {d : Departure} {since earlier : List Traffic}
    (h : Underway changed x c g d since earlier) (hxy : Calling x y t) (ht : t.answered? ≠ some c) :
    Underway changed y c g d (t :: since) earlier where
  journal := by rw [hxy.journal, h.journal, List.cons_append]
  completes := h.completes
  next t' ht' := by
    rcases List.mem_cons.mp ht' with rfl | ht'
    · exact ht
    · exact h.next t' ht'
  medium := h.medium
  proper := h.proper
  stands := by
    rcases h.stands with ⟨part, hpart, hchanged⟩ | ⟨e, he, hc, hstill⟩
    · exact .inl ⟨part, hpart.trans (List.suffix_cons _ _), hchanged⟩
    · have hentries : y.directory.entries = x.directory.entries :=
        congrArg Core.entries hxy.directory
      refine .inr ⟨e, hentries ▸ he, hc, ?_⟩
      cases hstill with
      | served hmem hserves =>
        refine .served (hxy.sockets ▸ hmem) ?_
        unfold Serves
        rw [hxy.listener]
        exact hserves
      | home hr hsuits hclosed hl hlink =>
        exact .home hr (hxy.transport ▸ hsuits) (List.mem_cons_of_mem _ hclosed)
          (hxy.listener.trans hl) hlink

theorem Accounts.calling {t : Traffic} {b : CallBox} (h : Accounts p changed x c b)
    (hxy : Calling x y t) (ht : t.answered? ≠ some c) : Accounts p changed y c b where
  awaiting g hg := by
    obtain ⟨d, since, earlier, hd, hunder⟩ := h.awaiting g hg
    exact ⟨d, _, earlier, hd, hunder.calling hxy ht⟩
  replies r hr := by
    obtain ⟨a, hsent, hread, ha⟩ := h.replies r hr
    exact ⟨a, hsent, hread, ha.later (hxy.journal ▸ List.suffix_cons _ _) fun _ => id⟩

/-- Where only the calls of one channel got farther, it is its box that is to be accounted for. -/
theorem Explained.calling {t : Traffic} (h : Explained p changed x) (hxy : Calling x y t)
    {e : Entry} (he : e ∈ x.directory.entries) (ht : ∀ c, c ≠ e.channel → t.answered? ≠ some c)
    {f : CallBox → CallBox} (hbox : y.directory = x.directory.modifyCall e.channel f)
    (hmine : Accounts p changed y e.channel (f (x.directory.call e.channel))) :
    Explained p changed y := by
  refine ⟨covers_calling h.covers hxy, fun c hc => ?_⟩
  rw [hbox, call_modifyCall]
  split_ifs with hsame
  · obtain rfl : c = e.channel :=
      h.covers.own c e.channel hc (h.covers.channels e he) hsame.2.2
    exact hmine
  · refine (h.boxes c hc).calling hxy (ht c ?_)
    rintro rfl
    obtain ⟨hhome, hlt⟩ := h.covers.made _ hc
    exact hsame ⟨⟨hhome, Nat.lt_of_lt_of_eq hlt (List.length_map _)⟩, rfl, rfl⟩

/-- **When the last of a write goes out, its call is under way.** -/
theorem Explained.marked (h : Explained p changed x) (hr : x.outline.Regular) (outbox : Outbox)
    {e : Entry} {id : SocketId} {n : Nature} {far : Endpoint} {w : Write} {count : Nat}
    (hreach : x.outline.Reaches e (id, n) far) (hw : w.channel = e.channel) (hg : w.call = some g)
    (hlast : count = w.remaining.length ∨ n.medium = .datagram) :
    Explained p changed { x with
      outbox
      directory := x.directory.modifyCall e.channel (·.markSent g)
      journal := .sent id (some far) w count :: x.journal } := by
  set y : Exchange ν := { x with
    outbox
    directory := x.directory.modifyCall e.channel (·.markSent g)
    journal := .sent id (some far) w count :: x.journal }
  have hcalling : Calling x y (.sent id (some far) w count) :=
    ⟨rfl, rfl, rfl, rfl, rfl, core_modifyCall _ _ _⟩
  have hbefore := (h.boxes _ (h.covers.channels e hreach.entry)).calling hcalling nofun
  refine h.calling hcalling hreach.entry (fun _ _ => nofun) rfl ⟨fun g' hg' => ?_, ?_⟩
  · rcases CallBox.pending_markSent hg' with hwaited | rfl
    · exact hbefore.awaiting g' hwaited
    · have hentries : y.directory.entries = x.directory.entries := entries_modifyCall _ _ _
      exact ⟨⟨id, n, far, w, count⟩, [], x.journal, h.covers.sockets _ hreach.socket,
        { journal := rfl
          completes := ⟨hw, hg, hlast, hreach.far, hreach.role_eq_outbound hr.sound⟩
          next := fun _ ht => absurd ht List.not_mem_nil
          medium := hreach.medium
          proper := hr.proper _ hreach.socket
          stands := .inr ⟨e, hentries ▸ hreach.entry, rfl, .served hreach.socket hreach.serves⟩ }⟩
  · rw [CallBox.replies_markSent]
    exact hbefore.replies

/-- **What reaches a channel that waits on came through the socket of its write,** or through one
that counts for it. -/
theorem Underway.through {e : Entry} {id : SocketId} {n : Nature} {far : Endpoint} {d : Departure}
    {since earlier : List Traffic} (h : Underway changed x e.channel g d since earlier)
    (hr : x.outline.Regular) (hreach : x.outline.Reaches e (id, n) far) :
    Origin.Through changed ⟨d, id, n, far, since, earlier⟩ := by
  rcases h.stands with ⟨part, hpart, hchanged⟩ | ⟨e', he', hc, hstill⟩
  · exact .changed part hpart hchanged
  · obtain rfl := hr.sound.numbered.eq_of_id_eq he' hreach.entry (congrArg Channel.id hc)
    cases hstill with
    | served hmem hserves =>
      rcases eq_of_serves hr hreach.socket hmem hreach.medium h.medium hreach.serves hserves with
        heq | ⟨hread, hwrote⟩
      · exact .same heq
      · exact .taken hwrote hread
    | @home hout hsuits hclosed l hl hlink =>
      -- Whoever reads for a channel on the listener is the listener, or a connection taken in.
      have hrole : n.role ≠ .outbound := by
        rcases hreach.serves.outbound_or_home hr.sound hreach.socket with
          ⟨hrole, hlink'⟩ | ⟨hrole, -⟩
        · have hne := hr.sound.ne_listener hreach.socket (by rw [hrole]; decide)
          exact absurd (hl.trans (hlink.symm.trans hlink')) hne
        · exact hrole
      have hsame : n.role = d.nature.role := Nature.role_eq_of_suits
        (hr.sound.suits _ hreach.socket) hsuits (hr.proper _ hreach.socket) h.proper
        hreach.medium h.medium hrole hout
      cases hkind : n.role with
      | outbound => exact absurd hkind hrole
      | listener => exact .moved (hsame.symm.trans hkind) hkind hclosed
      | accepted => exact .taken (hsame.symm.trans hkind) hkind

/-- **When a buffer comes for a call, it is the reply to its write.** -/
theorem Explained.answered (h : Explained p changed x) (hr : x.outline.Regular) {e : Entry}
    {id : SocketId} {n : Nature} {far : Endpoint} (data : Bytes)
    (hreach : x.outline.Reaches e (id, n) far)
    (hawaiting : (x.directory.call e.channel).pending = .awaiting g) :
    Explained p changed { x with
      directory := x.directory.modifyCall e.channel fun b => (b.fulfil data).2
      journal := .received id (some far) data (.caller e.channel) :: x.journal } := by
  set y : Exchange ν := { x with
    directory := x.directory.modifyCall e.channel fun b => (b.fulfil data).2
    journal := .received id (some far) data (.caller e.channel) :: x.journal }
  have hcalling : Calling x y (.received id (some far) data (.caller e.channel)) :=
    ⟨rfl, rfl, rfl, rfl, rfl, core_modifyCall _ _ _⟩
  have hbefore := h.boxes _ (h.covers.channels e hreach.entry)
  refine h.calling (f := fun b => (b.fulfil data).2) hcalling hreach.entry
    (fun c hne heq => hne (Option.some.inj heq).symm) rfl ?_
  have hbox : ((x.directory.call e.channel).fulfil data).2 = { x.directory.call e.channel with
      pending := .idle, replies := (x.directory.call e.channel).replies ++ [(g, data)] } := by
    unfold CallBox.fulfil
    rw [hawaiting]
  rw [hbox]
  refine ⟨fun _ hg => (nomatch hg), fun r hmem => ?_⟩
  rcases List.mem_append.mp hmem with hmem | hmem
  · obtain ⟨a, hsent, hread, ha⟩ := hbefore.replies r hmem
    exact ⟨a, hsent, hread, ha.later (List.suffix_cons _ _) fun _ hj => hj⟩
  · rw [List.mem_singleton.mp hmem]
    obtain ⟨d, since, earlier, hd, hunder⟩ := hbefore.awaiting g hawaiting
    have hj : y.journal = .received id (some far) data (.caller e.channel) ::
        (since ++ d.event :: earlier) := by
      rw [hcalling.journal, hunder.journal]
    exact ⟨⟨d, id, n, far, since, earlier⟩, hd, h.covers.sockets _ hreach.socket,
      { journal := hj ▸ List.suffix_refl _
        completes := hunder.completes
        sender := hreach.far
        next := hunder.next
        through := hunder.through hr hreach }⟩

/-! ### Turns and operations -/

theorem Explained.mono (h : Explained p changed x) {changed' : List Traffic → Prop}
    (hsub : ∀ j, changed j → changed' j) : Explained p changed' x := by
  refine ⟨h.covers, fun c hc => ⟨fun g hg => ?_, fun r hr => ?_⟩⟩
  · obtain ⟨d, since, earlier, hd, hunder⟩ := (h.boxes c hc).awaiting g hg
    refine ⟨d, since, earlier, hd, { hunder with stands := hunder.stands.imp_left ?_ }⟩
    exact fun ⟨part, hpart, hchanged⟩ => ⟨part, hpart, hsub _ hchanged⟩
  · obtain ⟨a, hsent, hread, ha⟩ := (h.boxes c hc).replies r hr
    exact ⟨a, hsent, hread, ha.later (List.suffix_refl _) hsub⟩

/-- **A turn keeps calls and replies explained.** -/
theorem Explained.turn (h : Explained p changed x) (hr : x.outline.Regular) (hy : y.outline.Sound)
    (hxy : Turn x y) :
    ∃ p', p.Within p' ∧ Explained p' (fun j => changed j ∨ Changes x y j) y := by
  cases hxy with
  | shift hxy => exact ⟨_, p.within_and _, h.shift hr.sound hy hxy⟩
  | marked outbox hreach hfree hw hg hlast =>
    exact ⟨p, .refl p, (h.marked hr outbox hreach hw hg hlast).mono fun _ => .inl⟩
  | answered data hreach hawaiting =>
    exact ⟨p, .refl p, (h.answered hr data hreach hawaiting).mono fun _ => .inl⟩

theorem not_changes (hp : y.profile = x.profile) (j : List Traffic) : ¬ Changes x y j :=
  fun hch => hch.1 (congrArg Profile.transport hp)

theorem Explained.steadyTurns (h : Explained p changed x) (hr : x.outline.Regular)
    (hxy : ReflTransGen SteadyTurn x y) :
    ∃ p', p.Within p' ∧ Explained p' changed y ∧ y.outline.Regular := by
  induction hxy with
  | refl => exact ⟨p, .refl p, h, hr⟩
  | tail _ hstep ih =>
    obtain ⟨p₁, hwithin, hbefore, hregular⟩ := ih
    obtain ⟨p₂, hwithin', hafter⟩ := hbefore.turn hregular hstep.regular.sound hstep.turn
    refine ⟨p₂, hwithin.trans hwithin', hafter.mono fun j hj => ?_, hstep.regular⟩
    exact hj.resolve_right (not_changes hstep.profile j)

variable [Network ν]

/-- **An operation keeps calls and replies explained.** -/
theorem Explained.apply (h : Explained p changed x) (hr : x.outline.Regular)
    (hset : x.outline.Settled) (op : Operation ν) : ∃ p', p.Within p' ∧
      Explained p' (fun j => changed j ∨ Changes x (x.apply op) j) (x.apply op) := by
  rcases turns_apply hr hset op with hshift | hturns
  · have hafter := (hr.moves hset (moves_steps hr.sound (steps_apply x op))).1
    exact ⟨_, p.within_and _, h.shift hr.sound hafter.sound hshift⟩
  · obtain ⟨p', hwithin, hafter, -⟩ := h.steadyTurns hr hturns
    exact ⟨p', hwithin, hafter.mono fun _ => .inl⟩

end Exchange

end Switchboard
