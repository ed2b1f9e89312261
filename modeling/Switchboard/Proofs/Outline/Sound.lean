import Switchboard.Proofs.Outline.Basic
import Mathlib.Tactic.SplitIfs

/-!
# Sound outlines

In a sound outline links and sockets agree: an open exchange has one listener, a link leads to the
listener or to an outbound socket with the far end that the channel asks for, no outbound socket is
without a channel, and every socket is of the kind that the transport asks for.  A closed exchange
has nothing of all that.

Every move keeps an outline sound (`Sound.move`).  The proof follows the parts: what concerns the
sockets alone is a `Table`, which adding and taking out keep; linking a channel keeps the links good
where the channel `Fits` the socket (`fits_of_mem_map_linkEntry`).
-/

namespace Switchboard

open Net Settings Relation Directory

/-- The kind of socket that a transport asks for: datagrams, or an acceptor and connections. -/
def Role.medium (t : Transport) (r : Role) : Medium :=
  match t, r with
  | .datagram, _ => .datagram
  | .stream, .listener => .acceptor
  | .stream, _ => .connection

/-- Is the socket of the kind that the transport asks for? -/
def Nature.Suits (t : Transport) (n : Nature) : Prop :=
  n.medium = n.role.medium t

theorem Nature.suits_listening (t : Transport) : (Nature.listening t).Suits t := by
  cases t <;> rfl

theorem Nature.suits_outgoing (t : Transport) (remote : Endpoint) :
    (Nature.outgoing t remote).Suits t := by
  cases t <;> rfl

/-- May the channel be linked to the socket?  Inbound channels may to the listener, and any channel
to an outbound socket to its remote. -/
def Channel.Fits (c : Channel) (n : Nature) : Prop :=
  n.role = .listener ∧ c.direction = .inbound ∨
    n.role = .outbound ∧ ∃ remote, n.farEnd = some remote ∧ c.remote = .endpoint remote

namespace Outline

/-- What is true of the sockets by themselves: each has a number of its own that was given out, each
but the listener has a far end, and of the sockets that are to be replaced all are outbound. -/
structure Table (o : Outline) : Prop where
  distinct : (o.sockets.map Prod.fst).Nodup
  below : ∀ s ∈ o.sockets, s.1 < o.nextSocket
  listener : ∀ l, o.listener = some l → ∃ n, (l, n) ∈ o.sockets ∧ n.role = .listener
  only : ∀ s ∈ o.sockets, s.2.role = .listener → o.listener = some s.1
  farEnd : ∀ s ∈ o.sockets, s.2.role ≠ .listener → ∃ remote, s.2.farEnd = some remote
  retries : ∀ id ∈ o.retries, id < o.nextSocket ∧ ∀ n, (id, n) ∈ o.sockets → n.role = .outbound

/-- **Links and sockets agree.** -/
structure Sound (o : Outline) : Prop extends Table o where
  suits : ∀ s ∈ o.sockets, s.2.Suits o.transport
  numbered : o.directory.Numbered
  concrete : ∀ e ∈ o.entries, e.channel.direction = .outbound → e.channel.remote.isMask = false
  linked : ∀ e ∈ o.entries, ∀ id, e.socket = some id → ∃ n, (id, n) ∈ o.sockets ∧ e.channel.Fits n
  served : ∀ s ∈ o.sockets, s.2.role = .outbound → ∃ e ∈ o.entries, e.socket = some s.1
  opened : o.isOpen = true → o.listener ≠ none
  closed : o.isOpen = false → o.sockets = [] ∧ o.listener = none ∧ o.retries = [] ∧
    o.announcements = [] ∧ o.outbox.writes = []

variable {o : Outline}

/-! ### The table -/

theorem Table.eq_of_fst_eq (h : o.Table) {s s' : SocketId × Nature} (hs : s ∈ o.sockets)
    (hs' : s' ∈ o.sockets) (heq : s.1 = s'.1) : s = s' :=
  List.inj_on_of_nodup_map h.distinct hs hs' heq

theorem Table.nature_eq (h : o.Table) {id : SocketId} {n n' : Nature} (hn : (id, n) ∈ o.sockets)
    (hn' : (id, n') ∈ o.sockets) : n = n' :=
  (Prod.mk.inj (h.eq_of_fst_eq hn hn' rfl)).2

/-- The number of the next socket is no socket's. -/
theorem Table.fresh (h : o.Table) {n : Nature} : (o.nextSocket, n) ∉ o.sockets :=
  fun hn => Nat.lt_irrefl _ (h.below _ hn)

theorem Table.listener_ne (h : o.Table) {l : SocketId} (hl : o.listener = some l) :
    l ≠ o.nextSocket := by
  obtain ⟨n, hn, -⟩ := h.listener l hl
  exact Nat.ne_of_lt (h.below _ hn)

theorem mem_sockets_add {n : Nature} (next : SocketId) {s : SocketId × Nature} :
    s ∈ (o.add n next).sockets ↔ s ∈ o.sockets ∨ s = (o.nextSocket, n) := by
  simp [Outline.add]

theorem mem_sockets_raise (t : Transport) (next : SocketId) {s : SocketId × Nature} :
    s ∈ (o.raise t next).sockets ↔ s ∈ o.sockets ∨ s = (o.nextSocket, .listening t) := by
  simp [Outline.raise, Outline.add]

theorem mem_sockets_erase {id : SocketId} {s : SocketId × Nature} :
    s ∈ (o.erase id).sockets ↔ s ∈ o.sockets ∧ s.1 ≠ id := by
  simp [Outline.erase]

theorem Table.nodup_add (h : o.Table) (n : Nature) :
    ((o.sockets ++ [(o.nextSocket, n)]).map Prod.fst).Nodup := by
  rw [List.map_append, List.map_singleton, List.nodup_append]
  refine ⟨h.distinct, List.nodup_singleton _, ?_⟩
  intro i hi j hj
  obtain ⟨s, hs, rfl⟩ := List.mem_map.mp hi
  rw [List.mem_singleton.mp hj]
  exact Nat.ne_of_lt (h.below s hs)

theorem Table.below_add (h : o.Table) (n : Nature) {next : SocketId} (hnext : o.nextSocket < next) :
    ∀ s ∈ (o.add n next).sockets, s.1 < next := by
  intro s hs
  rcases (mem_sockets_add next).mp hs with hs | rfl
  · exact Nat.lt_trans (h.below s hs) hnext
  · exact hnext

theorem Table.add (h : o.Table) {n : Nature} {next : SocketId} (hrole : n.role ≠ .listener)
    (hfar : ∃ remote, n.farEnd = some remote) (hnext : o.nextSocket < next) :
    (o.add n next).Table where
  distinct := h.nodup_add n
  below := h.below_add n hnext
  listener l hl := by
    obtain ⟨n', hn', hr⟩ := h.listener l hl
    exact ⟨n', (mem_sockets_add next).mpr (.inl hn'), hr⟩
  only s hs hr := by
    rcases (mem_sockets_add next).mp hs with hs | rfl
    · exact h.only s hs hr
    · exact absurd hr hrole
  farEnd s hs hr := by
    rcases (mem_sockets_add next).mp hs with hs | rfl
    · exact h.farEnd s hs hr
    · exact hfar
  retries id hid := by
    obtain ⟨hlt, hout⟩ := h.retries id hid
    refine ⟨Nat.lt_trans hlt hnext, fun n' hn' => ?_⟩
    rcases (mem_sockets_add next).mp hn' with hn' | hnew
    · exact hout n' hn'
    · -- A socket to be replaced has a number already.
      exact absurd (congrArg Prod.fst hnew) (Nat.ne_of_lt hlt)

/-- Sockets may be taken out, but not the listener. -/
theorem Table.filter (h : o.Table) (p : SocketId → Bool)
    (hp : ∀ l, o.listener = some l → p l = true) :
    Table { o with sockets := o.sockets.filter (p ·.1) } where
  distinct := h.distinct.sublist (List.filter_sublist.map _)
  below s hs := h.below s (List.mem_filter.mp hs).1
  listener l hl := by
    obtain ⟨n, hn, hr⟩ := h.listener l hl
    exact ⟨n, List.mem_filter.mpr ⟨hn, hp l hl⟩, hr⟩
  only s hs := h.only s (List.mem_filter.mp hs).1
  farEnd s hs := h.farEnd s (List.mem_filter.mp hs).1
  retries id hid :=
    ⟨(h.retries id hid).1, fun n hn => (h.retries id hid).2 n (List.mem_filter.mp hn).1⟩

theorem Table.of_retries (h : o.Table) {retries : List SocketId}
    (hr : ∀ id ∈ retries, id ∈ o.retries ∨ ∃ n, (id, n) ∈ o.sockets ∧ n.role = .outbound) :
    Table { o with retries } :=
  { h with
    retries := by
      intro id hid
      rcases hr id hid with hold | ⟨n, hn, hrole⟩
      · exact h.retries id hold
      · exact ⟨h.below _ hn, fun n' hn' => h.nature_eq hn hn' ▸ hrole⟩ }

/-- A socket that is not the listener may be closed. -/
theorem Table.erase (h : o.Table) {id : SocketId} (hid : o.listener ≠ some id) :
    (o.erase id).Table :=
  h.filter (· != id) fun l hl => by
    rw [bne_iff_ne]
    rintro rfl
    exact hid hl

theorem Table.ne_listener (h : o.Table) {id : SocketId} {n : Nature} (hn : (id, n) ∈ o.sockets)
    (hr : n.role ≠ .listener) : o.listener ≠ some id := by
  intro hl
  obtain ⟨n', hn', hr'⟩ := h.listener id hl
  exact hr (h.nature_eq hn hn' ▸ hr')

/-- A new listener may come, where the old one goes. -/
theorem Table.raise_filter (h : o.Table) (t : Transport) {next : SocketId}
    (hnext : o.nextSocket < next) (p : SocketId → Bool) (hnew : p o.nextSocket = true)
    (hold : ∀ l, o.listener = some l → p l = false) :
    Table { o.raise t next with sockets := (o.raise t next).sockets.filter (p ·.1) } where
  distinct := (h.nodup_add _).sublist (List.filter_sublist.map _)
  below s hs := h.below_add _ hnext s (List.mem_filter.mp hs).1
  listener l hl := by
    obtain rfl : o.nextSocket = l := Option.some.inj hl
    exact ⟨_, List.mem_filter.mpr ⟨List.mem_append_right _ (List.mem_singleton_self _), hnew⟩, rfl⟩
  only s hs hr := by
    obtain ⟨hs, hps⟩ := List.mem_filter.mp hs
    rcases (mem_sockets_raise t next).mp hs with hs | rfl
    · rw [hold _ (h.only s hs hr)] at hps
      exact absurd hps Bool.false_ne_true
    · rfl
  farEnd s hs hr := by
    rcases (mem_sockets_raise t next).mp (List.mem_filter.mp hs).1 with hs | rfl
    · exact h.farEnd s hs hr
    · exact absurd rfl hr
  retries id hid := by
    obtain ⟨hlt, hout⟩ := h.retries id hid
    refine ⟨Nat.lt_trans hlt hnext, fun n hn => ?_⟩
    rcases (mem_sockets_raise t next).mp (List.mem_filter.mp hn).1 with hn | hnew
    · exact hout n hn
    · exact absurd (congrArg Prod.fst hnew) (Nat.ne_of_lt hlt)

/-- The table after a new listener took the place of the old one. -/
theorem Table.rebind (h : o.Table) (t : Transport) {next : SocketId}
    (hnext : o.nextSocket < next) : (o.rebind t next).Table := by
  unfold Outline.rebind
  split
  · rename_i hl
    have hraise := h.raise_filter t hnext (fun _ => true) rfl fun l hl' => by simp [hl] at hl'
    rwa [List.filter_true] at hraise
  · rename_i old hl
    have hraise := h.raise_filter t hnext (· != old) (bne_iff_ne.mpr (h.listener_ne hl).symm)
      fun l hl' => by simpa [hl] using hl'.symm
    exact { hraise with }

/-! ### Links -/

theorem Sound.nature_of_link (h : o.Sound) {e : Entry} (he : e ∈ o.entries) {id : SocketId}
    (hid : e.socket = some id) {n : Nature} (hn : (id, n) ∈ o.sockets) : e.channel.Fits n := by
  obtain ⟨n', hn', hf⟩ := h.linked e he id hid
  exact h.nature_eq hn hn' ▸ hf

/-- Linking a channel that fits a socket leaves every entry with the link it had, or with one to
that socket, which it fits. -/
theorem fits_of_mem_map_linkEntry (h : o.directory.Numbered) {c : Channel} {id : SocketId}
    {n : Nature} {sharing : Sharing} (hc : { channel := c } ∈ o.entries) (hf : c.Fits n)
    (hl : n.role = .listener → o.listener = some id) {e : Entry}
    (he : e ∈ o.entries.map (linkEntry c id sharing o.listener)) :
    (∃ e' ∈ o.entries, e'.channel = e.channel ∧ e.socket = e'.socket) ∨
      e.socket = some id ∧ e.channel.Fits n := by
  obtain ⟨e', he', rfl⟩ := List.mem_map.mp he
  rw [channel_linkEntry]
  rcases socket_linkEntry c id sharing o.listener e' with hs | ⟨hs, hown | ⟨-, hremote, hdir⟩⟩
  · exact .inl ⟨e', he', rfl, hs⟩
  · obtain rfl := h.eq_of_id_eq he' hc hown
    exact .inr ⟨hs, hf⟩
  · refine .inr ⟨hs, ?_⟩
    rcases hf with ⟨hr, -⟩ | ⟨hr, remote, hfar, hc'⟩
    · refine .inl ⟨hr, ?_⟩
      have := hdir (hl hr)
      cases hd : e'.channel.direction with
      | inbound => rfl
      | outbound => exact absurd hd this
    · exact .inr ⟨hr, remote, hfar, hremote.trans hc'⟩

/-- Linking a channel that had no socket leaves the entries that have one. -/
theorem linkEntry_eq_self (h : o.directory.Numbered) {c : Channel} (id : SocketId)
    (sharing : Sharing) (hc : { channel := c } ∈ o.entries) {e : Entry} (he : e ∈ o.entries)
    {i : SocketId} (hi : e.socket = some i) :
    linkEntry c id sharing o.listener e = e := by
  unfold linkEntry
  rw [if_neg]
  rw [Bool.or_eq_true, decide_eq_true_eq]
  rintro (hown | hjoin)
  · rw [h.eq_of_id_eq he hc hown] at hi
    exact nomatch hi
  · simp [joins, hi] at hjoin

/-- The entry of the channel itself gets the socket. -/
theorem socket_linkEntry_self (c : Channel) (id : SocketId) (sharing : Sharing)
    (listener : Option SocketId) :
    (linkEntry c id sharing listener { channel := c }).socket = some id := by
  unfold linkEntry
  rw [if_pos (by simp)]

/-! ### What moves do -/

theorem Sound.not_closed (h : o.Sound) (hs : o.sockets ≠ []) : o.isOpen = true := by
  cases ho : o.isOpen with
  | true => rfl
  | false => exact absurd (h.closed ho).1 hs

theorem Sound.event (h : o.Sound) {o' : Outline} (he : Event o o') : o'.Sound := by
  cases he with
  | @admitted id n next remote hs hm hnext =>
    have hopen := h.not_closed (List.ne_nil_of_mem hs)
    -- Acceptors are for streams only, and so are the connections that they take in.
    have hstream : o.transport = .stream := by
      have hsuits := h.suits _ hs
      cases ht : o.transport with
      | stream => rfl
      | datagram =>
        rw [ht] at hsuits
        exact nomatch hsuits.symm.trans hm
    refine { h.toTable.add (n := .taken remote) (fun hr => nomatch hr) ⟨remote, rfl⟩ hnext,
      h with suits := ?_, linked := ?_, served := ?_, closed := ?_ }
    · intro s hs
      rcases (mem_sockets_add next).mp hs with hs | rfl
      · exact h.suits s hs
      · show Nature.Suits o.transport _
        rw [hstream]
        rfl
    · intro e he id hid
      obtain ⟨n, hn, hf⟩ := h.linked e he id hid
      exact ⟨n, (mem_sockets_add next).mpr (.inl hn), hf⟩
    · intro s hs hr
      rcases (mem_sockets_add next).mp hs with hs | rfl
      · exact h.served s hs hr
      · exact nomatch hr
    · intro ho
      exact absurd (hopen.symm.trans ho) (by decide)
  | @dropped id n hs hr =>
    have hopen := h.not_closed (List.ne_nil_of_mem hs)
    refine { h.toTable.erase (h.ne_listener hs (by rw [hr]; decide)), h with
      suits := fun s hs => h.suits s (List.mem_filter.mp hs).1
      linked := ?_
      served := fun s hs hr => h.served s (List.mem_filter.mp hs).1 hr
      closed := fun ho => absurd (hopen.symm.trans ho) (by decide) }
    intro e he i hi
    obtain ⟨n', hn', hf⟩ := h.linked e he i hi
    refine ⟨n', mem_sockets_erase.mpr ⟨hn', ?_⟩, hf⟩
    -- No channel is linked to a connection that was taken in.
    rintro rfl
    rw [h.nature_eq hn' hs] at hf
    rcases hf with ⟨hf, -⟩ | ⟨hf, -⟩ <;> exact absurd (hr.symm.trans hf) (by decide)
  | rescheduled retries hr =>
    refine { h.toTable.of_retries hr, h with closed := fun ho => ?_ }
    obtain ⟨hs, hl, hret, ha, hw⟩ := h.closed ho
    refine ⟨hs, hl, List.eq_nil_iff_forall_not_mem.mpr fun id hid => ?_, ha, hw⟩
    rcases hr id hid with hold | ⟨n, hn, -⟩
    · rw [hret] at hold
      exact nomatch hold
    · rw [hs] at hn
      exact nomatch hn
  | announced cs hopen =>
    have hopen : o.isOpen = true := hopen.elim id h.not_closed
    exact { h with closed := fun ho => absurd (hopen.symm.trans ho) (by decide) }
  | @remembered e sender he hm hd ht =>
    refine { h with numbered := ⟨h.numbered.home, fun e he => ?_, h.numbered.ascending⟩ }
    change _ < (o.directory.senders.set _ _).length
    rw [List.length_set]
    exact h.numbered.below e he

theorem Sound.events (h : o.Sound) {o' : Outline} (he : Events o o') : o'.Sound := by
  induction he with
  | refl => exact h
  | tail _ hstep ih => exact ih.event hstep

theorem Sound.passMove (h : o.Sound) {o' : Outline} (hm : PassMove o o') : o'.Sound := by
  cases hm with
  | event he => exact h.event he
  | @sent id n before after w count hs hm hw hlink hchannel hlane hcount =>
    have hopen := h.not_closed (List.ne_nil_of_mem hs)
    exact { h with closed := fun ho => absurd (hopen.symm.trans ho) (by decide) }

theorem Sound.passMoves (h : o.Sound) {o' : Outline} (hm : PassMoves o o') : o'.Sound := by
  induction hm with
  | refl => exact h
  | tail _ hstep ih => exact ih.passMove hstep

/-! ### What operations do -/

/-- Changing nothing but links leaves outbound channels without masks. -/
theorem concrete_map {entries : List Entry} {f : Entry → Entry}
    (h : ∀ e ∈ entries, e.channel.direction = .outbound → e.channel.remote.isMask = false)
    (hf : ∀ e, (f e).channel = e.channel) :
    ∀ e ∈ entries.map f, e.channel.direction = .outbound → e.channel.remote.isMask = false := by
  intro e he
  obtain ⟨e', he', rfl⟩ := List.mem_map.mp he
  rw [hf]
  exact h e' he'

/-- Where a new socket that the same channels fit took the place of an old one, the links lead
on. -/
theorem linked_relink (h : o.Sound) {old new : SocketId} {n : Nature}
    {sockets : List (SocketId × Nature)} (hnew : (new, n) ∈ sockets)
    (hkept : ∀ s ∈ o.sockets, s.1 ≠ old → s ∈ sockets)
    (hfits : ∀ e ∈ o.entries, e.socket = some old → e.channel.Fits n) :
    ∀ e ∈ o.entries.map (relinkEntry old new), ∀ id, e.socket = some id →
      ∃ n, (id, n) ∈ sockets ∧ e.channel.Fits n := by
  intro e he id hid
  obtain ⟨e', he', rfl⟩ := List.mem_map.mp he
  rw [socket_relinkEntry] at hid
  rw [channel_relinkEntry]
  split_ifs at hid with hold
  · obtain rfl := Option.some.inj hid
    exact ⟨n, hnew, hfits e' he' hold⟩
  · obtain ⟨n', hn', hf⟩ := h.linked e' he' id hid
    refine ⟨n', hkept _ hn' ?_, hf⟩
    rintro rfl
    exact hold hid

theorem served_relink (h : o.Sound) {old new : SocketId} {s : SocketId × Nature}
    (hs : s ∈ o.sockets) (hne : s.1 ≠ old) (hr : s.2.role = .outbound) :
    ∃ e ∈ o.entries.map (relinkEntry old new), e.socket = some s.1 := by
  obtain ⟨e, he, hlink⟩ := h.served s hs hr
  refine ⟨relinkEntry old new e, List.mem_map_of_mem he, ?_⟩
  rw [socket_relinkEntry, hlink, if_neg]
  exact fun heq => hne (Option.some.inj heq)

/-- What is left of soundness after the listener gave way to one of another transport. -/
structure Rebound (o : Outline) : Prop extends Table o where
  isOpen : o.isOpen = true
  raised : o.listener ≠ none
  suits : ∀ s ∈ o.sockets, s.2.role = .listener → s.2.Suits o.transport
  numbered : o.directory.Numbered
  concrete : ∀ e ∈ o.entries, e.channel.direction = .outbound → e.channel.remote.isMask = false
  linked : ∀ e ∈ o.entries, ∀ id, e.socket = some id → ∃ n, (id, n) ∈ o.sockets ∧ e.channel.Fits n
  served : ∀ s ∈ o.sockets, s.2.role = .outbound → ∃ e ∈ o.entries, e.socket = some s.1

theorem rebind_eq {old : SocketId} (hold : o.listener = some old) (t : Transport)
    (next : SocketId) : o.rebind t next =
      ((o.raise t next).erase old).onEntries (·.map (relinkEntry old o.nextSocket)) := by
  unfold Outline.rebind
  rw [hold]

theorem Sound.rebind (h : o.Sound) (t : Transport) {next : SocketId} (ho : o.isOpen = true)
    (hnext : o.nextSocket < next) : (o.rebind t next).Rebound := by
  have htable := h.toTable.rebind t hnext
  obtain ⟨old, hold⟩ := Option.ne_none_iff_exists'.mp (h.opened ho)
  obtain ⟨nold, hnold, hrole⟩ := h.listener old hold
  have hne := h.listener_ne hold
  rw [rebind_eq hold] at htable ⊢
  have hnew : (o.nextSocket, Nature.listening t) ∈ ((o.raise t next).erase old).sockets :=
    mem_sockets_erase.mpr ⟨(mem_sockets_raise t next).mpr (.inr rfl), hne.symm⟩
  have hkept : ∀ s ∈ o.sockets, s.1 ≠ old → s ∈ ((o.raise t next).erase old).sockets :=
    fun s hs hne => mem_sockets_erase.mpr ⟨(mem_sockets_raise t next).mpr (.inl hs), hne⟩
  have hcases : ∀ s ∈ ((o.raise t next).erase old).sockets,
      s ∈ o.sockets ∧ s.1 ≠ old ∨ s = (o.nextSocket, Nature.listening t) := by
    intro s hs
    obtain ⟨hs, hsne⟩ := mem_sockets_erase.mp hs
    exact ((mem_sockets_raise t next).mp hs).imp_left fun hs => ⟨hs, hsne⟩
  refine { htable with
    isOpen := ho
    raised := fun hn => nomatch hn
    suits := fun s hs hr => ?_
    numbered := h.numbered.map (channel_relinkEntry old o.nextSocket)
    concrete := concrete_map h.concrete (channel_relinkEntry old o.nextSocket)
    linked := linked_relink h hnew hkept fun e he hlink => ?_
    served := fun s hs hr => ?_ }
  · rcases hcases s hs with ⟨hs, hsne⟩ | rfl
    · exact absurd (Option.some.inj (hold.symm.trans (h.only s hs hr))).symm hsne
    · exact Nature.suits_listening t
  · -- Whoever was on the old listener is inbound, so it may be on the new one.
    rcases h.nature_of_link he hlink hnold with ⟨-, hd⟩ | ⟨hout, -⟩
    · exact .inl ⟨rfl, hd⟩
    · exact absurd (hrole.symm.trans hout) (by decide)
  · rcases hcases s hs with ⟨hs, hsne⟩ | rfl
    · exact served_relink h hs hsne hr
    · exact nomatch hr

theorem Rebound.mem_closeOutbound (h : o.Rebound) {s : SocketId × Nature} :
    s ∈ o.closeOutbound.sockets ↔ s ∈ o.sockets ∧ s.2.role = .listener := by
  simp only [Outline.closeOutbound, isOther, List.mem_filter, Bool.not_eq_true', List.any_eq_false,
    Bool.and_eq_true, beq_iff_eq, bne_iff_ne, not_and, ne_eq, not_not]
  refine and_congr_right fun hs => ⟨fun hall => hall s hs rfl, fun hr s' hs' heq => ?_⟩
  rw [h.eq_of_fst_eq hs' hs heq]
  exact hr

theorem Rebound.closeOutbound (h : o.Rebound) : o.closeOutbound.Sound := by
  have hlistener : ∀ l, o.listener = some l → (!o.isOther l) = true := by
    intro l hl
    obtain ⟨n, hn, hr⟩ := h.listener l hl
    exact (List.mem_filter.mp (h.mem_closeOutbound.mpr ⟨hn, hr⟩)).2
  refine { h.toTable.filter (!o.isOther ·) hlistener with
    retries := fun id hid => ?_
    suits := fun s hs => ?_
    numbered := h.numbered.map (channel_detachEntry o.isOther)
    concrete := concrete_map h.concrete (channel_detachEntry o.isOther)
    linked := fun e he id hid => ?_
    served := fun s hs hr => ?_
    opened := fun _ => h.raised
    closed := fun ho => absurd (h.isOpen.symm.trans ho) (by decide) }
  · obtain ⟨hlt, hout⟩ := h.retries id (List.mem_filter.mp hid).1
    exact ⟨hlt, fun n hn => hout n (List.mem_filter.mp hn).1⟩
  · obtain ⟨hs, hr⟩ := h.mem_closeOutbound.mp hs
    exact h.suits s hs hr
  · -- A link that is left leads to a socket that stays.
    obtain ⟨e', he', rfl⟩ := List.mem_map.mp he
    rw [channel_detachEntry]
    rw [socket_detachEntry] at hid
    split_ifs at hid with hgone
    obtain ⟨n, hn, hf⟩ := h.linked e' he' id hid
    rw [hid] at hgone
    exact ⟨n, List.mem_filter.mpr ⟨hn, by simpa using hgone⟩, hf⟩
  · have := (h.mem_closeOutbound.mp hs).2
    exact absurd (this.symm.trans hr) (by decide)

/-- Where the transport stays, nothing is amiss after the listener moved. -/
theorem Sound.of_rebind (h : o.Sound) {next : SocketId} (ho : o.isOpen = true)
    (hnext : o.nextSocket < next) : (o.rebind o.transport next).Sound := by
  have hrebound := h.rebind o.transport ho hnext
  have hsuits : ∀ s ∈ (o.rebind o.transport next).sockets,
      s.2.Suits (o.rebind o.transport next).transport := by
    unfold Outline.rebind
    have hraise : ∀ s ∈ (o.raise o.transport next).sockets, s.2.Suits o.transport := by
      intro s hs
      rcases (mem_sockets_raise _ _).mp hs with hs | rfl
      · exact h.suits s hs
      · exact Nature.suits_listening _
    split
    · exact hraise
    · exact fun s hs => hraise s (mem_sockets_erase.mp hs).1
  exact { hrebound with
    suits := hsuits
    opened := fun _ => hrebound.raised
    closed := fun hc => absurd (hrebound.isOpen.symm.trans hc) (by decide) }

theorem Sound.joined (h : o.Sound) {c : Channel} {id : SocketId} {sharing : Sharing}
    (ho : o.isOpen = true) (hc : { channel := c } ∈ o.entries)
    (hid : (∃ e ∈ o.entries, e.socket = some id ∧ e.channel.remote = c.remote ∧
        (c.direction = .outbound → o.listener ≠ some id)) ∨
      c.direction = .inbound ∧ o.listener = some id) :
    (o.onEntries (·.map (linkEntry c id sharing o.listener))).Sound := by
  -- What fits a channel with the same remote fits this one, and no outbound one joins the listener.
  have hfits : ∃ n, (id, n) ∈ o.sockets ∧ c.Fits n ∧ (n.role = .listener → o.listener = some id) := by
    rcases hid with ⟨e, he, hs, hremote, hdir⟩ | ⟨hd, hl⟩
    · obtain ⟨n, hn, hf⟩ := h.linked e he id hs
      refine ⟨n, hn, ?_, h.only _ hn⟩
      rcases hf with ⟨hr, -⟩ | ⟨hr, remote, hfar, he'⟩
      · refine .inl ⟨hr, ?_⟩
        cases hd : c.direction with
        | inbound => rfl
        | outbound => exact absurd (h.only _ hn hr) (hdir hd)
      · exact .inr ⟨hr, remote, hfar, hremote.symm.trans he'⟩
    · obtain ⟨n, hn, hr⟩ := h.listener id hl
      exact ⟨n, hn, .inl ⟨hr, hd⟩, fun _ => hl⟩
  obtain ⟨n, hn, hf, hl⟩ := hfits
  refine { h with
    numbered := h.numbered.map (channel_linkEntry c id sharing o.listener)
    concrete := concrete_map h.concrete (channel_linkEntry c id sharing o.listener)
    linked := fun e he i hi => ?_
    served := fun s hs hr => ?_
    closed := fun hc => absurd (ho.symm.trans hc) (by decide) }
  · rcases fits_of_mem_map_linkEntry h.numbered hc hf hl he with ⟨e', he', hch, hsame⟩ | ⟨hs, hfe⟩
    · rw [← hch]
      exact h.linked e' he' i (hsame ▸ hi)
    · obtain rfl := Option.some.inj (hs.symm.trans hi)
      exact ⟨n, hn, hfe⟩
  · obtain ⟨e, he, hlink⟩ := h.served s hs hr
    refine ⟨e, List.mem_map.mpr ⟨e, he, ?_⟩, hlink⟩
    exact linkEntry_eq_self h.numbered id sharing hc he hlink

theorem Sound.connected (h : o.Sound) {c : Channel} {remote : Endpoint} {next : SocketId}
    {sharing : Sharing} (ho : o.isOpen = true) (hc : { channel := c } ∈ o.entries)
    (hr : c.remote = .endpoint remote) (hnext : o.nextSocket < next) :
    ((o.add (.outgoing o.transport remote) next).onEntries
      (·.map (linkEntry c o.nextSocket sharing o.listener))).Sound := by
  have hfits : c.Fits (.outgoing o.transport remote) := .inr ⟨rfl, remote, rfl, hr⟩
  refine { h.toTable.add (n := .outgoing o.transport remote) (fun hr => nomatch hr) ⟨remote, rfl⟩ hnext with
    suits := fun s hs => ?_
    numbered := h.numbered.map (channel_linkEntry c _ sharing o.listener)
    concrete := concrete_map h.concrete (channel_linkEntry c _ sharing o.listener)
    linked := fun e he i hi => ?_
    served := fun s hs hr => ?_
    opened := h.opened
    closed := fun hc => absurd (ho.symm.trans hc) (by decide) }
  · rcases (mem_sockets_add next).mp hs with hs | rfl
    · exact h.suits s hs
    · exact Nature.suits_outgoing _ _
  · rcases fits_of_mem_map_linkEntry h.numbered hc hfits (fun hr => nomatch hr) he with
      ⟨e', he', hch, hsame⟩ | ⟨hs, hfe⟩
    · obtain ⟨n, hn, hf⟩ := h.linked e' he' i (hsame ▸ hi)
      exact ⟨n, (mem_sockets_add next).mpr (.inl hn), hch ▸ hf⟩
    · obtain rfl := Option.some.inj (hs.symm.trans hi)
      exact ⟨_, (mem_sockets_add next).mpr (.inr rfl), hfe⟩
  · rcases (mem_sockets_add next).mp hs with hs | rfl
    · obtain ⟨e, he, hlink⟩ := h.served s hs hr
      refine ⟨e, List.mem_map.mpr ⟨e, he, ?_⟩, hlink⟩
      exact linkEntry_eq_self h.numbered _ sharing hc he hlink
    · -- The new socket serves at least the channel that it was opened for.
      exact ⟨_, List.mem_map_of_mem hc, socket_linkEntry_self ..⟩

theorem Sound.substitute (h : o.Sound) {old : SocketId} {n : Nature} {remote : Endpoint}
    {next : SocketId} (ho : o.isOpen = true) (hs : (old, n) ∈ o.sockets) (hr : n.role = .outbound)
    (hf : n.farEnd = some remote) (hnext : o.nextSocket < next) :
    (o.substitute old (.outgoing o.transport remote) next).Sound := by
  have hold : o.listener ≠ some old := h.ne_listener hs (by rw [hr]; decide)
  have hnew : (o.nextSocket, Nature.outgoing o.transport remote) ∈
      (o.substitute old (.outgoing o.transport remote) next).sockets :=
    (mem_sockets_add next).mpr (.inr rfl)
  have hkept : ∀ s ∈ o.sockets, s.1 ≠ old →
      s ∈ (o.substitute old (.outgoing o.transport remote) next).sockets :=
    fun s hs hne => (mem_sockets_add next).mpr (.inl (mem_sockets_erase.mpr ⟨hs, hne⟩))
  have hfits : ∀ e ∈ o.entries, e.socket = some old →
      e.channel.Fits (.outgoing o.transport remote) := by
    intro e he hlink
    rcases h.nature_of_link he hlink hs with ⟨hl, -⟩ | ⟨-, remote', hfar, hremote⟩
    · exact absurd (hr.symm.trans hl) (by decide)
    · obtain rfl := Option.some.inj (hf.symm.trans hfar)
      exact .inr ⟨rfl, remote, rfl, hremote⟩
  have htable := (h.toTable.erase hold).add (n := .outgoing o.transport remote)
    (fun hr => nomatch hr) ⟨remote, rfl⟩ hnext
  refine { htable with
    suits := fun s hs => ?_
    numbered := h.numbered.map (channel_relinkEntry old o.nextSocket)
    concrete := concrete_map h.concrete (channel_relinkEntry old o.nextSocket)
    linked := linked_relink h hnew hkept hfits
    served := fun s hs' hr' => ?_
    opened := h.opened
    closed := fun hc => absurd (ho.symm.trans hc) (by decide) }
  · rcases (mem_sockets_add next).mp hs with hs | rfl
    · exact h.suits s (mem_sockets_erase.mp hs).1
    · exact Nature.suits_outgoing _ _
  · rcases (mem_sockets_add next).mp hs' with hs' | rfl
    · obtain ⟨hs', hne⟩ := mem_sockets_erase.mp hs'
      exact served_relink h hs' hne hr'
    · -- Who was on the old socket is on the new one.
      obtain ⟨e, he, hlink⟩ := h.served _ hs hr
      refine ⟨relinkEntry old o.nextSocket e, List.mem_map_of_mem he, ?_⟩
      rw [socket_relinkEntry, if_pos hlink]
      rfl

theorem Sound.retain (h : o.Sound) (p : Channel → Bool) : (o.retain p).Sound := by
  set kept := o.entries.filter fun e => p e.channel with hkept
  -- The listener is no orphan, whoever leaves.
  have htable := h.toTable.filter (!o.isOrphan kept ·) fun l hl => by
    obtain ⟨n, hn, hr⟩ := h.listener l hl
    rw [Bool.not_eq_true', isOrphan, List.any_eq_false]
    rintro ⟨i, n'⟩ hs
    rw [Bool.and_eq_true, Bool.and_eq_true, beq_iff_eq, beq_iff_eq]
    rintro ⟨rfl, hout, -⟩
    rw [h.nature_eq hs hn, hr] at hout
    exact nomatch hout
  refine { htable with
    retries := fun id hid => ?_
    suits := fun s hs => h.suits s (List.mem_filter.mp hs).1
    numbered := h.numbered.filter fun e => p e.channel
    concrete := fun e he => h.concrete e (List.mem_filter.mp he).1
    linked := fun e he id hid => ?_
    served := fun s hs hr => ?_
    opened := h.opened
    closed := fun hc => ?_ }
  · obtain ⟨hlt, hout⟩ := h.retries id (List.mem_filter.mp hid).1
    exact ⟨hlt, fun n hn => hout n (List.mem_filter.mp hn).1⟩
  · -- Nor is a socket with a channel that stays.
    obtain ⟨n, hn, hf⟩ := h.linked e (List.mem_filter.mp he).1 id hid
    have hserves : kept.any (fun e => e.socket == some id) = true :=
      List.any_eq_true.mpr ⟨e, he, beq_iff_eq.mpr hid⟩
    refine ⟨n, List.mem_filter.mpr ⟨hn, ?_⟩, hf⟩
    rw [Bool.not_eq_true', isOrphan, List.any_eq_false]
    rintro ⟨i, n'⟩ -
    rw [Bool.and_eq_true, Bool.and_eq_true, beq_iff_eq]
    rintro ⟨rfl, -, hunserved⟩
    rw [hserves] at hunserved
    exact nomatch hunserved
  · obtain ⟨hs, hstay⟩ := List.mem_filter.mp hs
    rw [Bool.not_eq_true', isOrphan, List.any_eq_false] at hstay
    have hserved := hstay s hs
    rw [beq_self_eq_true, hr, beq_self_eq_true, Bool.true_and, Bool.true_and, Bool.not_eq_true',
      Bool.not_eq_false, List.any_eq_true] at hserved
    obtain ⟨e, he, hlink⟩ := hserved
    exact ⟨e, he, beq_iff_eq.mp hlink⟩
  · obtain ⟨hs, hl, hret, ha, hw⟩ := h.closed hc
    refine ⟨?_, hl, ?_, ha, ?_⟩
    · change o.sockets.filter _ = []
      rw [hs, List.filter_nil]
    · change o.retries.filter _ = []
      rw [hret, List.filter_nil]
    · change o.outbox.writes.filter _ = []
      rw [hw, List.filter_nil]

theorem Sound.enrolled (h : o.Sound) {c : Channel} (hh : c.home = o.directory.home)
    (hid : c.id = o.directory.senders.length)
    (hd : c.direction = .outbound → c.remote.isMask = false) :
    Sound { o with directory :=
      ⟨o.directory.home, o.entries ++ [{ channel := c }], o.directory.senders ++ [none]⟩ } := by
  refine { h with
    numbered := h.numbered.append hh hid
    concrete := fun e he => ?_
    linked := fun e he id hlink => ?_
    served := fun s hs hr => ?_ }
  · rcases List.mem_append.mp he with he | he
    · exact h.concrete e he
    · rw [List.mem_singleton.mp he]
      exact hd
  · rcases List.mem_append.mp he with he | he
    · exact h.linked e he id hlink
    · rw [List.mem_singleton.mp he] at hlink
      exact nomatch hlink
  · obtain ⟨e, he, hlink⟩ := h.served s hs hr
    exact ⟨e, List.mem_append_left _ he, hlink⟩

theorem Sound.raise (h : o.Sound) (ho : o.isOpen = false) {next : SocketId}
    (hnext : o.nextSocket < next) : Sound { o.raise o.transport next with isOpen := true } := by
  obtain ⟨hnone, hlis, hret, -, -⟩ := h.closed ho
  have hsingle : (o.raise o.transport next).sockets = [(o.nextSocket, .listening o.transport)] := by
    change o.sockets ++ _ = _
    rw [hnone, List.nil_append]
  have htable := h.toTable.raise_filter o.transport hnext (fun _ => true) rfl
    fun l hl => by simp [hlis] at hl
  rw [List.filter_true] at htable
  have hmem : ∀ s ∈ (o.raise o.transport next).sockets, s.2 = .listening o.transport := by
    intro s hs
    rw [hsingle, List.mem_singleton] at hs
    rw [hs]
  refine { htable with
    suits := fun s hs => ?_
    numbered := h.numbered
    concrete := h.concrete
    linked := fun e he id hid => ?_
    served := fun s hs hr => ?_
    opened := fun _ hn => nomatch hn
    closed := fun hc => nomatch hc }
  · rw [hmem s hs]
    exact Nature.suits_listening _
  · obtain ⟨n, hn, -⟩ := h.linked e he id hid
    rw [hnone] at hn
    exact nomatch hn
  · rw [hmem s hs] at hr
    exact nomatch hr

/-- An outline that is closed and has nothing but channels without sockets is sound. -/
theorem sound_of_closed (hopen : o.isOpen = false) (hempty : o.sockets = [] ∧ o.listener = none ∧
    o.retries = [] ∧ o.announcements = [] ∧ o.outbox.writes = []) (hn : o.directory.Numbered)
    (hc : ∀ e ∈ o.entries, e.channel.direction = .outbound → e.channel.remote.isMask = false)
    (hlinks : ∀ e ∈ o.entries, e.socket = none) : o.Sound := by
  have ⟨hs, hl, hr, _⟩ := hempty
  have hnone : ∀ s, s ∉ o.sockets := by simp [hs]
  exact {
    distinct := by simp [hs]
    below := fun s hmem => absurd hmem (hnone s)
    listener := fun l hsome => nomatch hl.symm.trans hsome
    only := fun s hmem => absurd hmem (hnone s)
    farEnd := fun s hmem => absurd hmem (hnone s)
    retries := fun id hmem => by simp [hr] at hmem
    suits := fun s hmem => absurd hmem (hnone s)
    numbered := hn
    concrete := hc
    linked := fun e he id hid => nomatch (hlinks e he).symm.trans hid
    served := fun s hmem => absurd hmem (hnone s)
    opened := fun ho => nomatch hopen.symm.trans ho
    closed := fun _ => hempty }

/-- **Every move keeps an outline sound.** -/
theorem Sound.move (h : o.Sound) {o' : Outline} (hm : Move o o') : o'.Sound := by
  cases hm with
  | event he => exact h.event he
  | @passed o' p hpass hp hstay =>
    have hafter := h.passMoves hpass
    refine { hafter with closed := fun hc => ?_ }
    obtain ⟨hs, hl, hret, ha, hw⟩ := hafter.closed hc
    refine ⟨hs, hl, hret, ha, ?_⟩
    change o'.outbox.writes.filter p = []
    rw [hw, List.filter_nil]
  | opened next ho hnext => exact h.raise ho hnext
  | closed ho =>
    refine sound_of_closed rfl ⟨rfl, rfl, rfl, rfl, rfl⟩ (h.numbered.map fun e => rfl)
      (concrete_map h.concrete fun e => rfl) fun e he => ?_
    obtain ⟨e', he', rfl⟩ := List.mem_map.mp he
    rfl
  | cleared ho =>
    obtain ⟨hs, hl, hret, ha, -⟩ := h.closed ho
    exact { h with closed := fun _ => ⟨hs, hl, hret, ha, rfl⟩ }
  | adopted t ht =>
    refine { h with suits := fun s hs => ?_ }
    cases ho : o.isOpen with
    | true => exact ht ho ▸ h.suits s hs
    | false =>
      rw [show o.sockets = [] from (h.closed ho).1] at hs
      exact nomatch hs
  | moved t next ho hnext =>
    split_ifs with hne
    · exact (h.rebind t ho hnext).closeOutbound
    · obtain rfl := not_not.mp hne
      exact h.of_rebind ho hnext
  | enrolled hh hid hd => exact h.enrolled hh hid hd
  | joined sharing ho hc hid => exact h.joined ho hc hid
  | connected next sharing ho hc hr hnext => exact h.connected ho hc hr hnext
  | substituted next ho hs hr hf hnext => exact h.substitute ho hs hr hf hnext
  | retained p => exact h.retain p
  | queued data call ho he hid hl =>
    exact { h with closed := fun hc => absurd (ho.symm.trans hc) (by decide) }
  | told => exact { h with closed := fun hc =>
      ⟨(h.closed hc).1, (h.closed hc).2.1, (h.closed hc).2.2.1, rfl, (h.closed hc).2.2.2.2⟩ }

theorem Sound.moves (h : o.Sound) {o' : Outline} (hm : Moves o o') : o'.Sound := by
  induction hm with
  | refl => exact h
  | tail _ hstep ih => exact ih.move hstep

end Outline

end Switchboard
