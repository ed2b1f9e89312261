import Switchboard.Proofs.Outline.Sound

/-!
# Where writes go

What the target of a write says about links (`links_of_target?`), which links give a target
(`target?_of_links`), and that the next write of a socket is the first that goes there
(`nextWrite?_spec`).  All of this is about exchanges whose outline is sound.
-/

namespace Switchboard.Exchange

open Net Settings Outline Directory

variable {ν : Type}

theorem links_iff {x : Exchange ν} (h : x.outline.Sound) {c : Channel} {id : SocketId} :
    x.outline.Links c id ↔ x.directory.socketOf c.id = some id := by
  constructor
  · rintro ⟨e, he, hid, hs⟩
    rw [← hid, socketOf_of_mem h.numbered he, hs]
  · exact exists_of_socketOf

theorem find?_of_mem_natures {x : Exchange ν} (h : x.outline.Sound) {id : SocketId} {n : Nature}
    (hn : (id, n) ∈ x.outline.sockets) : ∃ s, x.sockets.find? id = some s ∧ s.nature = n := by
  obtain ⟨s, hs, hnature⟩ := Sockets.mem_natures.mp hn
  have hd : (x.sockets.map Prod.fst).Nodup := Sockets.map_fst_natures x.sockets ▸ h.distinct
  exact ⟨s, Sockets.find?_of_mem hd hs, hnature⟩

/-- Where the writes of a channel go that has no socket of its own: to its concrete remote, or to
the last sender. -/
def far? (x : Exchange ν) (c : Channel) : Option Endpoint :=
  c.remote.endpoint? <|> (x.directory.status c).lastSender

/-- A write goes through the socket that its channel is linked to, to a far end of its own where
that is the listener, or through a connection that the listener took in from there. -/
theorem links_of_target? {x : Exchange ν} (h : x.outline.Sound) {c : Channel} {id : SocketId}
    {target : Option Endpoint} (ht : x.target? c = some (id, target)) :
    x.outline.Links c id ∧ (x.listener = some id → target = x.far? c ∧ target ≠ none ∧
        ∃ s, x.sockets.find? id = some s ∧ s.medium = .datagram) ∨
      ∃ l n, x.listener = some l ∧ x.outline.Links c l ∧ (id, n) ∈ x.outline.sockets ∧
        n.role = .accepted ∧ n.farEnd = x.far? c := by
  unfold target? at ht
  split at ht
  · exact nomatch ht
  · rename_i link hlink
    rw [← links_iff h] at hlink
    split_ifs at ht with hlistener
    · obtain rfl := (Prod.mk.inj (Option.some.inj ht)).1
      refine .inl ⟨hlink, fun hl => ?_⟩
      simp [isListener, hl] at hlistener
    · split at ht
      · exact nomatch ht
      · rename_i far hfar
        split at ht
        · rename_i hm
          obtain ⟨rfl, rfl⟩ := Prod.mk.inj (Option.some.inj ht)
          obtain ⟨s, hs, hmedium⟩ := Option.map_eq_some_iff.mp hm
          exact .inl ⟨hlink, fun _ => ⟨hfar.symm, Option.some_ne_none far, s, hs, hmedium⟩⟩
        · obtain ⟨i, hi, heq⟩ := Option.map_eq_some_iff.mp ht
          obtain rfl := (Prod.mk.inj heq).1
          obtain ⟨s, hs, htest⟩ := Sockets.mem_idsWhere.mp (List.mem_of_mem_head? hi)
          rw [Bool.and_eq_true, beq_iff_eq, beq_iff_eq] at htest
          refine .inr ⟨link, s.nature, ?_, hlink, Sockets.mem_natures.mpr ⟨s, hs, rfl⟩, htest.1,
            htest.2.trans hfar.symm⟩
          simpa [isListener] using hlistener
        · exact nomatch ht

/-- A write is given a far end only on a listener for datagrams. -/
theorem listener_of_target? {x : Exchange ν} {c : Channel} {id : SocketId} {far : Endpoint}
    (ht : x.target? c = some (id, some far)) :
    x.listener = some id ∧ ∃ s, x.sockets.find? id = some s ∧ s.medium = .datagram := by
  unfold target? at ht
  split at ht
  · exact nomatch ht
  · split_ifs at ht with hlistener
    · exact nomatch (Prod.mk.inj (Option.some.inj ht)).2
    · split at ht
      · exact nomatch ht
      · split at ht
        · rename_i hm
          obtain ⟨rfl, -⟩ := Prod.mk.inj (Option.some.inj ht)
          refine ⟨?_, Option.map_eq_some_iff.mp hm⟩
          simpa [isListener] using hlistener
        · obtain ⟨i, -, heq⟩ := Option.map_eq_some_iff.mp ht
          exact nomatch (Prod.mk.inj heq).2
        · exact nomatch ht

/-- Who knows where a write goes is linked, and on the listener it has a far end to send to. -/
theorem knows_of_target? {x : Exchange ν} (h : x.outline.Sound) {c : Channel}
    {r : SocketId × Option Endpoint} (ht : x.target? c = some r) :
    ∃ link, x.outline.Links c link ∧ (x.listener = some link → c.remote.isMask = true →
      x.outline.directory.lastSender c ≠ none) := by
  unfold target? at ht
  split at ht
  · exact nomatch ht
  · rename_i link hlink
    refine ⟨link, (links_iff h).mpr hlink, fun hl hm => ?_⟩
    rw [if_neg (by simp [isListener, hl])] at ht
    split at ht
    · exact nomatch ht
    · rename_i far hfar
      cases hr : c.remote with
      | endpoint e =>
        rw [hr] at hm
        exact nomatch hm
      | mask host port =>
        rw [hr, lastSender_status] at hfar
        exact fun hnone => nomatch hfar.symm.trans hnone

/-- Unless it is for connections, a socket is where the writes of its channels go, as far as they
know where to. -/
theorem target?_of_links {x : Exchange ν} (h : x.outline.Sound) {c : Channel} {id : SocketId}
    {n : Nature} (hlink : x.outline.Links c id) (hn : (id, n) ∈ x.outline.sockets)
    (hm : n.medium ≠ .acceptor)
    (hmask : ¬ (c.remote.isMask = true ∧ x.outline.directory.lastSender c = none)) :
    ∃ target, x.target? c = some (id, target) := by
  rw [links_iff h] at hlink
  unfold target?
  rw [hlink]
  dsimp only
  by_cases hl : x.isListener id = false
  · rw [if_pos hl]
    exact ⟨_, rfl⟩
  · rw [if_neg hl]
    have hfar : ∃ far, (c.remote.endpoint? <|> (x.directory.status c).lastSender) = some far := by
      cases hr : c.remote with
      | endpoint e => exact ⟨e, rfl⟩
      | mask host port =>
        rw [hr] at hmask
        rw [lastSender_status]
        exact Option.ne_none_iff_exists'.mp fun hnone => hmask ⟨rfl, hnone⟩
    obtain ⟨far, hfar⟩ := hfar
    obtain ⟨s, hs, rfl⟩ := find?_of_mem_natures h hn
    have hrole : s.role = .listener := by
      have hl : x.listener = some id := by simpa [isListener] using hl
      obtain ⟨n', hn', hr⟩ := h.listener id hl
      rwa [← h.nature_eq hn hn'] at hr
    have hdatagram : s.medium = .datagram := by
      have hsuits : s.medium = s.role.medium x.profile.transport := h.suits _ hn
      rw [hrole] at hsuits
      cases ht : x.profile.transport with
      | datagram => rwa [ht] at hsuits
      | stream =>
        rw [ht] at hsuits
        exact absurd hsuits hm
    rw [hfar, hs, Option.map_some, hdatagram]
    exact ⟨_, rfl⟩

/-- The writes of the channels of an outbound socket go there. -/
theorem target?_of_outbound {x : Exchange ν} (h : x.outline.Sound) {c : Channel} {id : SocketId}
    {n : Nature} (hlink : x.outline.Links c id) (hn : (id, n) ∈ x.outline.sockets)
    (hr : n.role = .outbound) : ∃ target, x.target? c = some (id, target) := by
  rw [links_iff h] at hlink
  have hl : x.isListener id = false := by
    rw [isListener, beq_eq_false_iff_ne]
    intro hl
    obtain ⟨n', hn', hr'⟩ := h.listener id hl
    rw [← h.nature_eq hn hn'] at hr'
    exact nomatch hr.symm.trans hr'
  unfold target?
  rw [hlink]
  exact ⟨_, if_pos hl⟩

/-- The next write of a socket goes there, and no write before it does. -/
theorem nextWrite?_spec {x : Exchange ν} {id : SocketId} {i : Nat} {w : Write}
    {target : Option Endpoint} (h : x.nextWrite? id = some (i, w, target)) :
    x.outbox.writes[i]? = some w ∧ x.target? w.channel = some (id, target) ∧
      ∀ w' ∈ x.outbox.writes.take i, ∀ t, x.target? w'.channel ≠ some (id, t) := by
  unfold nextWrite? Outbox.position? at h
  obtain ⟨j, hj, hw⟩ := Option.bind_eq_some_iff.mp h
  obtain ⟨w', hw', heq⟩ := Option.map_eq_some_iff.mp hw
  obtain ⟨rfl, hrest⟩ := Prod.mk.inj heq
  obtain ⟨rfl, rfl⟩ := Prod.mk.inj hrest
  obtain ⟨hlt, hp, hbefore⟩ := List.findIdx?_eq_some_iff_getElem.mp hj
  obtain ⟨_, hget⟩ := List.getElem?_eq_some_iff.mp hw'
  refine ⟨hw', ?_, fun v hv t ht => ?_⟩
  · rw [hget] at hp
    obtain ⟨⟨i, t⟩, ht, hi⟩ := (Option.any_eq_true _ _).mp hp
    obtain rfl : i = id := beq_iff_eq.mp hi
    rw [ht]
    rfl
  · obtain ⟨k, hk, rfl⟩ := List.mem_take_iff_getElem.mp hv
    refine hbefore k (by omega) ?_
    rw [ht]
    simp

end Switchboard.Exchange
