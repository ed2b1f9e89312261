import Switchboard.Proofs.Announcements.Telling
import Switchboard.Proofs.Outline.LinksKept

/-!
# Everybody is told once

Whoever is up on a socket was announced for it, and nobody was announced twice for one socket.  What
carries this is what becomes of a channel that was up on a socket, once and for all (`HadTurn`): it
stays linked to that socket as long as both are there, the socket never waits for its connection again,
and neither number is given a second time.  So who goes down on a socket never comes up on it again.

A `History` tells when somebody was up.  The channels that were announced are just those that were up
on their socket at some moment of it (`History.mem_activations`).
-/

namespace Switchboard.Exchange

open Net Settings Relation Directory Outline

variable {ν : Type} {x y z : Exchange ν} {c : Channel} {i : SocketId}

/-- **The channel had its turn on the socket:** if both are still there it is linked to it, and the
socket, which is an outbound one, waits for no connection. -/
structure HadTurn (x : Exchange ν) (c : Channel) (i : SocketId) : Prop where
  socket : i < x.nextSocket
  channel : c.id < x.directory.statuses.length
  stays : ∀ s, x.sockets.find? i = some s → (s.role = .outbound ∧ s.phase ≠ .connecting) ∧
    (c ∈ x.directory.channels → c ∈ x.directory.onSocket i)

theorem hadTurn_of_up (h : x.outline.Sound) (hup : x.Up c i) : x.HadTurn c i := by
  obtain ⟨hlink, s, hs, hr, hp⟩ := hup
  obtain ⟨e, he, hsocket, rfl⟩ := mem_onSocket.mp hlink
  have hn := Sockets.mem_natures.mpr ⟨s, Sockets.mem_of_find? hs, rfl⟩
  -- Channels are linked to the listener or to outbound sockets.
  have hrole : s.role = .outbound := by
    rcases h.nature_of_link he hsocket hn with ⟨hl, -⟩ | ⟨hout, -⟩
    · exact absurd hl hr
    · exact hout
  constructor
  · exact h.below _ hn
  · rw [← length_senders]
    exact h.numbered.below e he
  · intro s' hs'
    obtain rfl := Option.some.inj (hs.symm.trans hs')
    exact ⟨⟨hrole, by simp [hp]⟩, fun _ => hlink⟩

variable [Network ν]

/-- A socket that has a number already was there before. -/
theorem find?_before (h : x.outline.Sound) (hc : Change x y) (hi : i < x.nextSocket) {s' : Socket}
    (hs' : y.sockets.find? i = some s') :
    ∃ s, x.sockets.find? i = some s ∧ s.nature = s'.nature := by
  have hmem := Sockets.mem_natures.mpr ⟨s', Sockets.mem_of_find? hs', rfl⟩
  have hold := ((grows_change h hc).sockets _ hmem).resolve_right (Nat.not_le.mpr hi)
  exact find?_of_mem_natures h hold

/-- A channel that has a number already was there before. -/
theorem mem_channels_before (h : x.outline.Sound) (hc : Change x y)
    (hid : c.id < x.directory.statuses.length) (hmem : c ∈ y.directory.channels) :
    c ∈ x.directory.channels := by
  obtain ⟨e', he', rfl⟩ := List.mem_map.mp hmem
  rw [← length_senders] at hid
  obtain ⟨e, he, heq⟩ := ((grows_change h hc).channels e' he').resolve_right (Nat.not_le.mpr hid)
  exact heq ▸ List.mem_map_of_mem he

/-- **A channel stays on its socket** as long as both are there. -/
theorem mem_onSocket_change (h : x.outline.Sound) (hc : Change x y)
    (hlink : c ∈ x.directory.onSocket i) (hmem : c ∈ y.directory.channels) {s' : Socket}
    (hs' : y.sockets.find? i = some s') : c ∈ y.directory.onSocket i := by
  obtain ⟨e, he, hi, rfl⟩ := mem_onSocket.mp hlink
  obtain ⟨e', he', hch⟩ := List.mem_map.mp hmem
  have hn := Sockets.mem_natures.mpr ⟨s', Sockets.mem_of_find? hs', rfl⟩
  have hkept : e'.socket = some i := by
    rcases moves_or_passMoves h hc with hmoves | hpass
    · exact socket_kept_moves h hmoves he he' hch hi hn
    · -- A pass leaves links alone.
      rw [show y.directory.entries = x.directory.entries from (entries_passMoves hpass).1] at he'
      rwa [h.numbered.eq_of_id_eq he' he (congrArg Channel.id hch)]
  exact mem_onSocket.mpr ⟨e', he', hkept, hch⟩

/-- Having had its turn is for ever. -/
theorem HadTurn.change (h : x.outline.Sound) (hc : Change x y) {new : List (Channel × SocketId)}
    (hr : Raises new x y) (hp : x.HadTurn c i) : y.HadTurn c i := by
  constructor
  · exact Nat.lt_of_lt_of_le hp.socket hr.next
  · have hgrown := (grows_change h hc).senders
    rw [length_senders, length_senders] at hgrown
    exact Nat.lt_of_lt_of_le hp.channel hgrown
  · intro s' hs'
    obtain ⟨s, hs, hnature⟩ := find?_before h hc hp.socket hs'
    obtain ⟨⟨hrole, hphase⟩, hlink⟩ := hp.stays s hs
    -- A socket never goes back to waiting for its connection, and the link is kept.
    refine ⟨⟨(congrArg Nature.role hnature).symm.trans hrole, fun hp' => ?_⟩, fun hmem => ?_⟩
    · have hlive : s'.isLive = true := by simp [Socket.isLive, hp']
      obtain ⟨s₀, hs₀, hbefore⟩ := (hr.proceed i s' hs' hlive).resolve_left (Nat.not_le.mpr hp.socket)
      rw [← Option.some.inj (hs.symm.trans hs₀), hp', or_self] at hbefore
      exact hphase hbefore
    · have hbefore := mem_channels_before h hc hp.channel hmem
      exact mem_onSocket_change h hc (hlink hbefore) hmem hs'

/-- **Nobody comes up again** where it had its turn. -/
theorem HadTurn.not_mem (h : x.outline.Sound) (hc : Change x y) {new : List (Channel × SocketId)}
    (hr : Raises new x y) (hp : x.HadTurn c i) : (c, i) ∉ new := by
  intro hnew
  obtain ⟨⟨hlink', s', hs', -, hactive⟩, hdown⟩ := hr.up _ hnew
  obtain ⟨s, hs, -⟩ := find?_before h hc hp.socket hs'
  obtain ⟨⟨hrole, hphase⟩, hlink⟩ := hp.stays s hs
  obtain ⟨e', he', -, hch⟩ := mem_onSocket.mp hlink'
  have hmem := mem_channels_before h hc hp.channel (List.mem_map.mpr ⟨e', he', hch⟩)
  have hlive : s'.isLive = true := by simp [Socket.isLive, hactive]
  obtain ⟨s₀, hs₀, hbefore⟩ := (hr.proceed i s' hs' hlive).resolve_left (Nat.not_le.mpr hp.socket)
  obtain rfl := Option.some.inj (hs.symm.trans hs₀)
  -- The socket was active before, too, and the channel was linked to it.
  refine hdown ⟨hlink hmem, s, hs, ?_, (hbefore.resolve_right hphase).trans hactive⟩
  rw [hrole]
  decide

/-! ### What was announced -/

/-- **Everybody who is up was announced, once.** -/
structure Orderly (x : Exchange ν) : Prop where
  turns : ∀ p ∈ x.activations, x.HadTurn p.1 p.2
  once : x.activations.Nodup
  announced : ∀ c i, x.Up c i → (c, i) ∈ x.activations
  /-- Of the sockets that a channel was announced for, one at most is still there. -/
  oneLeft : ∀ c i j, (c, i) ∈ x.activations → (c, j) ∈ x.activations →
    x.sockets.find? i ≠ none → x.sockets.find? j ≠ none → i = j

theorem Orderly.change (h : x.outline.Sound) (hx : x.Orderly) (hc : Change x y) : y.Orderly := by
  obtain ⟨new, hr⟩ := raises_change h hc
  have hsound := sound_change h hc
  have hcases : ∀ p, p ∈ y.activations ↔ p ∈ x.activations ∨ p ∈ new := by
    intro p
    rw [hr.activations, List.mem_append]
  have hturns : ∀ p ∈ y.activations, y.HadTurn p.1 p.2 := by
    intro p hp
    rcases (hcases p).mp hp with hold | hnew
    · exact (hx.turns p hold).change h hc hr
    · exact hadTurn_of_up hsound (hr.up p hnew).1
  -- Who is up on a socket is on no other one that it was announced for.
  have hmeet : ∀ c i j, (c, i) ∈ new → (c, j) ∈ y.activations → y.sockets.find? j ≠ none → i = j := by
    intro c i j hi hj hthere
    obtain ⟨hlink, -⟩ := (hr.up _ hi).1
    obtain ⟨s, hs⟩ := Option.ne_none_iff_exists'.mp hthere
    obtain ⟨e, he, hsocket, rfl⟩ := mem_onSocket.mp hlink
    obtain ⟨e', he', hsocket', hch⟩ :=
      mem_onSocket.mp (((hturns _ hj).stays s hs).2 (List.mem_map_of_mem he))
    obtain rfl := hsound.numbered.eq_of_id_eq he' he (congrArg Channel.id hch)
    exact Option.some.inj (hsocket.symm.trans hsocket')
  constructor
  · exact hturns
  · rw [hr.activations, List.nodup_append]
    -- Whoever was announced had its turn, and does not come up again.
    refine ⟨hx.once, hr.once, fun p hp q hq heq => ?_⟩
    subst heq
    exact (hx.turns p hp).not_mem h hc hr hq
  · intro c i hup
    rcases hr.noOther c i hup with hbefore | hnew
    · exact (hcases _).mpr (.inl (hx.announced c i hbefore))
    · exact (hcases _).mpr (.inr hnew)
  · intro c i j hi hj hthere hthere'
    rcases (hcases _).mp hi with hiold | hinew
    · rcases (hcases _).mp hj with hjold | hjnew
      · -- Both sockets were there before.
        have hbefore : ∀ k, (c, k) ∈ x.activations → y.sockets.find? k ≠ none →
            x.sockets.find? k ≠ none := by
          intro k hk hsome
          obtain ⟨s', hs'⟩ := Option.ne_none_iff_exists'.mp hsome
          obtain ⟨s, hs, -⟩ := find?_before h hc (hx.turns _ hk).socket hs'
          rw [hs]
          exact Option.some_ne_none s
        exact hx.oneLeft c i j hiold hjold (hbefore i hiold hthere) (hbefore j hjold hthere')
      · exact (hmeet c j i hjnew hi hthere).symm
    · exact hmeet c i j hinew hj hthere'

omit [Network ν] in
theorem orderly_create {name : String} {profile : Profile} {network : ν}
    (hx : create name profile network = .ok x) :
    x.activations = [] ∧ x.announcements = [] ∧ x.Orderly := by
  obtain ⟨hsockets, hactivations, hannouncements⟩ :
      x.sockets = [] ∧ x.activations = [] ∧ x.announcements = [] := by
    unfold create at hx
    split at hx
    · exact nomatch hx
    · rw [← Except.ok.inj hx]
      exact ⟨rfl, rfl, rfl⟩
  refine ⟨hactivations, hannouncements, ?_⟩
  constructor
  · rw [hactivations]
    exact nofun
  · rw [hactivations]
    exact .nil
  · rintro c i ⟨-, s, hs, -⟩
    rw [hsockets] at hs
    exact nomatch (show none = some _ from hs)
  · rw [hactivations]
    exact nofun

theorem Orderly.course (h : x.outline.Sound) (hx : x.Orderly) (hc : Course x y) : y.Orderly := by
  induction hc with
  | refl => exact hx
  | tail hbefore hstep ih => exact ih.change (sound_course h hbefore) hstep

/-- **Who was announced was up at some moment,** and who was up was announced. -/
theorem History.mem_activations {states : List (Exchange ν)} (hh : History x states y)
    (h : x.outline.Sound) (hx : x.Orderly) :
    y.outline.Sound ∧ y.Orderly ∧ ∀ c i, (c, i) ∈ y.activations ↔
      (c, i) ∈ x.activations ∨ ∃ z ∈ states, z.Up c i := by
  induction hh with
  | start =>
    refine ⟨h, hx, fun c i => ⟨.inl, ?_⟩⟩
    rintro (hold | ⟨z, hz, hup⟩)
    · exact hold
    · rw [List.mem_singleton.mp hz] at hup
      exact hx.announced c i hup
  | @next states y z _ hc ih =>
    obtain ⟨hsound, horderly, hmem⟩ := ih
    have hafter := horderly.change hsound hc
    obtain ⟨new, hr⟩ := raises_change hsound hc
    refine ⟨sound_change hsound hc, hafter, fun c i => ?_⟩
    have hcases : (c, i) ∈ z.activations ↔ (c, i) ∈ y.activations ∨ (c, i) ∈ new := by
      rw [hr.activations, List.mem_append]
    constructor
    · intro hnow
      rcases hcases.mp hnow with hbefore | hnew
      · rcases (hmem c i).mp hbefore with hold | ⟨w, hw, hup⟩
        · exact .inl hold
        · exact .inr ⟨w, List.mem_cons_of_mem z hw, hup⟩
      · exact .inr ⟨z, List.mem_cons_self, (hr.up _ hnew).1⟩
    · rintro (hold | ⟨w, hw, hup⟩)
      · exact hcases.mpr (.inl ((hmem c i).mpr (.inl hold)))
      · rcases List.mem_cons.mp hw with rfl | hw
        · exact hafter.announced c i hup
        · exact hcases.mpr (.inl ((hmem c i).mpr (.inr ⟨w, hw, hup⟩)))

end Switchboard.Exchange
