import Switchboard.Proofs.Narrow
import Switchboard.Proofs.Outline.Operations

/-!
# Links and sockets

In every state that an exchange can come into, whatever was asked of it and whatever the network
answered, the links of the channels and the table of the sockets agree (`Reachable.agreement`).
-/

namespace Switchboard.Exchange

open Net Settings Outline

variable {ν : Type}

/-- **Links and sockets agree,** in an open exchange. -/
structure Agrees (x : Exchange ν) : Prop where
  /-- There is one listener. -/
  listener : ∃ l, x.listener = some l ∧ x.sockets.idsWhere (fun _ s => s.role == .listener) = [l]
  /-- A link leads to a tracked socket, the listener or an outbound one. -/
  links : ∀ e ∈ x.directory.entries, ∀ id, e.socket = some id →
    ∃ s, x.sockets.find? id = some s ∧ (s.role = .listener ∨ s.role = .outbound)
  /-- No outbound channel is on the listener. -/
  outbound : ∀ e ∈ x.directory.entries, e.channel.direction = .outbound → ∀ l,
    x.listener = some l → e.socket ≠ some l
  /-- An outbound socket serves somebody. -/
  served : ∀ s ∈ x.sockets, s.2.role = .outbound → x.directory.onSocket s.1 ≠ []
  /-- Whoever is on an outbound socket has its far end for a remote. -/
  remotes : ∀ s ∈ x.sockets, s.2.role = .outbound → ∀ c ∈ x.directory.onSocket s.1,
    ∃ remote, c.remote = .endpoint remote ∧ s.2.farEnd = some remote
  /-- The sockets are of the kind that the transport asks for. -/
  media : ∀ s ∈ x.sockets, s.2.medium = s.2.role.medium x.profile.transport

/-- **There is nothing,** in an exchange that is closed. -/
structure Bare (x : Exchange ν) : Prop where
  sockets : x.sockets = []
  links : ∀ e ∈ x.directory.entries, e.socket = none
  schedule : x.schedule = []
  announcements : x.announcements = []
  writes : x.outbox.writes = []

theorem mem_sockets_outline {x : Exchange ν} {s : SocketId × Socket} (hs : s ∈ x.sockets) :
    (s.1, s.2.nature) ∈ x.outline.sockets :=
  Sockets.mem_natures.mpr ⟨s.2, hs, rfl⟩

/-- What passes a test of distinct things is one thing at most. -/
theorem idsWhere_eq_singleton {t : Sockets} (hd : (t.map Prod.fst).Nodup)
    {p : SocketId → Socket → Bool} {l : SocketId} {s : Socket} (hs : (l, s) ∈ t) (hp : p l s = true)
    (honly : ∀ id s, (id, s) ∈ t → p id s = true → id = l) : t.idsWhere p = [l] := by
  have hnodup : (t.idsWhere p).Nodup := hd.sublist (List.filter_sublist.map _)
  have hmem : ∀ id, id ∈ t.idsWhere p ↔ id ∈ [l] := by
    intro id
    rw [Sockets.mem_idsWhere, List.mem_singleton]
    constructor
    · rintro ⟨s', hs', hp'⟩
      exact honly id s' hs' hp'
    · rintro rfl
      exact ⟨s, hs, hp⟩
  exact List.perm_singleton.mp ((List.perm_ext_iff_of_nodup hnodup (List.nodup_singleton l)).mpr hmem)

theorem agrees_of_sound {x : Exchange ν} (h : x.outline.Sound) (ho : x.isOpen = true) :
    x.Agrees where
  listener := by
    obtain ⟨l, hl⟩ := Option.ne_none_iff_exists'.mp (h.opened ho)
    obtain ⟨n, hn, hr⟩ := h.listener l hl
    obtain ⟨s, hs, rfl⟩ := Sockets.mem_natures.mp hn
    have hd : (x.sockets.map Prod.fst).Nodup := Sockets.map_fst_natures x.sockets ▸ h.distinct
    refine ⟨l, hl, idsWhere_eq_singleton hd hs (beq_iff_eq.mpr hr) fun id s' hs' hr' => ?_⟩
    have hl' := h.only _ (mem_sockets_outline hs') (beq_iff_eq.mp hr')
    exact Option.some.inj (hl'.symm.trans hl)
  links e he id hid := by
    obtain ⟨n, hn, hf⟩ := h.linked e he id hid
    obtain ⟨s, hs, rfl⟩ := find?_of_mem_natures h hn
    exact ⟨s, hs, hf.imp And.left And.left⟩
  outbound e he hd l hl hs := by
    obtain ⟨n, hn, hr⟩ := h.listener l hl
    rcases h.nature_of_link he hs hn with ⟨-, hin⟩ | ⟨hout, -⟩
    · exact nomatch hd.symm.trans hin
    · exact nomatch hr.symm.trans hout
  served s hs hr := by
    obtain ⟨e, he, hlink⟩ := h.served _ (mem_sockets_outline hs) hr
    exact List.ne_nil_of_mem (Directory.mem_onSocket.mpr ⟨e, he, hlink, rfl⟩)
  remotes s hs hr c hc := by
    -- Only a channel that is on the listener fits without having the far end for a remote.
    obtain ⟨e, he, hlink, rfl⟩ := Directory.mem_onSocket.mp hc
    rcases h.nature_of_link he hlink (mem_sockets_outline hs) with ⟨hl, -⟩ | ⟨-, remote, hfar, hc⟩
    · exact nomatch hr.symm.trans hl
    · exact ⟨remote, hc, hfar⟩
  media s hs := h.suits _ (mem_sockets_outline hs)

theorem bare_of_sound {x : Exchange ν} (h : x.outline.Sound) (hc : x.isOpen = false) :
    x.Bare := by
  obtain ⟨hsockets, -, hretries, hannouncements, hwrites⟩ := h.closed hc
  constructor
  · exact List.map_eq_nil_iff.mp hsockets
  · intro e he
    cases hs : e.socket with
    | none => rfl
    | some id =>
      obtain ⟨n, hn, -⟩ := h.linked e he id hs
      rw [hsockets] at hn
      exact nomatch hn
  · exact List.map_eq_nil_iff.mp hretries
  · exact hannouncements
  · exact hwrites

variable [Network ν]

/-- **In every state that there is, links and sockets agree while the exchange is open, and there is
nothing while it is closed.** -/
theorem Reachable.agreement {x : Exchange ν} (h : x.Reachable) :
    (x.isOpen = true → x.Agrees) ∧ (x.isOpen = false → x.Bare) :=
  ⟨agrees_of_sound h.sound, bare_of_sound h.sound⟩

theorem agrees_lab : lab.isOpen = true ∧ lab.Agrees :=
  ⟨rfl, (Reachable.agreement reachable_lab).1 rfl⟩

end Switchboard.Exchange
