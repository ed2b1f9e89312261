import Switchboard.Proofs.Announcements.Once
import Switchboard.Proofs.Holding

/-!
# How long a channel is up

A channel that is up on a socket stays up until the channel is let go, the socket fails, the transport
changes, or the exchange is taken out of service (`Up.change`, and over a history
`History.up_or_ended`).  What carries this is that the link holds (`Holds`) as long as the channel is
there, that links lead to sockets, and that a live socket stays as far as it is.
-/

namespace Switchboard.Exchange

open Net Settings Relation Directory Outline

variable {ν : Type} {x y z : Exchange ν} {c : Channel} {i : SocketId}

/-- **What ends it that a channel is up** on a socket: the channel was let go, the socket failed, the
transport is another one, or the exchange was taken out of service. -/
def Ended (x y : Exchange ν) (c : Channel) (i : SocketId) : Prop :=
  c ∉ y.directory.channels ∨ (∃ s, y.sockets.find? i = some s ∧ s.isLive = false) ∨
    y.profile.transport ≠ x.profile.transport ∨ y.isOpen = false

variable [Network ν]

/-! ### Links that hold -/

/-- An attempt for another socket leaves the link alone. -/
theorem holds_attempted (h : x.outline.Sound) {r : Retry} {s : Socket}
    (hs : x.sockets.find? r.socket = some s) (hr : s.role = .outbound) {e : Entry}
    (he : e ∈ x.directory.entries) (hother : e.socket ≠ some r.socket) :
    Holds x.outline (retry r x).outline e := by
  obtain ⟨network, heq | ⟨ownEnd, remote, heq⟩⟩ := retry_cases_of_outbound h hs hr <;> rw [heq]
  · obtain ⟨_, _, hnoted⟩ := scheduleRetry_eq r.socket r.delay
      ((x.attempting r.socket network).modifySocket r.socket
        fun s => { s with phase := .retryScheduled })
    rw [hnoted]
    exact .of_mem he
  · obtain ⟨next, cs, -, houtline⟩ := outline_substitute r.socket
      (Socket.outgoing x.profile.transport ownEnd remote) (x.attempting r.socket network)
    exact .relinked (congrArg Outline.entries houtline) he (.inr hother)

/-- The link of a channel that is up holds. -/
theorem holds_change (h : x.outline.Sound) (hc : Change x y) {e : Entry}
    (he : e ∈ x.directory.entries) (hlink : e.socket = some i) {s : Socket}
    (hs : x.sockets.find? i = some s) (hp : s.phase = .active)
    (hstays : e.channel ∈ y.directory.channels) :
    Holds x.outline y.outline e ∨ y.isOpen = false := by
  cases hc with
  | plain hc =>
    refine .inl ?_
    cases hc with
    | single hstep =>
      rcases holds_singleStep h hstep he with hholds | ⟨kept, rfl, hgone⟩
      · exact hholds
      · exact absurd hstays (not_mem_channels_retain hgone)
    | inPass hstep => exact .of_mem ((entries_passMoves (passMoves_passStep h hstep)).1 ▸ he)
    | given => exact .of_mem he
    | due => exact .of_mem he
    | attempted hs' hr hp' =>
      -- The attempt is for a socket that waits to be replaced, and this one is active.
      refine holds_attempted h hs' hr he fun heq => ?_
      obtain rfl := Option.some.inj (hlink.symm.trans heq)
      rw [← Option.some.inj (hs.symm.trans hs'), hp] at hp'
      exact nomatch hp'
  | deactivated => exact .inr (isOpen_deactivate x)
  | told => exact .inl (.of_mem he)

/-! ### Being up -/

/-- **A channel that is up stays up,** or something ends it. -/
theorem Up.change (h : x.outline.Sound) (hc : Change x y) (hup : x.Up c i) :
    y.Up c i ∨ Ended x y c i := by
  obtain ⟨hlink, s, hs, hr, hp⟩ := hup
  obtain ⟨e, he, hsocket, rfl⟩ := mem_onSocket.mp hlink
  have hn := Sockets.mem_natures.mpr ⟨s, Sockets.mem_of_find? hs, rfl⟩
  by_cases hstays : e.channel ∈ y.directory.channels
  swap
  · exact .inr (.inl hstays)
  rcases holds_change h hc he hsocket hs hp hstays with hholds | hclosed
  swap
  · exact .inr (.inr (.inr (.inr hclosed)))
  obtain ⟨e', he', hch, hheld⟩ := hholds
  -- A link to another socket than the listener goes only with a change of the transport.
  have hlistener : x.outline.listener ≠ some i := h.ne_listener hn hr
  rcases hheld i hsocket hlistener with hlink' | hmoved
  swap
  · exact .inr (.inr (.inr (.inl hmoved)))
  -- The link leads to a socket, which is the same as before.
  obtain ⟨n, hn', -⟩ := (sound_change h hc).linked e' he' i hlink'
  obtain ⟨s', hs', rfl⟩ := find?_of_mem_natures (sound_change h hc) hn'
  have hbelow : i < x.nextSocket := h.below _ hn
  have hnature : s.nature = s'.nature := by
    obtain ⟨s₀, hs₀, hsame⟩ := find?_before h hc hbelow hs'
    rwa [Option.some.inj (hs₀.symm.trans hs)] at hsame
  by_cases hlive : s'.isLive = true
  swap
  · exact .inr (.inr (.inl ⟨s', hs', by simpa using hlive⟩))
  obtain ⟨new, hraises⟩ := raises_change h hc
  have hphase : s'.phase = .active := by
    obtain ⟨s₀, hs₀, hbefore⟩ :=
      (hraises.proceed i s' hs' hlive).resolve_left (Nat.not_le.mpr hbelow)
    obtain rfl := Option.some.inj (hs.symm.trans hs₀)
    rw [hp] at hbefore
    simpa [eq_comm] using hbefore
  have hrole : s'.role ≠ .listener := by
    rw [← show s.role = s'.role from congrArg Nature.role hnature]
    exact hr
  exact .inl ⟨mem_onSocket.mpr ⟨e', he', hlink', hch⟩, s', hs', hrole, hphase⟩

/-- **Who was up is up still,** or something ended it since. -/
theorem History.up_or_ended {states : List (Exchange ν)} (hh : History x states y)
    (h : x.outline.Sound) (hup : x.Up c i) : y.Up c i ∨ ∃ z ∈ states, Ended x z c i := by
  -- The transport is carried along, since `Ended` compares it with the one at the start.
  have hcarried : y.outline.Sound ∧
      (y.Up c i ∧ y.profile.transport = x.profile.transport ∨ ∃ z ∈ states, Ended x z c i) := by
    induction hh with
    | start => exact ⟨h, .inl ⟨hup, rfl⟩⟩
    | @next states y z _ hc ih =>
      obtain ⟨hsound, hstill⟩ := ih
      refine ⟨sound_change hsound hc, ?_⟩
      rcases hstill with ⟨hbefore, hsame⟩ | ⟨w, hw, hended⟩
      · by_cases ht : z.profile.transport = x.profile.transport
        · rcases hbefore.change hsound hc with hnow | hended
          · exact .inl ⟨hnow, ht⟩
          · refine .inr ⟨z, List.mem_cons_self, ?_⟩
            unfold Ended at hended ⊢
            rwa [hsame] at hended
        · exact .inr ⟨z, List.mem_cons_self, .inr (.inr (.inl ht))⟩
      · exact .inr ⟨w, List.mem_cons_of_mem z hw, hended⟩
  exact hcarried.2.imp_left And.left

end Switchboard.Exchange
