import Switchboard.Proofs.Narrow
import Switchboard.Proofs.Outline.Operations

/-!
# Destinations

A write never reaches anyone but the far end that its channel was made for.  A channel remembers a
sender only if it has a mask, is inbound, and matches it, and so it stays through everything that
may happen (`Reachable.destination`).
-/

namespace Switchboard

open Net Settings Relation

namespace Outline

variable {o o' : Outline} {c : Channel}

/-! ### Last senders -/

/-- The channel was made, and whom it has heard from it matches. -/
structure Heard (c : Channel) (o : Outline) : Prop where
  home : c.home = o.directory.home
  made : c.id < o.directory.senders.length
  own : ∀ e ∈ o.entries, e.channel.id = c.id → e.channel = c
  sender : ∀ sender, o.directory.lastSender c = some sender →
    c.remote.isMask = true ∧ c.direction = .inbound ∧ c.remote.tier? sender ≠ none

/-- What was made keeps its number, so only its senders are to be looked at. -/
theorem Heard.of_grows (h : Heard c o) (hg : Grows o o')
    (hs : ∀ sender, o'.directory.lastSender c = some sender →
      c.remote.isMask = true ∧ c.direction = .inbound ∧ c.remote.tier? sender ≠ none) :
    Heard c o' where
  home := h.home.trans hg.home.symm
  made := Nat.lt_of_lt_of_le h.made hg.senders
  own := by
    intro e he hid
    rcases hg.channels e he with ⟨e', he', hc⟩ | hnew
    · rw [← hc] at hid ⊢
      exact h.own e' he' hid
    · rw [hid] at hnew
      exact absurd h.made (Nat.not_lt.mpr hnew)
  sender := hs

theorem Heard.event (h : Heard c o) (he : Event o o') : Heard c o' := by
  refine h.of_grows (grows_event he) ?_
  cases he with
  | @remembered e sender he hm hd ht =>
    intro sender' hs
    unfold Directory.Core.lastSender at hs
    rw [if_pos h.home, List.getElem?_set] at hs
    split_ifs at hs with hid hlt
    · -- Who has the number of the channel is the channel.
      obtain rfl := h.own e he hid
      obtain rfl : sender = sender' := by simpa using hs
      exact ⟨hm, hd, ht⟩
    · exact nomatch hs
    · refine h.sender sender' ?_
      rwa [Directory.Core.lastSender, if_pos h.home]
  | _ => exact h.sender

theorem Heard.passMoves (h : Heard c o) (hm : PassMoves o o') : Heard c o' := by
  induction hm with
  | refl => exact h
  | tail _ hstep ih =>
    cases hstep with
    | event he => exact ih.event he
    | sent count => exact ih.of_grows { Grows.refl _ with sendings := List.prefix_append _ _ } ih.sender

/-- **Whom a channel has heard from it matches, whatever happens.** -/
theorem Heard.move (h : Heard c o) (hm : Move o o') : Heard c o' := by
  refine h.of_grows (grows_move hm) ?_
  cases hm with
  | event he => exact (h.event he).sender
  | passed p hpass hp hstay => exact (h.passMoves hpass).sender
  | moved t next ho hnext =>
    unfold Outline.rebind
    split_ifs <;> split <;> exact h.sender
  | enrolled hh hid hd =>
    intro sender hs
    refine h.sender sender ?_
    unfold Directory.Core.lastSender at hs ⊢
    rwa [List.getElem?_append_left h.made] at hs
  | _ => exact h.sender

theorem length_senders_event (he : Event o o') :
    o'.directory.senders.length = o.directory.senders.length := by
  cases he with
  | remembered sender he hm hd ht => exact List.length_set ..
  | _ => rfl

theorem length_senders_passMoves (hm : PassMoves o o') :
    o'.directory.senders.length = o.directory.senders.length := by
  induction hm with
  | refl => rfl
  | tail _ hstep ih =>
    refine Eq.trans ?_ ih
    cases hstep with
    | event he => exact length_senders_event he
    | sent count => rfl

/-- A move makes no channel, or it makes one that has heard from nobody. -/
theorem senders_move (hm : Move o o') :
    o'.directory.senders.length = o.directory.senders.length ∨
      o'.directory.senders = o.directory.senders ++ [none] := by
  cases hm with
  | event he => exact .inl (length_senders_event he)
  | passed p hpass hp hstay =>
    have hlength := length_senders_passMoves hpass
    exact .inl hlength
  | moved t next ho hnext =>
    refine .inl ?_
    unfold Outline.rebind
    split_ifs <;> split <;> rfl
  | enrolled hh hid hd => exact .inr rfl
  | _ => exact .inl rfl

/-- What every channel of the directory has heard from it matches, and a move keeps it so. -/
theorem heard_move (hs : o.Sound) (h : ∀ e ∈ o.entries, Heard e.channel o) (hm : Move o o') :
    ∀ e ∈ o'.entries, Heard e.channel o' := by
  intro e he
  have hsound := hs.move hm
  rcases (grows_move hm).channels e he with ⟨e', he', hc⟩ | hnew
  · exact hc ▸ (h e' he').move hm
  · have hlt := hsound.numbered.below e he
    rcases senders_move hm with hlength | hone
    · rw [hlength] at hlt
      exact absurd hlt (Nat.not_lt.mpr hnew)
    · -- A new channel has heard from nobody.
      refine ⟨hsound.numbered.home e he, hlt, fun e' he' hid => ?_, fun sender hsender => ?_⟩
      · exact congrArg Entry.channel (hsound.numbered.eq_of_id_eq he' he hid)
      · unfold Directory.Core.lastSender at hsender
        rw [hone, List.getElem?_append_right hnew] at hsender
        split_ifs at hsender
        cases hsub : e.channel.id - o.directory.senders.length <;> simp [hsub] at hsender

theorem heard_moves (hs : o.Sound) (h : ∀ e ∈ o.entries, Heard e.channel o) (hm : Moves o o') :
    ∀ e ∈ o'.entries, Heard e.channel o' := by
  induction hm with
  | refl => exact h
  | tail hbefore hstep ih =>
    exact heard_move (hs.moves hbefore) ih hstep

theorem Heard.moves (h : Heard c o) (hm : Moves o o') : Heard c o' := by
  induction hm with
  | refl => exact h
  | tail _ hstep ih => exact ih.move hstep

end Outline

namespace Exchange

open Outline

variable {ν : Type}

/-! ### Where writes arrive -/

/-- The address that a write through a socket reaches: the one it is given, on a listener for
datagrams, and otherwise the far end of the socket. -/
def reached? (x : Exchange ν) (id : SocketId) (target : Option Endpoint) : Option Endpoint :=
  (x.sockets.find? id).bind fun s =>
    if s.role = .listener ∧ s.medium = .datagram then target else s.farEnd

/-- A far end that is known matches the channel, and is its remote if that is concrete. -/
theorem tier?_of_far? {x : Exchange ν} {c : Channel} (h : Heard c x.outline) {far : Endpoint}
    (hfar : x.far? c = some far) :
    c.remote.tier? far ≠ none ∧ ∀ e, c.remote.endpoint? = some e → far = e := by
  unfold far? at hfar
  cases hr : c.remote with
  | endpoint e =>
    rw [hr] at hfar
    obtain rfl : e = far := Option.some.inj hfar
    refine ⟨by simp [Remote.tier?], fun e' he' => ?_⟩
    exact Option.some.inj he'
  | mask host port =>
    rw [hr, Directory.lastSender_status] at hfar
    rw [← hr]
    exact ⟨(h.sender far hfar).2.2, fun e he => by rw [hr] at he; exact nomatch he⟩

theorem reached?_of_target? {x : Exchange ν} (hs : x.outline.Sound) {c : Channel}
    (hc : x.directory.knows c = true) (h : Heard c x.outline) {id : SocketId}
    {target : Option Endpoint} (ht : x.target? c = some (id, target)) :
    ∃ far, x.reached? id target = some far ∧ c.remote.tier? far ≠ none ∧
      ∀ e, c.remote.endpoint? = some e → far = e := by
  unfold reached?
  rcases links_of_target? hs ht with ⟨⟨e, he, hid, hlink⟩, hlistener⟩ | ⟨l, n, hl, -, hn, hr, hfar⟩
  · obtain ⟨e', he', rfl⟩ := Directory.mem_of_knows hc
    obtain rfl := hs.numbered.eq_of_id_eq he he' hid
    obtain ⟨n, hn, hf⟩ := hs.linked e he id hlink
    obtain ⟨s, hfind, rfl⟩ := find?_of_mem_natures hs hn
    rw [hfind, Option.bind_some]
    rcases hf with ⟨hr, -⟩ | ⟨hr, remote, hfar, hremote⟩
    · -- On the listener, which is one for datagrams then, the write has a target.
      obtain ⟨htarget, hne, s', hs', hm⟩ := hlistener (hs.only _ hn hr)
      obtain rfl := Option.some.inj (hfind.symm.trans hs')
      obtain ⟨far, hfar⟩ := Option.ne_none_iff_exists'.mp hne
      rw [if_pos ⟨hr, hm⟩]
      exact ⟨far, hfar, tier?_of_far? h (htarget.symm.trans hfar)⟩
    · -- The far end of an outbound socket is the remote of whoever is on it.
      have hnot : ¬ (s.role = .listener ∧ s.medium = .datagram) := by
        rw [show s.role = .outbound from hr]
        exact fun hl => nomatch hl.1
      rw [if_neg hnot]
      refine ⟨remote, hfar, ?_⟩
      rw [hremote]
      exact ⟨by simp [Remote.tier?], fun e he => Option.some.inj he⟩
  · -- A connection that was taken in is chosen by its far end.
    obtain ⟨s, hfind, rfl⟩ := find?_of_mem_natures hs hn
    have hrole : s.role ≠ .listener := by
      rw [show s.role = .accepted from hr]
      decide
    rw [hfind, Option.bind_some, if_neg fun hl => hrole hl.1]
    obtain ⟨far, hfar'⟩ := hs.farEnd _ hn hrole
    exact ⟨far, hfar', tier?_of_far? h (hfar.symm.trans hfar')⟩

variable [Network ν]

theorem Reachable.heard {x : Exchange ν} (h : x.Reachable) :
    ∀ e ∈ x.directory.entries, Heard e.channel x.outline := by
  obtain ⟨name, profile, network, start, ops, hc, rfl⟩ := h
  refine heard_moves (sound_create hc) (fun e he => ?_) (moves_run (sound_create hc) ops)
  rw [outline_create hc] at he
  exact nomatch he

/-- **No write is misdirected.**  From a state in which there is a channel on, whatever is done, it
remembers a sender only if it has a mask, is inbound and matches that sender; and while it is in the
directory, the address that its writes reach matches it, and is its remote if that is concrete. -/
theorem Reachable.destination {x : Exchange ν} (h : x.Reachable) {c : Channel}
    (hc : x.directory.knows c = true) (ops : List (Operation ν)) :
    (∀ sender, ((x.run ops).directory.status c).lastSender = some sender →
      c.remote.isMask = true ∧ c.direction = .inbound ∧ c.remote.tier? sender ≠ none) ∧
    ((x.run ops).directory.knows c = true → ∀ id target,
      (x.run ops).target? c = some (id, target) →
        ∃ far, (x.run ops).reached? id target = some far ∧ c.remote.tier? far ≠ none ∧
          ∀ e, c.remote.endpoint? = some e → far = e) := by
  obtain ⟨e, he, rfl⟩ := Directory.mem_of_knows hc
  have hheard := (h.heard e he).moves (moves_run h.sound ops)
  have hsound := (h.run ops).sound
  constructor
  · intro sender hs
    rw [Directory.lastSender_status] at hs
    exact hheard.sender sender hs
  · intro hknown id target ht
    exact reached?_of_target? hsound hknown hheard ht

/-- A masked channel of the laboratory would write to the sender that it has heard from. -/
theorem destination_lab :
    lab.directory.knows ⟨0, 0, ⟨"lamp", "*", .inbound⟩, .mask none none⟩ = true ∧
      ∃ far, lab.reached? 1000 (some (.of (.v4 .unspecified) 7)) = some far ∧
        (Remote.mask none none).tier? far ≠ none :=
  have hknown : lab.directory.knows ⟨0, 0, ⟨"lamp", "*", .inbound⟩, .mask none none⟩ = true := rfl
  have ⟨far, hfar, ht, _⟩ := (reachable_lab.destination hknown []).2 hknown 1000 _ rfl
  ⟨hknown, far, hfar, ht⟩

end Exchange

end Switchboard
