import Switchboard.Proofs.Destinations
import Switchboard.Proofs.Outline.LinksKept
import Switchboard.Proofs.WriteOrder

/-!
# Who is served by which socket

A socket *serves* a channel if the channel is linked to it, or, where the socket is a connection
that was taken in, to the listener.  It goes on serving those channels for as long as it and they
stay (`Serves.kept`), and if two sockets that carry data serve the same channel, they are one and
the same, or both were taken in (`eq_of_serves`).

Whatever an exchange sends or hands on goes between a channel and an endpoint that it matches,
through a socket that serves it (`reaches_of_nextWrite?`, `reaches_of_mem_audience`).
-/

namespace Switchboard

open Net Settings Relation Directory

theorem Remote.eq_of_tier? {r : Remote} {far e : Endpoint} (h : r.tier? far ≠ none)
    (he : r.endpoint? = some e) : far = e := by
  cases r with
  | endpoint e' =>
    obtain rfl : e' = e := Option.some.inj he
    by_contra hne
    exact h (if_neg (Ne.symm hne))
  | mask host port => exact nomatch he

namespace Outline

variable {o o' : Outline}

/-! ### Regular outlines -/

/-- **What is true of the outline of every exchange,** also within a pass. -/
structure Regular (o : Outline) : Prop where
  sound : o.Sound
  ordered : o.Ordered
  heard : ∀ e ∈ o.entries, Heard e.channel o
  proper : ∀ s ∈ o.sockets, s.2.Proper

theorem Regular.passMoves (h : o.Regular) (hm : PassMoves o o') : o'.Regular where
  sound := h.sound.passMoves hm
  ordered := h.ordered.passMoves h.sound hm
  heard e he := by
    rw [(entries_passMoves hm).1] at he
    exact (h.heard e he).passMoves hm
  proper s hs := ((grows_passMoves hm).proper s hs).elim (h.proper s) id

theorem Regular.moves (h : o.Regular) (hset : o.Settled) (hm : Moves o o') :
    o'.Regular ∧ o'.Settled := by
  obtain ⟨hordered, hsettled⟩ := h.ordered.moves hset h.sound hm
  refine ⟨⟨h.sound.moves hm, hordered, heard_moves h.sound h.heard hm, fun s hs => ?_⟩, hsettled⟩
  exact ((grows_moves hm).proper s hs).elim (h.proper s) id

/-! ### Serving -/

/-- **Does the socket serve the channel of the entry?** -/
def Serves (o : Outline) (s : SocketId × Nature) (e : Entry) : Prop :=
  s.2.role ≠ .accepted ∧ e.socket = some s.1 ∨
    s.2.role = .accepted ∧ ∃ l, o.listener = some l ∧ e.socket = some l

/-- A socket that stays goes on serving the channels that stay. -/
theorem Serves.kept (hk : LinksKept o o') (h' : o'.Sound) {s : SocketId × Nature} {e e' : Entry}
    (he : e ∈ o.entries) (he' : e' ∈ o'.entries) (hc : e'.channel = e.channel)
    (hstays : s ∈ o'.sockets) (hs : o.Serves s e) : o'.Serves s e' := by
  rcases hs with ⟨hr, hlink⟩ | ⟨hr, l, hl, hlink⟩
  · exact .inl ⟨hr, hk.kept e he e' he' hc s.1 s.2 hlink hstays⟩
  · -- Where there is a socket, there is a listener.
    have hopen := h'.not_closed (List.ne_nil_of_mem hstays)
    obtain ⟨l', hl'⟩ := Option.ne_none_iff_exists'.mp (h'.opened hopen)
    exact .inr ⟨hr, l', hl', (hk.home e he e' he' hc l hl hlink).trans hl'⟩

/-- What serves a channel is its outbound socket, or the channel is on the listener. -/
theorem Serves.outbound_or_home (h : o.Sound) {s : SocketId × Nature} {e : Entry}
    (hmem : s ∈ o.sockets) (hs : o.Serves s e) :
    s.2.role = .outbound ∧ e.socket = some s.1 ∨
      s.2.role ≠ .outbound ∧ ∃ l, o.listener = some l ∧ e.socket = some l := by
  rcases hs with ⟨hr, hlink⟩ | ⟨hr, l, hl, hlink⟩
  · cases hrole : s.2.role with
    | outbound => exact .inl ⟨rfl, hlink⟩
    | listener => exact .inr ⟨nofun, s.1, h.only s hmem hrole, hlink⟩
    | accepted => exact absurd hrole hr
  · exact .inr ⟨by rw [hr]; decide, l, hl, hlink⟩

/-- Beside a connection that was taken in, the listener carries no data itself. -/
theorem medium_listener_of_accepted (h : o.Regular) {s t : SocketId × Nature} (hs : s ∈ o.sockets)
    (hr : s.2.role = .accepted) (ht : t ∈ o.sockets) (hl : o.listener = some t.1) :
    t.2.medium = .acceptor := by
  have hstream : o.transport = .stream := by
    have hsuits : s.2.medium = s.2.role.medium o.transport := h.sound.suits s hs
    rw [h.proper s hs hr, hr] at hsuits
    cases htransport : o.transport with
    | datagram =>
      rw [htransport] at hsuits
      exact nomatch hsuits
    | stream => rfl
  obtain ⟨n, hn, hrole⟩ := h.sound.listener t.1 hl
  obtain rfl := h.sound.nature_eq ht hn
  have hsuits : t.2.medium = t.2.role.medium o.transport := h.sound.suits t ht
  rw [hsuits, hrole, hstream]
  rfl

/-- **Two sockets that serve a channel and carry data** are the same one, or both were taken in. -/
theorem eq_of_serves (h : o.Regular) {s t : SocketId × Nature} (hs : s ∈ o.sockets)
    (ht : t ∈ o.sockets) (hms : s.2.medium ≠ .acceptor) (hmt : t.2.medium ≠ .acceptor) {e : Entry}
    (hse : o.Serves s e) (hte : o.Serves t e) :
    s.1 = t.1 ∨ s.2.role = .accepted ∧ t.2.role = .accepted := by
  rcases hse with ⟨-, hlink⟩ | ⟨hr, l, hl, hlink⟩ <;>
    rcases hte with ⟨-, hlink'⟩ | ⟨hr', l', hl', hlink'⟩
  · exact .inl (Option.some.inj (hlink.symm.trans hlink'))
  · obtain rfl : l' = s.1 := Option.some.inj (hlink'.symm.trans hlink)
    exact absurd (medium_listener_of_accepted h ht hr' hs hl') hms
  · obtain rfl : l = t.1 := Option.some.inj (hlink.symm.trans hlink')
    exact absurd (medium_listener_of_accepted h hs hr ht hl) hmt
  · exact .inr ⟨hr, hr'⟩

/-! ### Both ends -/

/-- **The channel of the entry and the endpoint talk through the socket:** it serves the channel,
and the channel matches the endpoint. -/
structure Reaches (o : Outline) (e : Entry) (s : SocketId × Nature) (far : Endpoint) : Prop where
  entry : e ∈ o.entries
  socket : s ∈ o.sockets
  medium : s.2.medium ≠ .acceptor
  serves : o.Serves s e
  far : e.channel.remote.tier? far ≠ none

/-- An outbound channel talks through outbound sockets only. -/
theorem Reaches.role_eq_outbound {e : Entry} {s : SocketId × Nature} {far : Endpoint}
    (hr : o.Reaches e s far) (h : o.Sound) (hd : e.channel.direction = .outbound) :
    s.2.role = .outbound := by
  have hinbound : e.channel.direction ≠ .inbound := by
    rw [hd]
    decide
  rcases hr.serves.outbound_or_home h hr.socket with ⟨hrole, -⟩ | ⟨-, l, hl, hlink⟩
  · exact hrole
  · -- Outbound channels are never on the listener.
    obtain ⟨n, hn, hrole⟩ := h.listener l hl
    rcases h.nature_of_link hr.entry hlink hn with ⟨-, hin⟩ | ⟨hout, -⟩
    · exact absurd hin hinbound
    · exact nomatch hrole.symm.trans hout

end Outline

namespace Exchange

open Outline

variable {ν : Type} {x : Exchange ν}

/-- What is sent goes from the channel of the write to an endpoint that it matches. -/
theorem reaches_of_nextWrite? (h : x.outline.Regular) {id : SocketId} {s : Socket} {i : Nat}
    {w : Write} {target : Option Endpoint} (hs : x.sockets.find? id = some s)
    (hm : s.medium ≠ .acceptor) (hnext : x.nextWrite? id = some (i, w, target)) :
    ∃ e far, x.outline.Reaches e (id, s.nature) far ∧ e.channel = w.channel ∧
      (target <|> s.farEnd) = some far := by
  obtain ⟨hw, ht, -⟩ := nextWrite?_spec hnext
  obtain ⟨e, he, hc⟩ := h.ordered.owned w (List.mem_of_getElem? hw)
  have hn : (id, s.nature) ∈ x.outline.sockets :=
    Sockets.mem_natures.mpr ⟨s, Sockets.mem_of_find? hs, rfl⟩
  rw [← hc] at ht
  have hserves : x.outline.Serves (id, s.nature) e := by
    have hown : ∀ i, x.outline.Links e.channel i → e.socket = some i := by
      rintro i ⟨e', he', hid, hlink⟩
      rwa [← h.sound.numbered.eq_of_id_eq he' he hid]
    rcases links_of_target? h.sound ht with ⟨hlink, -⟩ | ⟨l, n, hl, hlink, hn', hr, -⟩
    · -- No channel is linked to a connection that was taken in.
      refine .inl ⟨fun hr => ?_, hown id hlink⟩
      rcases h.sound.nature_of_link he (hown id hlink) hn with ⟨hr', -⟩ | ⟨hr', -⟩
      · exact nomatch hr.symm.trans hr'
      · exact nomatch hr.symm.trans hr'
    · exact .inr ⟨h.sound.nature_eq hn hn' ▸ hr, l, hl, hown l hlink⟩
  obtain ⟨far, hreached, htier, -⟩ :=
    reached?_of_target? h.sound (knows_of_mem h.sound.numbered he) (h.heard e he) ht
  refine ⟨e, far, ⟨he, hn, hm, hserves, htier⟩, hc, ?_⟩
  unfold reached? at hreached
  rw [hs, Option.bind_some] at hreached
  cases target with
  | none =>
    split_ifs at hreached
    exact hreached
  | some t =>
    -- Who is given a far end stands on a listener for datagrams.
    obtain ⟨hl, s', hs', hdatagram⟩ := listener_of_target? ht
    obtain rfl := Option.some.inj (hs.symm.trans hs')
    obtain ⟨n, hn', hrole⟩ := h.sound.listener id hl
    rw [← h.sound.nature_eq hn hn'] at hrole
    rwa [if_pos ⟨hrole, hdatagram⟩] at hreached

/-- What is handed on comes to a channel from an endpoint that it matches. -/
theorem reaches_of_mem_audience (h : x.outline.Regular) {id : SocketId} {s : Socket}
    {sender : Option Endpoint} (hs : x.sockets.find? id = some s) (hm : s.medium ≠ .acceptor)
    (hsender : if s.role = .listener then sender ≠ none else sender = s.farEnd) {c : Channel}
    (hc : c ∈ x.audience id s.role sender) :
    ∃ e far, x.outline.Reaches e (id, s.nature) far ∧ e.channel = c ∧ sender = some far := by
  have hn : (id, s.nature) ∈ x.outline.sockets :=
    Sockets.mem_natures.mpr ⟨s, Sockets.mem_of_find? hs, rfl⟩
  unfold audience at hc
  split at hc
  · rename_i hr
    obtain ⟨e, he, hlink, rfl⟩ := mem_onSocket.mp hc
    have hrole : s.nature.role = .outbound := hr
    rcases h.sound.nature_of_link he hlink hn with ⟨hr', -⟩ | ⟨-, remote, hfar, hremote⟩
    · exact absurd (hrole.symm.trans hr') (by decide)
    · rw [if_neg (by rw [hr]; decide)] at hsender
      have hserves : x.outline.Serves (id, s.nature) e := .inl ⟨by rw [hrole]; decide, hlink⟩
      exact ⟨e, remote, ⟨he, hn, hm, hserves, by simp [hremote, Remote.tier?]⟩, rfl,
        hsender.trans hfar⟩
  · rename_i hr
    split at hc
    · rename_i l far hl
      obtain ⟨e, he, hlink, rfl, -, htier⟩ := exists_of_mem_recipients hc
      refine ⟨e, far, ⟨he, hn, hm, ?_, htier⟩, rfl, rfl⟩
      cases hrole : s.role with
      | outbound => exact absurd hrole hr
      | accepted => exact .inr ⟨hrole, l, hl, hlink⟩
      | listener =>
        have hlistener : x.listener = some id := h.sound.only _ hn hrole
        obtain rfl : l = id := Option.some.inj (hl.symm.trans hlistener)
        exact .inl ⟨by rw [show s.nature.role = .listener from hrole]; decide, hlink⟩
    · exact absurd hc List.not_mem_nil

theorem regular_create {name : String} {profile : Profile} {network : ν}
    (h : create name profile network = .ok x) : x.outline.Regular where
  sound := sound_create h
  ordered := (ordered_create h).1
  heard e he := by
    rw [outline_create h] at he
    exact nomatch he
  proper s hs := by
    rw [outline_create h] at hs
    exact nomatch hs

end Exchange

end Switchboard
