import Switchboard.Proofs.Calls.Underway
import Switchboard.Proofs.Narrow
import Switchboard.Proofs.PartialWrites
import Mathlib.Data.List.Induction

/-!
# Where replies come from

The reply that the caller of a blocking write gets was read after the last of the write had left, it
is the first buffer that came for a caller of the channel since, and its sender is one that the
channel matches (`reply_origin`).  It came through the socket through which the write left.  There
are three exceptions: a channel waits on when the listener moves, over connections that were taken
in it may be another one of them, and the transport may have changed in between.

For a masked channel the sender need not be the endpoint to which the write went, so one can not say
more (`not_inKind`).
-/

namespace Switchboard.Exchange

open Net Settings Relation Directory Outline

/-! ### Replies that come otherwise -/

variable {ν : Type} {x : Exchange ν} {c : Channel} {g : Nat}

/-- **The reply came through the socket through which all of the write had left, from where that
went.** -/
def InKind (x : Exchange ν) (c : Channel) (g : Nat) (data : Bytes) : Prop :=
  ∃ socket target w count between earlier, w.channel = c ∧ w.call = some g ∧
    count = w.remaining.length ∧ .received socket (some target) data (.caller c) ::
      (between ++ .sent socket (some target) w count :: earlier) <:+ x.journal

/-- Was the one a buffer read for the channel, and the other a write of the call, through the same
socket and with the same far end? -/
def Repays (c : Channel) (g : Nat) : Traffic → Traffic → Bool
  | .received socket sender _ (.caller c'), .sent socket' target w _ =>
    socket == socket' && sender == target && c' == c && w.channel == c && w.call == some g
  | _, _ => false

/-- Then the journal has two events that show it. -/
theorem InKind.exists_mem {data : Bytes} (h : x.InKind c g data) :
    ∃ t ∈ x.journal, ∃ t' ∈ x.journal, Repays c g t t' = true := by
  obtain ⟨socket, target, w, count, between, earlier, hw, hg, -, hj⟩ := h
  refine ⟨_, hj.subset List.mem_cons_self, .sent socket (some target) w count, hj.subset ?_, ?_⟩
  · exact List.mem_cons_of_mem _ (List.mem_append_right _ List.mem_cons_self)
  · simp [Repays, hw, hg]

/-- Does every reply that is collected come in kind? -/
def RepliesInKind (x : Exchange ν) : Prop :=
  ∀ c g data, (x.collect c g).1 = .reply data → x.InKind c g data

/-- A new exchange over a narrow network. -/
def lobby (t : Transport) : Exchange Narrow :=
  { name := "lobby", profile := { transport := t }, network := {} }

/-- Who talks to the lobby. -/
def guest : Endpoint :=
  .of (.v4 .unspecified) 7

def stranger : Endpoint :=
  .of (.v4 .unspecified) 8

/-- A masked channel of the lobby. -/
def porch : Channel :=
  ⟨0, 0, ⟨"door", "*", .inbound⟩, .mask none none⟩

/-- An inbound channel of the lobby for the guest alone. -/
def grille : Channel :=
  ⟨0, 0, ⟨"door", "*", .inbound⟩, .endpoint guest⟩

/-- An outbound channel of the lobby to the guest. -/
def hatch : Channel :=
  ⟨0, 0, ⟨"door", "*", .outbound⟩, .endpoint guest⟩

/-- The masked channel hears from the guest and writes to them, and a stranger answers. -/
def overheard : List (Operation Narrow) := [
  .bind porch.subject porch.remote, .openUp, .ensureSocket porch,
  .world { room := 9, arrivals := [(1000, ⟨[1], guest⟩)] }, .poll,
  .beginCall porch, .enqueue porch [2] (some 1), .poll,
  .world { arrivals := [(1000, ⟨[3], stranger⟩)] }, .poll]

/-- Over connections, the masked channel writes on that of the guest, and another one is taken
in. -/
def overtaken : List (Operation Narrow) := [
  .bind porch.subject porch.remote, .openUp, .ensureSocket porch,
  .world { waiting := [guest] }, .poll,
  .world { room := 9, arrivals := [(1001, ⟨[1], guest⟩)] }, .poll,
  .beginCall porch, .enqueue porch [2] (some 1), .poll,
  .world { waiting := [stranger] }, .poll,
  .world { arrivals := [(1002, ⟨[3], stranger⟩)] }, .poll]

/-- The listener moves to another port while a channel on it waits. -/
def forwarded : List (Operation Narrow) := [
  .bind grille.subject grille.remote, .openUp, .ensureSocket grille, .world { room := 9 },
  .beginCall grille, .enqueue grille [2] (some 1), .poll,
  .updateProfile ⟨.table [("port", .integer 5001)]⟩,
  .world { arrivals := [(1001, ⟨[3], guest⟩)] }, .poll]

/-- The transport changes while an outbound channel waits, which then gets another socket. -/
def rewired : List (Operation Narrow) := [
  .bind hatch.subject hatch.remote, .openUp, .ensureSocket hatch, .world { room := 9 },
  .beginCall hatch, .enqueue hatch [2] (some 1), .poll,
  .updateProfile ⟨.table [("transport_type", .text "tcp")]⟩, .ensureSocket hatch, .poll,
  .world { arrivals := [(1003, ⟨[3], guest⟩)] }, .poll]

theorem reachable_lobby (t : Transport) : (lobby t).Reachable :=
  ⟨"lobby", { transport := t }, {}, lobby t, [], rfl, rfl⟩

/-- A reply of which no two events show that it came in kind. -/
theorem not_repliesInKind {x : Exchange Narrow} (c : Channel) (g : Nat) (data : Bytes)
    (h : (x.collect c g).1 = .reply data ∧
      ∀ t ∈ x.journal, ∀ t' ∈ x.journal, Repays c g t t' = false) : ¬ x.RepliesInKind := by
  intro hall
  obtain ⟨t, ht, t', ht', hrepays⟩ := (hall c g data h.1).exists_mem
  rw [h.2 t ht t' ht'] at hrepays
  exact nomatch hrepays

/-- **A reply may come otherwise:** from somebody else whom the mask of the channel matches, through
another connection that was taken in, through the listener that came after the one of the write, and
after a change of the transport through any socket that the channel got. -/
theorem not_inKind :
    ((lobby .datagram).run overheard).Reachable ∧
      ¬ ((lobby .datagram).run overheard).RepliesInKind ∧
    ((lobby .stream).run overtaken).Reachable ∧
      ¬ ((lobby .stream).run overtaken).RepliesInKind ∧
    ((lobby .datagram).run forwarded).Reachable ∧
      ¬ ((lobby .datagram).run forwarded).RepliesInKind ∧
    ((lobby .datagram).run rewired).Reachable ∧
      ¬ ((lobby .datagram).run rewired).RepliesInKind := by
  refine ⟨(reachable_lobby _).run _, not_repliesInKind porch 1 [3] ?_,
    (reachable_lobby _).run _, not_repliesInKind porch 1 [3] ?_,
    (reachable_lobby _).run _, not_repliesInKind grille 1 [3] ?_,
    (reachable_lobby _).run _, not_repliesInKind hatch 1 [3] ?_⟩
  · decide +kernel
  · decide +kernel
  · decide +kernel
  · decide +kernel

/-! ### Runs -/

variable [Network ν]

/-- In the run, an operation changed the transport when the journal was this one. -/
def ChangedAt (x : Exchange ν) (ops : List (Operation ν)) (journal : List Traffic) : Prop :=
  ∃ before op after, ops = before ++ op :: after ∧
    Changes (x.run before) ((x.run before).apply op) journal

theorem ChangedAt.snoc {ops : List (Operation ν)} {op : Operation ν} {j : List Traffic}
    (h : x.ChangedAt ops j ∨ Changes (x.run ops) ((x.run ops).apply op) j) :
    x.ChangedAt (ops ++ [op]) j := by
  rcases h with ⟨before, op', after, rfl, h⟩ | h
  · exact ⟨before, op', after ++ [op], by simp, h⟩
  · exact ⟨ops, op, [], rfl, h⟩

/-- **Whatever run,** what was there at any time in it can be told apart, and calls and replies are
explained. -/
theorem explained_run (hr : x.outline.Regular) (hset : x.outline.Settled)
    (h : Explained p (fun _ => False) x) (ops : List (Operation ν)) :
    ∃ p', Explained p' (x.ChangedAt ops) (x.run ops) ∧ ∀ part, part <+: ops →
      (∀ s ∈ (x.run part).outline.sockets, p'.sockets s) ∧
        ∀ e ∈ (x.run part).outline.entries, p'.channels e.channel := by
  induction ops using List.reverseRecOn with
  | nil =>
    refine ⟨p, h.mono fun _ => False.elim, fun part hpart => ?_⟩
    rw [List.prefix_nil.mp hpart]
    exact ⟨h.covers.sockets, h.covers.channels⟩
  | append_singleton ops op ih =>
    obtain ⟨p₁, hbefore, hparts⟩ := ih
    obtain ⟨hregular, hsettled⟩ := hr.moves hset (moves_run hr.sound ops)
    obtain ⟨p₂, hwithin, hafter⟩ := hbefore.apply hregular hsettled op
    rw [← run_snoc] at hafter
    refine ⟨p₂, hafter.mono fun j hj => .snoc (run_snoc x ops op ▸ hj), fun part hpart => ?_⟩
    rcases List.prefix_concat_iff.mp hpart with rfl | hpart
    · exact ⟨hafter.covers.sockets, hafter.covers.channels⟩
    · obtain ⟨hsockets, hchannels⟩ := hparts part hpart
      exact ⟨fun s hs => hwithin.sockets s (hsockets s hs),
        fun e he => hwithin.channels _ (hchannels e he)⟩

omit [Network ν] in
/-- Nothing happened to a new exchange. -/
theorem explained_create {name : String} {profile : Profile} {network : ν}
    (hx : create name profile network = .ok x) :
    Explained ⟨fun _ => False, fun _ => False⟩ (fun _ => False) x where
  covers := by
    rw [outline_create hx]
    exact ⟨fun _ hs => absurd hs List.not_mem_nil, fun _ h => h.elim, fun _ _ h => h.elim,
      fun _ he => absurd he List.not_mem_nil, fun _ h => h.elim, fun _ _ h => h.elim⟩
  boxes _ h := h.elim

/-- **The call of a channel that awaits its reply is under way.** -/
theorem exists_underway {name : String} {profile : Profile} {network : ν}
    (hx : create name profile network = .ok x) (ops : List (Operation ν))
    (hc : c ∈ (x.run ops).directory.channels)
    (hg : ((x.run ops).directory.call c).pending = .awaiting g) :
    ∃ d since earlier, Underway (x.ChangedAt ops) (x.run ops) c g d since earlier := by
  obtain ⟨p, hexplained, hparts⟩ :=
    explained_run (regular_create hx) (ordered_create hx).2 (explained_create hx) ops
  obtain ⟨e, he, rfl⟩ := List.mem_map.mp hc
  have hbox := hexplained.boxes e.channel ((hparts ops (List.prefix_refl _)).2 e he)
  obtain ⟨d, since, earlier, -, hunder⟩ := hbox.awaiting g hg
  exact ⟨d, since, earlier, hunder⟩

omit [Network ν] in
theorem mem_replies_of_collect {data : Bytes} (h : (x.collect c g).1 = .reply data) :
    (g, data) ∈ (x.directory.call c).replies := by
  replace h : ((x.directory.call c).collect g).1 = .reply data := h
  unfold CallBox.collect at h
  split at h
  · rename_i found hl
    obtain rfl := Receipt.reply.inj h
    obtain ⟨before, after, hsplit, -⟩ := List.lookup_eq_some_iff.mp hl
    rw [hsplit]
    exact List.mem_append_right _ List.mem_cons_self
  · exact absurd h (by dsimp only; split_ifs <;> simp)

/-- **When the last of a write has gone out over connections, all of it has.** -/
theorem Reachable.bytesOf_of_last (h : x.Reachable) {later earlier : List Traffic} {d : Departure}
    (hj : x.journal = later ++ d.event :: earlier) (hlast : d.count = d.write.remaining.length) :
    Piece.bytesOf d.write.ticket ((d.event :: earlier).reverse.filterMap Traffic.piece?) =
      d.write.data := by
  have hsendings : x.sendings = earlier.reverse.filterMap Traffic.piece? ++
      ⟨d.socket, d.write, d.count⟩ :: later.reverse.filterMap Traffic.piece? := by
    unfold sendings
    rw [hj]
    simp [List.filterMap_append, Departure.event, Traffic.piece?]
  have hwhole := h.pieced.whole _ _ _ hsendings
  have hreverse : (d.event :: earlier).reverse.filterMap Traffic.piece? =
      earlier.reverse.filterMap Traffic.piece? ++ [⟨d.socket, d.write, d.count⟩] := by
    simp [List.filterMap_append, Departure.event, Traffic.piece?]
  rw [hreverse, bytesOf_snoc, hwhole, if_pos rfl, Piece.bytes, hlast, List.take_length]
  exact List.take_append_drop _ _

/-- **Where a reply comes from.**  It was read after the last of the write of its call had left,
through the same socket or one that counts for it, and is the first buffer since for a caller of the
channel.  Its sender is one that the channel matches, so a concrete channel hears from where the
write went.  The write of an outbound channel leaves through an outbound socket, which nothing
counts for but itself, unless the transport changed in between.  Over connections, all of the write
had left. -/
theorem reply_origin {name : String} {profile : Profile} {network : ν}
    (hx : create name profile network = .ok x) (ops : List (Operation ν)) {c : Channel}
    (hc : ∃ part, part <+: ops ∧ (x.run part).directory.knows c = true) {g : Nat} {data : Bytes}
    (hreply : ((x.run ops).collect c g).1 = .reply data) :
    ∃ a : Origin, a.Explains (x.ChangedAt ops) (x.run ops).journal c g data ∧
      (∀ e, c.remote.endpoint? = some e → a.sender = e ∧ a.sent.target = e) ∧
      (a.sent.nature.medium = .connection →
        Piece.bytesOf a.sent.write.ticket
          ((a.sent.event :: a.earlier).reverse.filterMap Traffic.piece?) = a.sent.write.data) ∧
      ∀ part, part <+: ops →
        (∀ s, (a.sent.socket, s) ∈ (x.run part).sockets → s.nature = a.sent.nature) ∧
          ∀ s, (a.readOn, s) ∈ (x.run part).sockets → s.nature = a.reader := by
  obtain ⟨p, hexplained, hparts⟩ :=
    explained_run (regular_create hx) (ordered_create hx).2 (explained_create hx) ops
  obtain ⟨part, hpart, hknows⟩ := hc
  obtain ⟨e, he, rfl⟩ := mem_of_knows hknows
  have hbox := hexplained.boxes e.channel ((hparts part hpart).2 e he)
  obtain ⟨a, hsent, hread, ha⟩ := hbox.replies _ (mem_replies_of_collect hreply)
  have hnature : ∀ {id : SocketId} {n : Nature}, p.sockets (id, n) → ∀ part, part <+: ops →
      ∀ s, (id, s) ∈ (x.run part).sockets → s.nature = n := by
    intro id n hn part hpart s hs
    have hnow := (hparts part hpart).1 _ (Sockets.mem_natures.mpr ⟨s, hs, rfl⟩)
    exact (Prod.mk.inj (hexplained.covers.nature _ _ hnow hn rfl)).2
  refine ⟨a, ha, fun far hfar => ⟨?_, ?_⟩, fun hm => ?_, fun part hpart => ⟨?_, ?_⟩⟩
  · exact Remote.eq_of_tier? ha.sender hfar
  · exact Remote.eq_of_tier? ha.completes.target hfar
  · obtain ⟨later, hj⟩ := ha.journal
    have hreachable : (x.run ops).Reachable := ⟨name, profile, network, x, ops, hx, rfl⟩
    have hjournal : (x.run ops).journal = (later ++ .received a.readOn (some a.sender) data
        (.caller e.channel) :: a.between) ++ a.sent.event :: a.earlier := by
      rw [← hj, List.append_assoc, List.cons_append]
    refine hreachable.bytesOf_of_last hjournal (ha.completes.last.resolve_right fun hd => ?_)
    exact nomatch hm.symm.trans hd
  · exact hnature hsent part hpart
  · exact hnature hread part hpart

/-- The channel at the listener that moved hears from where its write went. -/
theorem reply_origin_forwarded :
    create (lobby .datagram).name (lobby .datagram).profile (lobby .datagram).network =
        .ok (lobby .datagram) ∧
      (∃ part, part <+: forwarded ∧ ((lobby .datagram).run part).directory.knows grille = true) ∧
      (((lobby .datagram).run forwarded).collect grille 1).1 = .reply [3] ∧
      ∃ a : Origin, a.Explains ((lobby .datagram).ChangedAt forwarded)
        ((lobby .datagram).run forwarded).journal grille 1 [3] ∧
          a.sender = guest ∧ a.sent.target = guest := by
  have hcreate : create (lobby .datagram).name (lobby .datagram).profile (lobby .datagram).network =
      .ok (lobby .datagram) := rfl
  have hknows : ∃ part, part <+: forwarded ∧
      ((lobby .datagram).run part).directory.knows grille = true :=
    ⟨forwarded, List.prefix_refl _, by decide +kernel⟩
  have hreply : (((lobby .datagram).run forwarded).collect grille 1).1 = .reply [3] := by
    decide +kernel
  obtain ⟨a, ha, hfar, -⟩ := reply_origin hcreate forwarded hknows hreply
  exact ⟨hcreate, hknows, hreply, a, ha, hfar guest rfl⟩

end Switchboard.Exchange
