import Switchboard.Proofs.Outline.Pieces
import Switchboard.Proofs.Outline.Stretches
import Switchboard.Proofs.WriteOrder

/-!
# Writes that go out in pieces

Not every connection carries complete buffers (`not_undivided`).  A write keeps its place in the
outbox, and how much of it has gone, when its socket is replaced, so the new connection carries the
rest of a buffer that was begun on the old one.  The same happens when a masked channel hears from
another sender; then its older buffers may also come between the pieces of another channel's on the
connection of that sender.  And a channel that leaves takes the rest of its buffer along.

What holds is that the pieces of a buffer, over all sockets, are its bytes from the first on, none
left out and none twice, and that a buffer leaves an outbound socket only when that is closed.  What
an outbound connection carries are stretches of later and later buffers: each begins where the
buffer had got before the connection carried anything, and each but the last ends with its buffer,
unless the channel has left (`Reachable.pieces_in_place`).
-/

namespace Switchboard

open Net Settings Relation

namespace Outline

variable {o : Outline} {id : SocketId}

/-- What went out before a socket first sent something. -/
theorem takeWhile_append_cons {q : Piece} (hq : q.socket = id) (ps qs : List Piece) :
    (ps ++ q :: qs).takeWhile (·.socket != id) = ps.takeWhile (·.socket != id) := by
  induction ps with
  | nil => simp [hq]
  | cons p ps ih => by_cases hp : p.socket = id <;> simp [hp, ih]

theorem dropWhile_append_cons {q : Piece} (hq : q.socket = id) (ps qs : List Piece) :
    (ps ++ q :: qs).dropWhile (·.socket != id) = ps.dropWhile (·.socket != id) ++ q :: qs := by
  induction ps with
  | nil => simp [hq]
  | cons p ps ih => by_cases hp : p.socket = id <;> simp [hp, ih]

/-- What an outbound connection carries are stretches of later and later writes. -/
theorem Carries.joined (h : o.Carries id) (hp : o.Pieced) :
    Piece.Joined o.Gone (o.sendings.filter (·.socket == id))
      (Piece.join (o.sendings.filter (·.socket == id))) :=
  Piece.joined_of_chain (fun p hmem => hp.counted p (List.mem_filter.mp hmem).1) h.chain

/-- **A stretch begins where its write had got before the connection carried anything.** -/
theorem Carries.begun (h : o.Carries id) (hp : o.Pieced) :
    ∀ p ∈ Piece.join (o.sendings.filter (·.socket == id)),
      Piece.bytesOf p.write.ticket (o.sendings.takeWhile (·.socket != id)) =
        p.write.data.take p.write.offset := by
  intro p hmem
  obtain ⟨a, q, b, heq, hw, ha⟩ := (h.joined hp).first p hmem
  obtain ⟨l, l', hl, hla, hlb⟩ := List.filter_eq_append_iff.mp heq
  obtain ⟨m, m', rfl, hm, hq, -⟩ := List.filter_eq_cons_iff.mp hlb
  have hid : q.socket = id := beq_iff_eq.mp hq
  rw [← List.append_assoc] at hl
  have hwhole := hp.whole _ _ _ hl
  have hafter : ∀ r ∈ (l ++ m).dropWhile (·.socket != id), r.write.ticket ≠ p.write.ticket := by
    intro r hr ht
    have halone := h.alone
    unfold since at halone
    rw [hl, dropWhile_append_cons hid, List.pairwise_append] at halone
    have hsocket := halone.2.2 r hr q List.mem_cons_self (ht.trans (congrArg _ hw).symm) hid
    -- A piece on the connection before the first one of the write is of another write.
    rcases List.mem_append.mp (List.dropWhile_subset _ hr) with hr | hr
    · exact ha r (hla ▸ List.mem_filter.mpr ⟨hr, beq_iff_eq.mpr hsocket⟩) ht
    · exact hm r hr (beq_iff_eq.mpr hsocket)
  rw [hw, ← List.takeWhile_append_dropWhile (p := (·.socket != id)) (l := l ++ m), bytesOf_append,
    bytesOf_eq_nil hafter, List.append_nil] at hwhole
  rw [hl, takeWhile_append_cons hid, hwhole]

end Outline

namespace Exchange

variable {ν : Type}

/-- **The bytes that a socket has carried.** -/
def carried (x : Exchange ν) (id : SocketId) : Bytes :=
  (x.sendings.filter (·.socket == id)).flatMap Piece.bytes

/-- What a socket has carried, in stretches that go on without a break. -/
def stretches (x : Exchange ν) (id : SocketId) : List Piece :=
  Piece.join (x.sendings.filter (·.socket == id))

/-! ### Divided buffers -/

/-- The buffers of the writes that wait or went out at least in part. -/
def payloads (x : Exchange ν) : List Bytes :=
  x.outbox.writes.map (·.data) ++ x.sendings.map (·.write.data)

/-- Does every socket carry complete buffers, and at the end at most the beginning of one? -/
def Undivided (x : Exchange ν) : Prop :=
  ∀ id, ∃ (complete : List Bytes) (part : Bytes), x.carried id = complete.flatten ++ part ∧
    (∀ b ∈ complete, b ∈ x.payloads) ∧ (part = [] ∨ ∃ b ∈ x.payloads, part <+: b)

/-- Where no buffer is divided, what a socket carries begins with a buffer, or is the beginning of
one. -/
theorem Undivided.exists_prefix {x : Exchange ν} (h : x.Undivided) (id : SocketId) :
    x.carried id = [] ∨ ∃ b ∈ x.payloads, b <+: x.carried id ∨ x.carried id <+: b := by
  obtain ⟨complete, part, heq, hcomplete, hpart⟩ := h id
  rw [heq]
  cases complete with
  | nil =>
    rcases hpart with rfl | ⟨b, hb, hprefix⟩
    · exact .inl rfl
    · exact .inr ⟨b, hb, .inr hprefix⟩
  | cons b bs =>
    refine .inr ⟨b, hcomplete b List.mem_cons_self, .inl ?_⟩
    rw [List.flatten_cons, List.append_assoc]
    exact List.prefix_append b _

/-- A new exchange for connections, over a narrow network. -/
def yard : Exchange Narrow :=
  { name := "yard", profile := { transport := .stream }, network := {} }

/-- An outbound channel of the yard. -/
def lamp : Channel :=
  ⟨0, 0, ⟨"lamp", "*", .outbound⟩, .endpoint (.of (.v4 .unspecified) 9)⟩

/-- The connection of a channel fails after two bytes of a buffer, and is replaced. -/
def torn : Exchange Narrow :=
  yard.run [
    .bind lamp.subject lamp.remote, .openUp, .ensureSocket lamp, .poll,
    .enqueue lamp [0x48, 0x45, 0x4C, 0x4C, 0x4F] none, .world { room := 2 }, .poll,
    .reportFault 1001, .elapse 5000, .runDueRetries, .world { room := 9 }, .poll, .poll]

/-- A masked channel hears from another sender after two bytes of a buffer. -/
def swayed : Exchange Narrow :=
  let c : Channel := ⟨0, 0, ⟨"door", "*", .inbound⟩, .mask none none⟩
  let one : Endpoint := .of (.v4 .unspecified) 7
  let other : Endpoint := .of (.v4 .unspecified) 8
  yard.run [
    .bind c.subject c.remote, .openUp, .ensureSocket c,
    .world { waiting := [one] }, .poll, .world { arrivals := [(1001, ⟨[1], one⟩)] }, .poll,
    .enqueue c [0x48, 0x45, 0x4C, 0x4C, 0x4F] none, .world { room := 2 }, .poll,
    .world { waiting := [other] }, .poll, .world { arrivals := [(1002, ⟨[1], other⟩)] }, .poll,
    .world { room := 9 }, .poll]

/-- After two bytes of a buffer on a connection that was taken in, another channel, of which an
older buffer waits for another connection, hears from the far end of this one. -/
def crossed : Exchange Narrow :=
  let c : Channel := ⟨0, 0, ⟨"door", "*", .inbound⟩, .mask none none⟩
  let d : Channel := ⟨0, 1, ⟨"gate", "*", .inbound⟩, .mask none (some 7)⟩
  let one : Endpoint := .of (.v4 .unspecified) 7
  let other : Endpoint := .of (.v4 .loopback) 7
  yard.run [
    .bind c.subject c.remote, .openUp, .ensureSocket c,
    .world { waiting := [one] }, .poll, .world { arrivals := [(1001, ⟨[1], one⟩)] }, .poll,
    .bind d.subject d.remote,
    .world { waiting := [other] }, .poll, .world { arrivals := [(1002, ⟨[1], other⟩)] }, .poll,
    .enqueue d [0x4E, 0x4F] none, .enqueue c [0x48, 0x45, 0x4C, 0x4C, 0x4F] none,
    .world { room := 2 }, .poll,
    .world { room := 9, arrivals := [(1001, ⟨[1], one⟩)] }, .poll]

/-- A channel leaves after two bytes of a buffer, and another one goes on with their connection. -/
def cut : Exchange Narrow :=
  let c : Channel := ⟨0, 1, ⟨"fan", "*", .outbound⟩, lamp.remote⟩
  yard.run [
    .bind lamp.subject lamp.remote, .bind c.subject c.remote, .openUp, .ensureSocket lamp,
    .ensureSocket c, .poll, .enqueue lamp [0x48, 0x45, 0x4C, 0x4C, 0x4F] none,
    .enqueue c [0x4E, 0x4F] none, .world { room := 2 }, .poll,
    .reconfigure [(c.subject, c.remote)], .world { room := 9 }, .poll]

theorem reachable_yard : yard.Reachable :=
  ⟨"yard", { transport := .stream }, {}, yard, [], rfl, rfl⟩

/-- **A buffer may be divided,** when its connection is replaced, when its channel or another one
hears from another sender, and when its channel leaves. -/
theorem not_undivided :
    (torn.Reachable ∧ torn.carried 1002 = [0x4C, 0x4C, 0x4F] ∧ ¬ torn.Undivided) ∧
      (swayed.Reachable ∧ swayed.carried 1002 = [0x4C, 0x4C, 0x4F] ∧ ¬ swayed.Undivided) ∧
      (crossed.Reachable ∧ crossed.carried 1001 = [0x48, 0x45, 0x4E, 0x4F, 0x4C, 0x4C, 0x4F] ∧
        ¬ crossed.Undivided) ∧
      cut.Reachable ∧ cut.carried 1001 = [0x48, 0x45, 0x4E, 0x4F] ∧ ¬ cut.Undivided := by
  refine ⟨⟨reachable_yard.run _, by decide +kernel, fun h => ?_⟩,
    ⟨reachable_yard.run _, by decide +kernel, fun h => ?_⟩,
    ⟨reachable_yard.run _, by decide +kernel, fun h => ?_⟩,
    reachable_yard.run _, by decide +kernel, fun h => ?_⟩
  · exact absurd (h.exists_prefix 1002) (by decide +kernel)
  · exact absurd (h.exists_prefix 1002) (by decide +kernel)
  · exact absurd (h.exists_prefix 1001) (by decide +kernel)
  · exact absurd (h.exists_prefix 1001) (by decide +kernel)

/-! ### Stretches -/

theorem pieced_create {name : String} {profile : Profile} {network : ν} {x : Exchange ν}
    (h : create name profile network = .ok x) : x.outline.Pieced := by
  rw [outline_create h]
  refine ⟨fun w hw => (nomatch hw), fun before p after heq => ?_, fun p hp => (nomatch hp),
    fun p hp => (nomatch hp), .nil, fun p hp => (nomatch hp), .nil, fun i n hn => nomatch hn⟩
  exact absurd heq (by simp)

theorem knows_of_gone {x : Exchange ν} {c : Channel} (h : x.outline.Gone c) :
    x.directory.knows c = false := by
  rw [← Bool.not_eq_true]
  intro hk
  obtain ⟨e, he, hc⟩ := Directory.mem_of_knows hk
  exact h.2 e he hc

variable [Network ν]

theorem Reachable.pieced {x : Exchange ν} (h : x.Reachable) : x.outline.Pieced := by
  obtain ⟨name, profile, network, start, ops, hc, rfl⟩ := h
  obtain ⟨hordered, hsettled⟩ := ordered_create hc
  have hmoves := moves_run (sound_create hc) ops
  exact ((pieced_create hc).moves hsettled hordered (sound_create hc) hmoves).1

/-- What was an outbound connection in some state carries a chain in every state after it. -/
theorem Reachable.carries {x : Exchange ν} (h : x.Reachable) (ops : List (Operation ν))
    {id : SocketId} {s : Socket} (hs : (id, s) ∈ x.sockets) (hr : s.role = .outbound)
    (hm : s.medium = .connection) : (x.run ops).outline.Carries id := by
  obtain ⟨hordered, hsettled⟩ := h.ordered
  have hn : (id, s.nature) ∈ x.outline.sockets := Sockets.mem_natures.mpr ⟨s, hs, rfl⟩
  have hmoves := moves_run h.sound ops
  exact (h.pieced.moves hsettled hordered h.sound hmoves).2 id (h.pieced.carries id _ hn hr hm)

/-- **The pieces of a buffer stay in their places.**  Over all sockets, they are its bytes from the
first on, none left out and none twice.  A buffer leaves an outbound socket only when that is
closed. An outbound connection, also after it was closed, has carried stretches of later and later
buffers: all but the last end with their buffer, unless its channel has left, and each begins where
the buffer had got before the connection carried anything. -/
theorem Reachable.pieces_in_place {x : Exchange ν} (h : x.Reachable) (ops : List (Operation ν)) :
    let y := x.run ops
    (∀ before p after, y.sendings = before ++ p :: after →
      Piece.bytesOf p.write.ticket before = p.write.data.take p.write.offset) ∧
    (y.sendings.Pairwise fun p q => p.write.ticket = q.write.ticket →
      p.write.channel = q.write.channel ∧ p.write.data = q.write.data ∧
        (p.socket ≠ q.socket → ∀ s, (p.socket, s) ∈ y.sockets → s.role ≠ .outbound)) ∧
    ∀ id s, (id, s) ∈ x.sockets → s.role = .outbound → s.medium = .connection →
      y.carried id = (y.stretches id).flatMap Piece.bytes ∧
        (y.stretches id).Pairwise (·.write.ticket < ·.write.ticket) ∧
        (∀ p ∈ (y.stretches id).dropLast,
          p.isLast = true ∨ y.directory.knows p.write.channel = false) ∧
        ∀ p ∈ y.stretches id,
          Piece.bytesOf p.write.ticket (y.sendings.takeWhile (·.socket != id)) =
            p.write.data.take p.write.offset := by
  intro y
  have hpieced : y.outline.Pieced := (h.run ops).pieced
  refine ⟨hpieced.whole, ?_, fun id s hs hr hm => ?_⟩
  · refine (hpieced.same.and hpieced.parted).imp fun hboth ht => ?_
    obtain ⟨hchannel, hdata⟩ := hboth.1 ht
    refine ⟨hchannel, hdata, fun hne s hs hr => ?_⟩
    exact hboth.2 ht hne ⟨s.nature, Sockets.mem_natures.mpr ⟨s, hs, rfl⟩, hr⟩
  · have hcarries : y.outline.Carries id := h.carries ops hs hr hm
    have hjoined := hcarries.joined hpieced
    refine ⟨(Piece.flatMap_bytes_join _).symm, hjoined.ascending, fun p hp => ?_,
      hcarries.begun hpieced⟩
    exact (hjoined.ended p hp).imp_right knows_of_gone

/-- What the new connection carries begins after the two bytes that the old one carried. -/
theorem pieces_in_place_torn :
    (∃ s, (1002, s) ∈ torn.sockets ∧ s.role = .outbound ∧ s.medium = .connection) ∧
      torn.stretches 1002 = [⟨1002, ⟨0, lamp, [0x48, 0x45, 0x4C, 0x4C, 0x4F], 2, none⟩, 3⟩] ∧
      Piece.bytesOf 0 (torn.sendings.takeWhile (·.socket != 1002)) = [0x48, 0x45] := by
  have hnature : (1002, Nature.outgoing .stream (.of (.v4 .unspecified) 9)) ∈ torn.sockets.natures := by
    decide +kernel
  obtain ⟨s, hs, hn⟩ := Sockets.mem_natures.mp hnature
  have hr : s.role = .outbound := congrArg Nature.role hn
  have hm : s.medium = .connection := congrArg Nature.medium hn
  have hreachable : torn.Reachable := reachable_yard.run _
  have hstretches : torn.stretches 1002 =
      [⟨1002, ⟨0, lamp, [0x48, 0x45, 0x4C, 0x4C, 0x4F], 2, none⟩, 3⟩] := by decide +kernel
  have hplace := hreachable.pieces_in_place []
  rw [run_nil] at hplace
  obtain ⟨-, -, -, hbegun⟩ := hplace.2.2 1002 s hs hr hm
  rw [hstretches] at hbegun
  exact ⟨⟨s, hs, hr, hm⟩, hstretches, hbegun _ List.mem_cons_self⟩

end Exchange

end Switchboard
