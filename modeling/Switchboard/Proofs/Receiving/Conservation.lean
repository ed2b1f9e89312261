import Switchboard.Proofs.Receiving.Reads

/-!
# Nothing that is read is lost

Every buffer that a poll reads is accounted for, in the order in which the poll reads them: a caller gets
it, or the protocol does for each channel that it is for, or it is for nobody and nothing comes of it
(`Station.pollCycle_conserves`).  The buffers of a connection are its bytes, none left out and none
added, whether it goes on, ends or fails in the same pass (`Intake.Whole`).

That the protocol is given just these buffers is an induction over the intakes of the pass
(`Reads.inbox`); that they are all that was read is one over the same chain for the books on the network
(`Reads.ledger`).
-/

namespace Switchboard

open Net Settings Directory

namespace Exchange

/-! ### Buffers -/

theorem flatten_pieces {size fuel : Nat} {bs : Bytes} (hsize : 0 < size) (hfuel : bs.length ≤ fuel) :
    (pieces size fuel bs).flatten = bs := by
  induction fuel generalizing bs with
  | zero => rw [List.eq_nil_of_length_eq_zero (Nat.le_zero.mp hfuel)]; rfl
  | succ fuel ih =>
    cases bs with
    | nil => rfl
    | cons b bs =>
      have hrest : ((b :: bs).drop size).length ≤ fuel := by
        rw [List.length_drop, List.length_cons]
        rw [List.length_cons] at hfuel
        omega
      change ((b :: bs).take size :: pieces size fuel ((b :: bs).drop size)).flatten = b :: bs
      rw [List.flatten_cons, ih hrest, List.take_append_drop]

theorem length_of_mem_pieces {size fuel : Nat} {bs piece : Bytes} (hsize : 0 < size)
    (h : piece ∈ pieces size fuel bs) : 1 ≤ piece.length ∧ piece.length ≤ size := by
  induction fuel generalizing bs with
  | zero => exact nomatch h
  | succ fuel ih =>
    cases bs with
    | nil => exact nomatch h
    | cons b bs =>
      rcases List.mem_cons.mp h with rfl | h
      · rw [List.length_take, List.length_cons]
        omega
      · exact ih h

/-- A read that has no room for a byte gives no buffer: of a connection, nothing is read then. -/
theorem data_of_mem_readable {medium : Medium} {size : Nat} {inflow : Inflow} {a : Arrival}
    (h : a ∈ (readable medium size inflow).arrivals) (hm : medium = .connection) (hsize : size = 0) :
    a.data = [] := by
  unfold readable at h
  split_ifs at h with hany
  · exact nomatch h
  · have hnone : ¬ inflow.arrivals.any (·.data != []) = true := fun ha => hany ⟨hm, hsize, ha⟩
    by_contra hdata
    exact hnone (List.any_eq_true.mpr ⟨a, h, bne_iff_ne.mpr hdata⟩)

theorem readable_of_pos {size : Nat} (hsize : 0 < size) (medium : Medium) (inflow : Inflow) :
    readable medium size inflow = inflow :=
  if_neg fun h => hsize.ne' h.2.1

/-- No buffer is empty, and none has more than fits. -/
theorem length_of_mem_buffers {medium : Medium} {size : Nat} {data b : Bytes}
    (hroom : medium = .connection → size = 0 → data = []) (h : b ∈ buffers medium size data) :
    1 ≤ b.length ∧ b.length ≤ size := by
  have hcut : b ∈ (if data.take size = [] then [] else [data.take size]) →
      1 ≤ b.length ∧ b.length ≤ size := by
    intro h
    split_ifs at h with hempty
    · exact nomatch h
    · obtain rfl := List.mem_singleton.mp h
      exact ⟨List.length_pos_iff.mpr hempty, List.length_take_le size data⟩
  cases medium with
  | connection =>
    rcases Nat.eq_zero_or_pos size with hsize | hsize
    · rw [hroom rfl hsize] at h
      exact nomatch h
    · exact length_of_mem_pieces hsize h
  | datagram | acceptor => exact hcut h

variable {ν : Type} [Network ν] {x y : Exchange ν}

namespace Intake

/-- **The buffers of an intake are what was there:** each of them has some bytes and no more than a
buffer holds; those of a connection are its bytes in their order, and those of datagrams are the
datagrams, cut off where a buffer ends, but for the empty ones. -/
structure Whole (i : Intake ν) : Prop where
  bounds : ∀ b ∈ i.buffers, 1 ≤ b.2.length ∧ b.2.length ≤ i.before.profile.bufferSize
  stream : i.socket.medium = .connection →
    (i.buffers.map Prod.snd).flatten =
      if i.before.profile.bufferSize = 0 then [] else (i.answer.arrivals.map (·.data)).flatten
  datagrams : i.socket.medium = .datagram →
    i.buffers.map Prod.snd =
      (i.answer.arrivals.map (·.data.take i.before.profile.bufferSize)).filter (· ≠ [])

/-- **Every buffer of an intake is handed on,** where those before it were: to channels of which none
is there twice, and which stand in the order in which they came to the directory. -/
structure Conserved (i : Intake ν) : Prop where
  whole : i.Whole
  ascending : ∀ earlier b later, i.buffers = earlier ++ b :: later →
    ((i.matching earlier b).map Channel.id).Pairwise (· < ·)
  handed : ∀ earlier b later, i.buffers = earlier ++ b :: later →
    Handed (i.after earlier) (i.after (earlier ++ [b])) (i.matching earlier b) b.1 b.2

theorem map_snd_buffers (i : Intake ν) : i.buffers.map Prod.snd =
    (readable i.socket.medium i.before.profile.bufferSize i.answer).arrivals.flatMap fun a =>
      Exchange.buffers i.socket.medium i.before.profile.bufferSize a.data := by
  unfold Intake.buffers
  rw [List.map_flatMap]
  simp only [List.map_map, Function.comp_def, List.map_id']

theorem length_of_mem_buffers (i : Intake ν) {b : Option Endpoint × Bytes} (h : b ∈ i.buffers) :
    1 ≤ b.2.length ∧ b.2.length ≤ i.before.profile.bufferSize := by
  have hdata : b.2 ∈ i.buffers.map Prod.snd := List.mem_map_of_mem h
  rw [map_snd_buffers] at hdata
  obtain ⟨a, ha, hb⟩ := List.mem_flatMap.mp hdata
  exact Exchange.length_of_mem_buffers (data_of_mem_readable ha) hb

/-- **Whatever was there is in the buffers.** -/
theorem whole (i : Intake ν) : i.Whole where
  bounds _ hb := i.length_of_mem_buffers hb
  stream hm := by
    split_ifs with hsize
    · -- There is no buffer: it would have a byte and no byte.
      have hnone : i.buffers = [] := List.eq_nil_iff_forall_not_mem.mpr fun b hb => by
        have := i.length_of_mem_buffers hb
        omega
      rw [hnone]
      rfl
    · have hpos : 0 < i.before.profile.bufferSize := Nat.pos_of_ne_zero hsize
      rw [map_snd_buffers, readable_of_pos hpos, hm]
      generalize i.answer.arrivals = arrivals
      induction arrivals with
      | nil => rfl
      | cons a arrivals ih =>
        rw [List.flatMap_cons, List.flatten_append, ih, List.map_cons, List.flatten_cons]
        exact congrArg (· ++ _) (flatten_pieces hpos le_rfl)
  datagrams hm := by
    rw [map_snd_buffers, hm, readable, if_neg fun h => Medium.noConfusion h.1]
    generalize i.before.profile.bufferSize = size
    generalize i.answer.arrivals = arrivals
    induction arrivals with
    | nil => rfl
    | cons a arrivals ih =>
      rw [List.flatMap_cons, ih, List.map_cons, List.filter_cons, Exchange.buffers]
      by_cases hempty : a.data.take size = []
      · rw [if_pos hempty, hempty]
        rfl
      · rw [if_neg hempty, if_pos (decide_eq_true hempty), List.singleton_append]
      · exact Medium.noConfusion

/-! ### The course of an intake -/

theorem after_snoc (i : Intake ν) (earlier : List (Option Endpoint × Bytes))
    (b : Option Endpoint × Bytes) :
    i.after (earlier ++ [b]) = (i.after earlier).route i.id i.socket.role b.1 b.2 := by
  unfold after
  rw [List.foldl_append, List.foldl_cons, List.foldl_nil]

/-- Handing buffers on leaves the exchange sound, and the sockets and the network alone. -/
theorem Sound.after {i : Intake ν} (h : i.Sound) (earlier : List (Option Endpoint × Bytes)) :
    (i.after earlier).outline.Sound ∧ (i.after earlier).sockets = i.before.sockets ∧
      (i.after earlier).network = i.start.network := by
  induction earlier using List.reverseRecOn with
  | nil => exact ⟨h.outline, rfl, rfl⟩
  | append_singleton earlier b ih =>
    obtain ⟨hsound, hsockets, hnetwork⟩ := ih
    obtain ⟨_, _, _, heq⟩ := route_eq i.id i.socket.role b.1 b.2 (i.after earlier)
    have hfound : (i.after earlier).sockets.find? i.id = some i.socket := hsockets ▸ h.found
    rw [after_snoc]
    refine ⟨hsound.events (events_route hsound hfound b.1 b.2), ?_, ?_⟩ <;> rw [heq]
    · exact hsockets
    · exact hnetwork

theorem Sound.handed_after {i : Intake ν} (h : i.Sound) (earlier : List (Option Endpoint × Bytes))
    (b : Option Endpoint × Bytes) :
    Handed (i.after earlier) (i.after (earlier ++ [b])) (i.matching earlier b) b.1 b.2 := by
  obtain ⟨hsound, hsockets, -⟩ := h.after earlier
  rw [after_snoc]
  exact handed_route hsound (hsockets ▸ h.found) b.1 b.2

theorem Sound.conserved {i : Intake ν} (h : i.Sound) : i.Conserved where
  whole := i.whole
  ascending earlier _ _ _ := ascending_matching (h.after earlier).1.numbered _ _ _
  handed earlier b _ _ := h.handed_after earlier b

/-- What the protocol is handed comes into the inbox. -/
theorem Sound.inbox_after {i : Intake ν} (h : i.Sound)
    (earlier later : List (Option Endpoint × Bytes)) :
    (i.after (earlier ++ later)).inbox = (i.after earlier).inbox ++ i.handed earlier later := by
  -- A caller who gets his reply awaits none afterwards, so each buffer is told where it is its turn.
  induction later generalizing earlier with
  | nil => rw [List.append_nil, handed, List.append_nil]
  | cons b later ih =>
    have hfirst := (h.handed_after earlier b).inbox
    rw [List.append_cons, ih, hfirst, handed, List.append_assoc]

end Intake

/-! ### The course of a pass -/

/-- **What comes into the inbox are the deliveries of the intakes,** in their order. -/
theorem Reads.inbox {is : List (Intake ν)} (h : Reads x is y) :
    y.inbox = x.inbox ++ is.flatMap Intake.deliveries := by
  induction is generalizing x with
  | nil => exact (Unread.inbox h).trans (List.append_nil _).symm
  | cons i is ih =>
    obtain ⟨hbefore, hsound, hrest⟩ := h
    -- What the pass did before the intake brought nothing.
    have hfinish : i.finish.inbox = x.inbox ++ i.deliveries :=
      (hsound.inbox_after [] i.buffers).trans (congrArg (· ++ _) hbefore.inbox)
    rw [ih hrest, hfinish, List.flatMap_cons, List.append_assoc]

/-- **The intakes are all that the network was asked to read,** whoever keeps the books. -/
theorem Reads.ledger {is : List (Intake ν)} (h : Reads x is y) (l : Ledger ν) :
    l.reads y.network = l.reads x.network ++ is.map fun i => (i.id, i.answer) := by
  induction is generalizing x with
  | nil => exact (Unread.ledger h l).trans (List.append_nil _).symm
  | cons i is ih =>
    obtain ⟨hbefore, hsound, hrest⟩ := h
    have hfinish : l.reads i.finish.network = l.reads x.network ++ [(i.id, i.answer)] :=
      calc l.reads i.finish.network
        _ = l.reads i.start.network := congrArg l.reads (hsound.after i.buffers).2.2
        _ = l.reads i.before.network ++ [(i.id, i.answer)] := l.receive i.id i.before.network
        _ = l.reads x.network ++ [(i.id, i.answer)] := congrArg (· ++ _) (hbefore.ledger l)
    rw [ih hrest, hfinish, List.map_cons, List.append_assoc, List.singleton_append]

theorem Reads.conserved {is : List (Intake ν)} (h : Reads x is y) : ∀ i ∈ is, i.Conserved := by
  induction is generalizing x with
  | nil => exact fun _ hi => absurd hi List.not_mem_nil
  | cons i is ih => exact List.forall_mem_cons.mpr ⟨h.2.1.conserved, ih h.2.2⟩

end Exchange

namespace Station

open Exchange

variable {ν ε : Type} [Network ν] {st : Station ν ε}

/-- **A poll makes some intakes and gives the protocol what they bring:** each of the deliveries once,
in their order, and the answer is their number. -/
structure Conserves (st : Station ν ε) (is : List (Intake ν)) (z : Exchange ν) : Prop where
  reads : Reads st.exchange is z
  books : ∀ l : Ledger ν, l.reads z.network =
    l.reads st.exchange.network ++ is.map fun i => (i.id, i.answer)
  conserved : ∀ i ∈ is, i.Conserved
  poll : st.exchange.poll = (.ok (is.flatMap Intake.deliveries), { z with inbox := [] })
  cycle : st.pollCycle =
    let ds := is.flatMap Intake.deliveries
    let told := announce { st with exchange := { z with inbox := [] } }
    let parsed := told.2.performAll (ds.map fun d => st.protocol.parse d.channel d.data)
    (.ok ds.length, told.1 ++ parsed.1, parsed.2)

/-- **Nothing that a poll reads is lost, and nothing else is handed on.** -/
theorem pollCycle_conserves (h : st.exchange.Reachable) :
    (st.exchange.isOpen = false → st.pollCycle = (.error .notActive, [], st)) ∧
    (st.exchange.isOpen = true → ∃ is z, st.Conserves is z) := by
  constructor
  · intro hclosed
    unfold pollCycle poll
    rw [if_pos hclosed]
  · intro hopen
    obtain ⟨is, z, hreads, hpoll⟩ := reads_poll h.sound hopen
    have hinbox : z.inbox = is.flatMap Intake.deliveries := by
      rw [hreads.inbox, h.inbox, List.nil_append]
    rw [hinbox] at hpoll
    refine ⟨is, z, hreads, hreads.ledger, hreads.conserved, hpoll, ?_⟩
    have hprotocol : (announce { st with exchange := { z with inbox := [] } }).2.protocol =
        st.protocol := protocol_performAll _ _
    unfold pollCycle
    rw [hpoll]
    dsimp only
    rw [hprotocol]

/-- A channel for the guest alone, beside the masked one. -/
def wicket : Channel :=
  ⟨0, 1, ⟨"wicket", "*", .inbound⟩, .endpoint guest⟩

/-- Both channels are on the listener, and a buffer of the guest has arrived and one of the stranger
after it. -/
def gatehouse : Station (Logged Narrow) Unit where
  exchange := run { name := "gatehouse", profile := {}, network := ⟨{}, []⟩ } [
    .bind porch.subject porch.remote, .bind wicket.subject wicket.remote, .openUp,
    .ensureSocket porch, .ensureSocket wicket,
    .world ⟨{ arrivals := [(1000, ⟨[1], guest⟩), (1000, ⟨[2], stranger⟩)] }, []⟩]
  protocol := echo

/-- At the gatehouse, the books show one answer with both buffers, and each of them comes to one
channel. -/
theorem pollCycle_conserves_gatehouse :
    (gatehouse.exchange.Reachable ∧ gatehouse.exchange.isOpen = true) ∧
    ∃ is z, gatehouse.Conserves is z ∧
      (is.map fun i => (i.id, i.answer)) =
        [(1000, ⟨[⟨[1], guest⟩, ⟨[2], stranger⟩], .dry⟩)] ∧
      is.flatMap Intake.deliveries = [⟨wicket, [1]⟩, ⟨porch, [2]⟩] := by
  have hreached : gatehouse.exchange.Reachable :=
    ⟨"gatehouse", {}, ⟨{}, []⟩, _, _, rfl, rfl⟩
  have hopen : gatehouse.exchange.isOpen = true := by decide +kernel
  have hstate : (Logged.ledger Narrow).reads gatehouse.exchange.network = [] ∧
      gatehouse.exchange.poll.1 = .ok [⟨wicket, [1]⟩, ⟨porch, [2]⟩] ∧
      (Logged.ledger Narrow).reads gatehouse.exchange.poll.2.network =
        [(1000, ⟨[⟨[1], guest⟩, ⟨[2], stranger⟩], .dry⟩)] := by
    decide +kernel
  obtain ⟨hstart, hdelivered, hlog⟩ := hstate
  obtain ⟨is, z, hall⟩ := (pollCycle_conserves hreached).2 hopen
  rw [hall.poll] at hdelivered hlog
  refine ⟨⟨hreached, hopen⟩, is, z, hall, ?_, Except.ok.inj hdelivered⟩
  have hbooks := hall.books (Logged.ledger Narrow)
  rw [hstart, List.nil_append] at hbooks
  exact hbooks.symm.trans hlog

end Station

end Switchboard
