import Switchboard.Proofs.Narrow
import Switchboard.Proofs.Outline.Operations
import Switchboard.Proofs.Outline.Order

/-!
# The order of writes

Writes are completed in the order in which they were queued, on every outbound socket, on every
listener for datagrams, and for every channel over whatever sockets serve it; and none is completed
twice (`Reachable.writes_in_order`).
-/

namespace Switchboard

open Net Settings Relation

namespace Outline

variable {o o' : Outline}

/-- The socket is no connection that was taken in, and what it has sent is in order.  This stays
true of a socket when it is closed, where being a lane does not. -/
structure InOrder (id : SocketId) (o : Outline) : Prop where
  given : id < o.nextSocket
  kind : ∀ n, (id, n) ∈ o.sockets → n.role ≠ .accepted
  order : o.sendings.Pairwise fun p q => p.socket = id → q.socket = id → p.Before q

variable {id : SocketId}

theorem InOrder.of_grows (h : InOrder id o) (hg : Grows o o')
    (hs : o'.sendings.Pairwise fun p q => p.socket = id → q.socket = id → p.Before q) :
    InOrder id o' where
  given := Nat.lt_of_lt_of_le h.given hg.next
  kind n hn := by
    rcases hg.sockets _ hn with hold | hnew
    · exact h.kind n hold
    · -- A number that was given is not given again.
      exact absurd h.given (Nat.not_lt.mpr hnew)
  order := hs

theorem InOrder.passMove (h : InOrder id o) (ho : o'.Ordered) (hm : PassMove o o') :
    InOrder id o' := by
  refine h.of_grows (grows_passMove hm) ?_
  cases hm with
  | event he =>
    cases he with
    | _ => exact h.order
  | @sent i n before after w count hn =>
    by_cases hi : i = id
    · subst hi
      exact ho.lanes i ⟨n, hn, h.kind n hn⟩
    · exact pairwise_snoc.mpr ⟨h.order, fun _ _ _ heq => absurd heq hi⟩

theorem InOrder.passMoves (h : InOrder id o) (ho : o.Ordered) (hs : o.Sound)
    (hm : PassMoves o o') : InOrder id o' := by
  induction hm with
  | refl => exact h
  | tail hbefore hstep ih =>
    have hordered := ho.passMoves hs hbefore
    exact ih.passMove (hordered.passMove (hs.passMoves hbefore) hstep) hstep

theorem InOrder.move (h : InOrder id o) (ho : o.Ordered) (hs : o.Sound) (hm : Move o o') :
    InOrder id o' := by
  refine h.of_grows (grows_move hm) ?_
  cases hm with
  | event he =>
    cases he with
    | _ => exact h.order
  | passed p hpass hp hstay => exact (h.passMoves ho hs hpass).order
  | moved t next hopen hnext =>
    unfold Outline.rebind
    split <;> split <;> exact h.order
  | _ => exact h.order

theorem InOrder.moves (h : InOrder id o) (ho : o.Ordered) (hset : o.Settled) (hs : o.Sound)
    (hm : Moves o o') : InOrder id o' := by
  induction hm with
  | refl => exact h
  | tail hbefore hstep ih =>
    exact ih.move (ho.moves hset hs hbefore).1 (hs.moves hbefore) hstep

end Outline

namespace Exchange

open Outline

variable {ν : Type}

/-- The tickets of the writes whose last byte was sent in a piece that passes a test, in the order
in which that was. -/
def completed (x : Exchange ν) (p : Piece → Bool) : List Nat :=
  (x.sendings.filter fun q => q.isLast && p q).map (·.write.ticket)

/-- Where the pieces that pass a test are in order, the tickets of what they completed ascend. -/
theorem completed_ascending {x : Exchange ν} {p : Piece → Bool}
    (h : x.sendings.Pairwise fun q r => p q = true → p r = true → q.Before r) :
    (x.completed p).Pairwise (· < ·) := by
  rw [completed, List.pairwise_map, List.pairwise_filter]
  refine h.imp fun hbefore hq hr => ?_
  rw [Bool.and_eq_true] at hq hr
  exact (hbefore hq.2 hr.2).2 hq.1

theorem ordered_create {name : String} {profile : Profile} {network : ν} {x : Exchange ν}
    (h : create name profile network = .ok x) : x.outline.Ordered ∧ x.outline.Settled := by
  rw [outline_create h]
  refine ⟨?_, fun p hp => nomatch hp⟩
  exact {
    ascending := .nil
    below := fun w hw => nomatch hw
    owned := fun w hw => nomatch hw
    voiced := fun w hw => nomatch hw
    sent := fun p hp => nomatch hp
    gone := fun p hp => nomatch hp
    channel := fun p hp => nomatch hp
    lane := fun p hp => nomatch hp
    once := .nil
    channels := .nil
    lanes := fun _ _ => .nil }

variable [Network ν]

theorem Reachable.ordered {x : Exchange ν} (h : x.Reachable) :
    x.outline.Ordered ∧ x.outline.Settled := by
  obtain ⟨name, profile, network, start, ops, hc, rfl⟩ := h
  obtain ⟨hordered, hsettled⟩ := ordered_create hc
  exact hordered.moves hsettled (sound_create hc) (moves_run (sound_create hc) ops)

/-- **Writes are completed in the order in which they were queued,** on every outbound socket and on
every listener for datagrams, also after it was closed, and for every channel over all its sockets.
No write is completed twice. -/
theorem Reachable.writes_in_order {x : Exchange ν} (h : x.Reachable) (ops : List (Operation ν)) :
    (∀ id s, (id, s) ∈ x.sockets →
      s.role = .outbound ∨ s.role = .listener ∧ s.medium = .datagram →
        ((x.run ops).completed (·.socket == id)).Pairwise (· < ·)) ∧
    (∀ c, ((x.run ops).completed (·.write.channel == c)).Pairwise (· < ·)) ∧
    ((x.run ops).completed fun _ => true).Nodup := by
  obtain ⟨hordered, hsettled⟩ := h.ordered
  have hmoves := moves_run h.sound ops
  obtain ⟨hordered', -⟩ := (h.run ops).ordered
  refine ⟨?_, ?_, ?_⟩
  · intro id s hs hkind
    have hn : (id, s.nature) ∈ x.outline.sockets := Sockets.mem_natures.mpr ⟨s, hs, rfl⟩
    have hrole : s.nature.role ≠ .accepted := by
      rcases hkind with hr | ⟨hr, -⟩
      · exact fun hacc => nomatch hr.symm.trans hacc
      · exact fun hacc => nomatch hr.symm.trans hacc
    have hstart : InOrder id x.outline := {
      given := h.sound.below _ hn
      kind := fun n' hn' => h.sound.nature_eq hn hn' ▸ hrole
      order := hordered.lanes id ⟨_, hn, hrole⟩ }
    have hend := hstart.moves hordered hsettled h.sound hmoves
    refine completed_ascending (hend.order.imp fun hbefore hp hq => ?_)
    exact hbefore (beq_iff_eq.mp hp) (beq_iff_eq.mp hq)
  · intro c
    refine completed_ascending (hordered'.channels.imp fun hbefore hp hq => ?_)
    exact hbefore ((beq_iff_eq.mp hp).trans (beq_iff_eq.mp hq).symm)
  · rw [completed, List.Nodup, List.pairwise_map, List.pairwise_filter]
    refine hordered'.once.imp fun honce hp _ => ?_
    rw [Bool.and_true] at hp
    exact honce hp

/-- Two writes of the outbound channel of the laboratory go out one after the other. -/
theorem writes_in_order_lab :
    let c : Channel := ⟨0, 1, ⟨"lamp", "*", .outbound⟩, .endpoint (.of (.v4 .unspecified) 9)⟩
    let ops : List (Operation Narrow) :=
      [.enqueue c [0x6F, 0x6E] none, .enqueue c [0x6F, 0x66] none, .world { room := 9 }, .poll]
    (∃ s, (1002, s) ∈ lab.sockets ∧ s.role = .outbound) ∧
      (lab.run ops).completed (·.socket == 1002) = [0, 1] ∧
      ((lab.run ops).completed (·.socket == 1002)).Pairwise (· < ·) := by
  intro c ops
  obtain ⟨s, hs, hr⟩ : ∃ s, (1002, s) ∈ lab.sockets ∧ s.role = .outbound :=
    ⟨_, List.mem_of_getElem? (i := 1) rfl, rfl⟩
  exact ⟨⟨s, hs, hr⟩, by decide +kernel, (reachable_lab.writes_in_order ops).1 1002 s hs (.inl hr)⟩

end Exchange

end Switchboard
