import Switchboard.Proofs.Calls.Replies
import Switchboard.Proofs.Fates
import Switchboard.Proofs.Senders.Recall

/-!
# Where answers go

A write names its channel, not an address, so where it goes is found out when it is sent.  For a
masked channel that need not be where it would have gone when it was queued
(`not_fixesDestinations`): a buffer from somebody else may come in between, and then the write goes
to them.

What holds is that every piece of the write goes to whom the channel has heard last when that piece
leaves: to the sender that was remembered when the write was queued, as long as the channel has heard
from nobody since, and else to the last one that it has heard from
(`Reachable.destination_of_answer`).
-/

namespace Switchboard.Exchange

open Net Settings Relation Directory Outline

variable {ν : Type} {x y : Exchange ν} {c : Channel}

/-! ### Answers that go elsewhere -/

section

variable [Network ν]

/-- **Where an answer goes is fixed when it is queued.** -/
def FixesDestinations (x : Exchange ν) : Prop :=
  ∀ c data call far, c ∈ x.directory.channels → c.remote.isMask = true → c.direction = .inbound →
    x.directory.lastSender c = some far → (x.enqueue c data call).1 = .ok true →
      ∀ ops id target w count,
        .sent id target w count ∈ ((x.enqueue c data call).2.run ops).journal →
          w.ticket = x.outbox.nextTicket → target = some far

end

/-- The masked channel of the lobby hears from the guest; over connections, the stranger has been
taken in, too. -/
def greeted (t : Transport) : Exchange Narrow :=
  let callers : List Endpoint := match t with
    | .datagram => []
    | .stream => [guest, stranger]
  let socket : SocketId := match t with
    | .datagram => 1000
    | .stream => 1001
  (lobby t).run [
    .bind porch.subject porch.remote, .openUp, .ensureSocket porch,
    .world { waiting := callers }, .poll, .world { arrivals := [(socket, ⟨[1], guest⟩)] }, .poll]

/-- Before an answer to the guest can be sent, the channel hears from the stranger. -/
def interrupted (t : Transport) : List (Operation Narrow) :=
  let socket : SocketId := match t with
    | .datagram => 1000
    | .stream => 1002
  [.world { arrivals := [(socket, ⟨[3], stranger⟩)] }, .poll, .world { room := 9 }, .poll]

theorem reachable_greeted (t : Transport) : (greeted t).Reachable :=
  (reachable_lobby t).run _

/-- An answer to the guest is queued, and goes to the stranger. -/
theorem state_greeted (t : Transport) :
    ((greeted t).directory.lastSender porch = some guest ∧
      ((greeted t).enqueue porch [2] none).1 = .ok true) ∧
    ∃ id ∈ [1000, 1002], .sent id (some stranger) ⟨0, porch, [2], 0, none⟩ 1 ∈
      (((greeted t).enqueue porch [2] none).2.run (interrupted t)).journal := by
  cases t with
  | datagram => decide +kernel
  | stream => decide +kernel

theorem not_fixesDestinations_greeted (t : Transport) : ¬ (greeted t).FixesDestinations := by
  intro h
  obtain ⟨⟨hheard, hqueued⟩, id, -, hsent⟩ := state_greeted t
  have hmem : porch ∈ (greeted t).directory.channels := by cases t <;> decide +kernel
  have hticket : (greeted t).outbox.nextTicket = 0 := by cases t <;> decide +kernel
  have hfar := h porch [2] none guest hmem rfl rfl hheard hqueued _ _ _ _ _ hsent hticket.symm
  exact absurd hfar (by decide)

/-- **An answer may go elsewhere,** both with datagrams and over connections. -/
theorem not_fixesDestinations :
    ((greeted .datagram).Reachable ∧ ¬ (greeted .datagram).FixesDestinations) ∧
      (greeted .stream).Reachable ∧ ¬ (greeted .stream).FixesDestinations :=
  ⟨⟨reachable_greeted _, not_fixesDestinations_greeted _⟩, reachable_greeted _,
    not_fixesDestinations_greeted _⟩

/-! ### Where they do go -/

/-- Where nothing is sent, there are no new pieces. -/
theorem Still.sendings (h : Still x y) : y.sendings = x.sendings := by
  obtain ⟨since, hj, hstill⟩ := h.logged
  have hnone : since.reverse.filterMap Traffic.piece? = [] := by
    refine List.filterMap_eq_nil_iff.mpr fun t ht => ?_
    have hno := hstill t (List.mem_reverse.mp ht)
    cases t with
    | sent id target w count => exact nomatch hno
    | _ => rfl
  unfold Exchange.sendings
  rw [hj, List.reverse_append, List.filterMap_append, hnone, List.append_nil]

/-- What the journal says was sent is a piece that has gone out. -/
theorem mem_sendings {id : SocketId} {target : Option Endpoint} {w : Write} {count : Nat}
    (h : .sent id target w count ∈ x.journal) : ⟨id, w, count⟩ ∈ x.sendings :=
  List.mem_filterMap.mpr ⟨_, List.mem_reverse.mpr h, rfl⟩

variable [Network ν]

/-- The ticket of a write that was queued stands for it in every run after that. -/
theorem Reachable.issued_run (h : x.Reachable) {data : Bytes} {call : Option Nat}
    (hq : (x.enqueue c data call).1 = .ok true) (ops : List (Operation ν)) :
    ((x.enqueue c data call).2.run ops).outline.Issued
      { ticket := x.outbox.nextTicket, channel := c, data, call } := by
  have hreached : (x.enqueue c data call).2.Reachable := h.run [.enqueue c data call]
  obtain ⟨hordered, hsettled⟩ := hreached.ordered
  refine Issued.moves ?_ hsettled hordered hreached.sound (moves_run hreached.sound ops)
  rcases enqueue_cases c data call x with ⟨hno, -⟩ | ⟨y, -, hxy, -, -, -, hyz⟩
  · exact absurd hq hno
  · have hissued := h.ordered.1.issued c data call
    have houtbox : (x.enqueue c data call).2.outbox = x.outbox.push c data call :=
      hyz.outbox.trans (congrArg (Outbox.push · c data call) hxy.outbox)
    have hsent : (x.enqueue c data call).2.outline.sendings = x.outline.sendings :=
      (Still.enqueue c data call x).sendings
    exact {
      given := Nat.lt_of_lt_of_eq hissued.given (congrArg Outbox.nextTicket houtbox).symm
      waits := fun w hw => hissued.waits w (houtbox ▸ hw)
      sent := fun p hp => by
        rw [hsent] at hp
        exact hissued.sent p hp }

/-- Of a write of a masked channel, every piece goes to whom the channel had heard last by then. -/
theorem Reachable.target_eq_lastHeard (h : x.Reachable) (hm : c.remote.isMask = true) {data : Bytes}
    {call : Option Nat} (hq : (x.enqueue c data call).1 = .ok true) (ops : List (Operation ν))
    {later earlier : List Traffic} {id : SocketId} {target : Option Endpoint} {w : Write}
    {count : Nat} (hj : ((x.enqueue c data call).2.run ops).journal =
      later ++ .sent id target w count :: earlier) (ht : w.ticket = x.outbox.nextTicket) :
    (w.channel = c ∧ w.data = data) ∧ ∃ since, earlier = since ++ x.journal ∧
      target = (lastHeard? c since).or (x.directory.lastSender c) := by
  have hsent : .sent id target w count ∈ ((x.enqueue c data call).2.run ops).journal := hj ▸ by simp
  obtain ⟨-, hchannel, hdata, -⟩ := (h.issued_run hq ops).sent _ (mem_sendings hsent) ht
  have hc : c ∈ x.directory.channels := by
    rcases enqueue_cases c data call x with ⟨hno, -⟩ | ⟨y, -, hxy, -, -, hmem, -⟩
    · exact absurd hq hno
    · exact hxy.channels ▸ hmem
  obtain ⟨since, hsince⟩ := h.recalls_run hc hm (.enqueue c data call :: ops)
  have hsplit : later ++ .sent id target w count :: earlier = since ++ x.journal :=
    hj.symm.trans hsince.journal
  -- With the ticket of a write that was not queued yet, nothing was sent before.
  have hnew : .sent id target w count ∉ x.journal := fun hmem =>
    absurd (h.ordered.1.sent _ (mem_sendings hmem)).2 (Nat.not_lt.mpr (Nat.le_of_eq ht.symm))
  refine ⟨⟨hchannel, hdata⟩, ?_⟩
  rcases List.append_eq_append_iff.mp hsplit with ⟨more, rfl, hrest⟩ | ⟨more, rfl, hrest⟩
  · cases more with
    | nil =>
      rw [List.nil_append] at hrest
      exact absurd (hrest ▸ List.mem_cons_self) hnew
    | cons t more =>
      obtain rfl := (List.cons.inj hrest).1
      exact ⟨more, (List.cons.inj hrest).2, hsince.sent later more id target w count rfl hchannel⟩
  · exact absurd (hrest ▸ by simp) hnew

/-- **An answer goes to whom its channel has heard last.**  Of a write of a masked channel that was
queued when the channel remembered a sender, every piece that goes out, whenever that is, goes to
that sender as long as no buffer was read for the protocol of the channel, and else to the sender of
the last one that was. -/
theorem Reachable.destination_of_answer (h : x.Reachable) (hm : c.remote.isMask = true)
    {far : Endpoint} (hfar : x.directory.lastSender c = some far) {data : Bytes} {call : Option Nat}
    (hq : (x.enqueue c data call).1 = .ok true) (ops : List (Operation ν)) :
    ∀ later earlier id target w count,
      ((x.enqueue c data call).2.run ops).journal = later ++ .sent id target w count :: earlier →
        w.ticket = x.outbox.nextTicket →
          (w.channel = c ∧ w.data = data) ∧ ∃ since, earlier = since ++ x.journal ∧
            (target = some far ∧ (∀ t ∈ since, t.heardBy? c = none) ∨
              ∃ after t before sender, since = after ++ t :: before ∧ t.heardBy? c = some sender ∧
                (∀ t' ∈ after, t'.heardBy? c = none) ∧ target = some sender) := by
  intro later earlier id target w count hj ht
  obtain ⟨hwrite, since, hearlier, htarget⟩ := h.target_eq_lastHeard hm hq ops hj ht
  refine ⟨hwrite, since, hearlier, ?_⟩
  cases hlast : lastHeard? c since with
  | none =>
    rw [hlast, Option.none_or, hfar] at htarget
    exact .inl ⟨htarget, List.findSome?_eq_none_iff.mp hlast⟩
  | some sender =>
    rw [hlast, Option.some_or] at htarget
    obtain ⟨after, t, before, hsince, hheard, hafter⟩ := List.findSome?_eq_some_iff.mp hlast
    exact .inr ⟨after, t, before, sender, hsince, hheard, hafter, htarget⟩

/-- In the lobby, the answer to the guest goes to the stranger, whom the channel heard since. -/
theorem destination_of_answer_greeted :
    ((greeted .datagram).directory.lastSender porch = some guest ∧
      ((greeted .datagram).enqueue porch [2] none).1 = .ok true) ∧
    ∃ t ∈ (((greeted .datagram).enqueue porch [2] none).2.run (interrupted .datagram)).journal,
      t.heardBy? porch = some stranger := by
  obtain ⟨⟨hheard, hqueued⟩, id, -, hsent⟩ := state_greeted .datagram
  have hticket : 0 = (greeted .datagram).outbox.nextTicket := by decide +kernel
  obtain ⟨later, earlier, hj⟩ := List.append_of_mem hsent
  obtain ⟨-, since, hearlier, hfar⟩ := (reachable_greeted .datagram).destination_of_answer rfl
    hheard hqueued (interrupted .datagram) later earlier id _ _ _ hj hticket
  refine ⟨⟨hheard, hqueued⟩, ?_⟩
  rcases hfar with ⟨hguest, -⟩ | ⟨after, t, before, sender, rfl, ht, -, hsender⟩
  · exact absurd hguest (by decide)
  · refine ⟨t, ?_, ht.trans hsender.symm⟩
    rw [hj, hearlier]
    simp

end Switchboard.Exchange
