import Switchboard.Proofs.Outline.Operations
import Switchboard.Proofs.Sending.Waiting
import Switchboard.Proofs.WriteOrder

/-!
# Replies that nobody takes

The listener for datagrams sends the replies of all inbound channels, the oldest first.  A reply that
the network refuses stays where it is, and the pass ends there: nothing is tried of what waits behind
it, neither in that pass nor in any other, as long as the reply is refused (`not_triesBehind`).

What does hold is the order.  A pass over the listener tries the replies that wait in their order, up
to the first that is refused or to one that holds the others back; those before it have gone, and it
and those behind it wait as before.  In every state, what has gone through the listener is no later
than what waits there (`Reachable.listener_pass`).
-/

namespace Switchboard.Exchange

open Net Settings Directory

variable {ν : Type} [Network ν]

/-- **The network takes some replies,** one after the other. -/
def Takes (id : SocketId) : List (Write × Option Endpoint) → ν → ν → Prop
  | [], n, n' => n' = n
  | p :: rest, n, n' => ∃ count m, Network.send id p.2 p.1.remaining n = (.took count, m) ∧
      (count = 0 → p.1.remaining = []) ∧ Takes id rest m n'

/-- **The network does not take a reply.** -/
def Refuses (id : SocketId) (p : Write × Option Endpoint) (n n' : ν) : Prop :=
  ∃ answer, Network.send id p.2 p.1.remaining n = (answer, n') ∧
    ∀ count, answer = .took count → count = 0 ∧ p.1.remaining ≠ []

/-- **How a pass over a listener goes:** some replies are taken, and then nothing waits any more, or
one that was taken holds the others back, or the first of the others is refused.  Nothing else is
asked of the network. -/
def Passes (id : SocketId) (x y : Exchange ν) : Prop :=
  ∃ sent n, x.waiting id = sent ++ y.waiting id ∧ Takes id sent x.network n ∧
    (y.network = n ∧ (y.waiting id = [] ∨ y.isHeld id = true) ∨
      ∃ p rest, y.waiting id = p :: rest ∧ Refuses id p n y.network)

variable {x y : Exchange ν} {id : SocketId}

/-- A pass over the listener, of which so many attempts are left. -/
theorem passes_sendAll {s : Socket} (hs : x.sockets.find? id = some s) (hr : s.role = .listener)
    (hm : s.medium = .datagram) {fuel : Nat} (hfuel : x.outbox.work < fuel) :
    Passes id x (sendAll id fuel x) := by
  induction fuel generalizing x with
  | zero => exact absurd hfuel (Nat.not_lt_zero _)
  | succ fuel ih =>
    have hrest : (x.waiting id = [] ∨ x.isHeld id = true) → Passes id x (x.disarm id) := by
      intro h
      refine ⟨[], x.network, (waiting_disarm id x id).symm, rfl, .inl ⟨rfl, ?_⟩⟩
      rwa [waiting_disarm, isHeld_disarm]
    unfold sendAll
    by_cases hheld : x.isHeld id = true
    · rw [attempt_of_held hheld]
      exact hrest (.inr hheld)
    rw [Bool.not_eq_true] at hheld
    cases hw : x.waiting id with
    | nil =>
      rw [attempt_of_none hw]
      exact hrest (.inl hw)
    | cons p rest =>
      obtain ⟨w, target⟩ := p
      obtain ⟨i, hnext, hbehind⟩ := nextWrite?_of_waiting hw
      have hstays : ∀ network, ({ x with network } : Exchange ν).waiting id = x.waiting id :=
        fun _ => rfl
      rw [attempt_of_waiting hheld hs (by rw [hm]; decide) hnext, if_pos hm]
      cases hsend : Network.send id target w.remaining x.network with
      | mk answer network =>
        have hrefused : (∀ count, answer = .took count → count = 0 ∧ w.remaining ≠ []) →
            Passes id x { x with network } := fun hno =>
          ⟨[], x.network, rfl, rfl, .inr ⟨(w, target), rest, hw, answer, hsend, hno⟩⟩
        cases answer with
        | wouldBlock => exact hrefused fun _ h => Sent.noConfusion h
        | failed cause =>
          -- A failure of the listener is passed over, so that the reply stays.
          have hkept : (reportFault id { x with network }).2 = { x with network } := by
            unfold reportFault
            rw [show ({ x with network } : Exchange ν).sockets.find? id = some s from hs]
            dsimp only
            rw [hr]
          dsimp only
          rw [hkept]
          exact hrefused fun _ h => Sent.noConfusion h
        | took count =>
          dsimp only
          split_ifs with hzero
          · exact hrefused fun _ h => Sent.took.inj h ▸ hzero
          · have hcount : count = 0 → w.remaining = [] := fun hc =>
              by_contra fun hne => hzero ⟨hc, hne⟩
            let z := sendBytes id s i w target count { x with network }
            have hnext' : ({ x with network } : Exchange ν).nextWrite? id = some (i, w, target) := hnext
            obtain ⟨_, _, -, hz⟩ := sendBytes_eq id s i w target count { x with network }
            have hmoved : z.waiting id = rest := by
              have hgone := waiting_sendBytes s hnext' count
              rw [if_pos (.inr (by rw [hm]; decide)), List.nil_append] at hgone
              exact hgone.trans hbehind
            have hless : z.outbox.work < x.outbox.work := work_sendBytes_lt s hnext' hcount
            obtain ⟨sent, n, hsent, htakes, hend⟩ := ih (x := z)
              ((congrArg (fun z : Exchange ν => z.sockets.find? id) hz).trans hs) (by omega)
            have hnetwork : z.network = network := congrArg Exchange.network hz
            refine ⟨(w, target) :: sent, n, ?_, ⟨count, network, hsend, hcount, ?_⟩, hend⟩
            · rw [hw, List.cons_append, ← hsent, hmoved]
            · rwa [hnetwork] at htakes

/-- **A pass over the listener for datagrams tries the replies in order,** up to one that is refused
or that holds the others back, and it tries nothing else.  What has ever gone through the listener is
no later than what waits there. -/
theorem Reachable.listener_pass (h : x.Reachable) (hl : x.listener = some id) {s : Socket}
    (hs : x.sockets.find? id = some s) (hm : s.medium = .datagram) :
    Passes id x (x.writeSocket id) ∧
      ∀ p ∈ x.sendings, p.socket = id → ∀ q ∈ x.waiting id, p.write.ticket ≤ q.1.ticket := by
  have hn : (id, s.nature) ∈ x.outline.sockets :=
    Sockets.mem_natures.mpr ⟨s, Sockets.mem_of_find? hs, rfl⟩
  have hr : s.role = .listener := by
    obtain ⟨n, hmem, hrole⟩ := h.sound.listener id hl
    rwa [← h.sound.nature_eq hn hmem] at hrole
  refine ⟨passes_sendAll hs hr hm (Nat.lt_succ_self _), fun p hp hid q hq => ?_⟩
  obtain ⟨hw, ht⟩ := mem_waiting.mp hq
  have hother : s.nature.role ≠ .accepted := fun hrole => nomatch hr.symm.trans hrole
  have hlane : x.outline.Lane p.socket := hid ▸ ⟨s.nature, hn, hother⟩
  have hlink : x.outline.Links q.1.channel id := by
    rcases links_of_target? h.sound ht with ⟨hlink, -⟩ | ⟨l, n, hl', -, hmem, hrole, -⟩
    · exact hlink
    · -- The listener is no connection that was taken in.
      rw [← h.sound.nature_eq hn hmem] at hrole
      exact nomatch hr.symm.trans hrole
  exact h.ordered.1.lane p hp hlane q.1 hw (hid ▸ hlink)

end Switchboard.Exchange

/-! ### A wall -/

namespace Switchboard.Net

/-- **A network with a wall:** what is sent there comes back at once, and all else is taken.  It
remembers what it was asked to send. -/
structure Walled where
  asked : List (SocketId × Option Endpoint × Bytes) := []
  deriving Repr, DecidableEq

namespace Walled

/-- The endpoint that nothing gets to. -/
def wall : Endpoint :=
  .of (.v4 .unspecified) 7

/-- An endpoint that can be reached. -/
def gate : Endpoint :=
  .of (.v4 .unspecified) 8

instance : Network Walled where
  listen _ _ e n := (.ok e, n)
  connect _ _ _ n := (.ok gate, n)
  poll watched _ n := (watched.map fun (id, i) => ⟨id, i.read, i.write⟩, n)
  accept _ n := ([], n)
  adopt _ _ n := (.ok gate, n)
  failure? _ n := (none, n)
  receive _ n := (⟨[], .dry⟩, n)
  send id target data n :=
    (if target = some wall then .failed .unreachable else .took data.length,
      { n with asked := n.asked ++ [(id, target, data)] })
  close _ n := n

end Walled

end Switchboard.Net

namespace Switchboard.Exchange

open Net Settings

/-- The network was asked to send the reply. -/
def Tries (id : SocketId) (p : Write × Option Endpoint) (x y : Exchange Walled) : Prop :=
  ∃ since, y.network.asked = x.network.asked ++ since ∧ (id, p.2, p.1.remaining) ∈ since

/-- **A reply that came back does not keep others from being tried,** those for other endpoints that
wait behind it: they are tried in the same pass over the listener, or in the next one. -/
def TriesBehind (x : Exchange Walled) : Prop :=
  ∀ l s, x.listener = some l → x.sockets.find? l = some s → s.medium = .datagram →
    ∀ before p after, x.waiting l = before ++ p :: after → p.2 = some Walled.wall →
      Tries l p x (x.writeSocket l) → ∀ q ∈ after, q.2 ≠ p.2 →
        Tries l q x (x.writeSocket l) ∨
          Tries l q (x.writeSocket l) ((x.writeSocket l).writeSocket l)

/-- An inbound channel for the wall. -/
def brick : Channel :=
  ⟨0, 0, ⟨"brick", "*", .inbound⟩, .endpoint Walled.wall⟩

/-- An inbound channel for the gate. -/
def path : Channel :=
  ⟨0, 1, ⟨"path", "*", .inbound⟩, .endpoint Walled.gate⟩

/-- An exchange with both channels.  A reply of each waits, the one for the wall first. -/
def court (asked : List (SocketId × Option Endpoint × Bytes)) : Exchange Walled :=
  run { name := "court", profile := { transport := .datagram }, network := { asked } } [
    .bind brick.subject brick.remote,
    .bind path.subject path.remote,
    .openUp,
    .enqueue brick [1] none,
    .enqueue path [2] none]

/-- The court as those operations leave it. -/
def standing (asked : List (SocketId × Option Endpoint × Bytes)) : Exchange Walled where
  name := "court"
  profile := { transport := .datagram }
  isOpen := true
  sockets := [(1000,
    { Socket.listening .datagram (.of (.v4 .unspecified) 25002) with interest := ⟨true, true⟩ })]
  directory :=
    { entries := [{ channel := brick, socket := some 1000 }, { channel := path, socket := some 1000 }]
      statuses := [{}, {}] }
  listener := some 1000
  nextSocket := 1001
  outbox := ⟨[⟨0, brick, [1], 0, none⟩, ⟨1, path, [2], 0, none⟩], 2⟩
  journal := [.opened 1000]
  network := { asked }

theorem court_eq (asked : List (SocketId × Option Endpoint × Bytes)) :
    court asked = standing asked := by
  let start : Exchange Walled :=
    { name := "court", profile := { transport := .datagram }, network := { asked } }
  let enrolled (entries : List Entry) (statuses : List Status) : Exchange Walled :=
    { start with directory := { entries, statuses } }
  let opened : Exchange Walled :=
    { standing asked with
      outbox := {}
      sockets := [(1000, Socket.listening .datagram (.of (.v4 .unspecified) 25002))] }
  let halfway : Exchange Walled :=
    { standing asked with outbox := ⟨[⟨0, brick, [1], 0, none⟩], 1⟩ }
  -- Each state is written out, so that an operation is computed on the state before it alone.
  have hbrick : start.apply (.bind brick.subject brick.remote) =
      enrolled [{ channel := brick }] [{}] := rfl
  have hpath : (enrolled [{ channel := brick }] [{}]).apply (.bind path.subject path.remote) =
      enrolled [{ channel := brick }, { channel := path }] [{}, {}] := rfl
  have hopen : (enrolled [{ channel := brick }, { channel := path }] [{}, {}]).apply .openUp =
      opened := rfl
  have hfirst : opened.apply (.enqueue brick [1] none) = halfway := rfl
  have hsecond : halfway.apply (.enqueue path [2] none) = standing asked := rfl
  unfold court run
  simp only [List.foldl_cons, List.foldl_nil]
  rw [hbrick, hpath, hopen, hfirst, hsecond]

/-- A poll finds nothing to read, asks for the wall, and leaves both replies where they are. -/
theorem poll_court (asked : List (SocketId × Option Endpoint × Bytes)) :
    (court asked).poll.2 = court (asked ++ [(1000, some Walled.wall, [1])]) := by
  have hfit : eventsFit (standing asked).profile.pollCapacity = true :=
    (by decide : eventsFit 256 = true)
  have hread : (standing asked).readSocket 1000 = (true, standing asked) := rfl
  have hwrite : (standing asked).writeSocket 1000 =
      standing (asked ++ [(1000, some Walled.wall, [1])]) := rfl
  have harm : ∀ asked, (standing asked).armPending = standing asked := fun _ => rfl
  have hserve : (standing asked).serve ⟨1000, true, true⟩ =
      standing (asked ++ [(1000, some Walled.wall, [1])]) := by
    change (standing asked).exchangeData 1000 true true = _
    unfold exchangeData
    rw [if_pos rfl, hread]
    exact hwrite
  rw [court_eq, court_eq]
  unfold poll
  rw [if_neg nofun, if_pos hfit]
  change { ((standing asked).serve ⟨1000, true, true⟩).armPending with inbox := [] } = _
  rw [hserve, harm]
  rfl

/-- However often the court is polled, it asks for the wall, and nothing else comes of it. -/
theorem run_court (n : Nat) : (court []).run (List.replicate n .poll) =
    court (List.replicate n (1000, some Walled.wall, [1])) := by
  induction n with
  | zero => rfl
  | succ n ih =>
    rw [List.replicate_succ', run_snoc, ih, List.replicate_succ']
    exact poll_court _

theorem reachable_court (asked : List (SocketId × Option Endpoint × Bytes)) :
    (court asked).Reachable :=
  ⟨"court", { transport := .datagram }, { asked }, _, _, rfl, rfl⟩

/-- What is there to be seen of the court: the listener, what waits there, and what the network is
asked for in two passes over it. -/
theorem state_court :
    let x := court []
    (x.listener = some 1000 ∧
      x.sockets.find? 1000 =
        some { Socket.listening .datagram (.of (.v4 .unspecified) 25002) with interest := ⟨true, true⟩ }) ∧
    x.waiting 1000 =
      [(⟨0, brick, [1], 0, none⟩, some Walled.wall), (⟨1, path, [2], 0, none⟩, some Walled.gate)] ∧
    x.network.asked = [] ∧
    (x.writeSocket 1000).network.asked = [(1000, some Walled.wall, [1])] ∧
    ((x.writeSocket 1000).writeSocket 1000).network.asked =
      [(1000, some Walled.wall, [1]), (1000, some Walled.wall, [1])] := by
  decide +kernel

/-- **A reply for the wall keeps all later replies in the queue,** however often the exchange is
polled. -/
theorem not_triesBehind : (court []).Reachable ∧ ¬ (court []).TriesBehind ∧
    ∀ n, let x := (court []).run (List.replicate n .poll)
      x.outbox.size = 2 ∧ ∀ a ∈ x.network.asked, a.2.1 = some Walled.wall := by
  obtain ⟨⟨hl, hs⟩, hwaiting, hnone, hfirst, hsecond⟩ := state_court
  refine ⟨reachable_court [], fun h => ?_, fun n => ?_⟩
  · have htried := h 1000 _ hl hs rfl [] _ _ hwaiting rfl
      ⟨[(1000, some Walled.wall, [1])], by rw [hnone, hfirst, List.nil_append], List.mem_singleton_self _⟩ _
      (List.mem_singleton_self _) (by decide)
    rcases htried with ⟨since, hsince, hmem⟩ | ⟨since, hsince, hmem⟩
    · rw [hnone, hfirst, List.nil_append] at hsince
      rw [← hsince] at hmem
      exact absurd hmem (by decide)
    · rw [hfirst, hsecond] at hsince
      obtain rfl := (List.cons.inj hsince).2
      exact absurd hmem (by decide)
  · rw [run_court, court_eq]
    refine ⟨rfl, fun a ha => ?_⟩
    rw [(List.mem_replicate.mp ha).2]

/-- At the court, a pass over the listener is refused the first reply. -/
theorem listener_pass_court :
    let x := court []
    (x.Reachable ∧ x.listener = some 1000 ∧ ∃ s, x.sockets.find? 1000 = some s ∧ s.medium = .datagram) ∧
      Passes 1000 x (x.writeSocket 1000) ∧
        ∀ p ∈ x.sendings, p.socket = 1000 → ∀ q ∈ x.waiting 1000, p.write.ticket ≤ q.1.ticket := by
  obtain ⟨⟨hl, hs⟩, -⟩ := state_court
  exact ⟨⟨reachable_court [], hl, _, hs, rfl⟩, (reachable_court []).listener_pass hl hs rfl⟩

end Switchboard.Exchange
