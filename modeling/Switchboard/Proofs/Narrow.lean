import Switchboard.Proofs.Runs

/-!
# A narrow network

A network in which every call succeeds, but only so many bytes can be sent before it takes no more.
What is to be read, and who is to be taken in, is put into it beforehand.
-/

namespace Switchboard.Net

/-- **A network that takes so many bytes and then no more.** -/
structure Narrow where
  /-- How many bytes it still takes. -/
  room : Nat := 0
  /-- What is to be read, with the socket where it is. -/
  arrivals : List (SocketId × Arrival) := []
  /-- The far ends of the connections that wait to be taken in. -/
  waiting : List Endpoint := []
  deriving Repr, DecidableEq

namespace Narrow

/-- The endpoint of every socket but the listener. -/
def ownEnd : Endpoint :=
  .of (.v4 .unspecified) 40000

instance : Network Narrow where
  listen _ _ e n := (.ok e, n)
  connect _ _ _ n := (.ok ownEnd, n)
  poll watched _ n := (watched.map fun (id, i) => ⟨id, i.read, i.write⟩, n)
  accept _ n := (n.waiting.map ((0, ·)), { n with waiting := [] })
  adopt _ _ n := (.ok ownEnd, n)
  failure? _ n := (none, n)
  receive id n :=
    (⟨(n.arrivals.filter (·.1 == id)).map (·.2), .dry⟩,
      { n with arrivals := n.arrivals.filter (·.1 != id) })
  send _ _ data n :=
    if n.room = 0 ∧ data ≠ [] then (.wouldBlock, n)
    else (.took (min n.room data.length), { n with room := n.room - data.length })
  close _ n := n

end Narrow

end Switchboard.Net

namespace Switchboard.Exchange

open Net

/-- An exchange over a narrow network: a masked channel on the listener has heard from a sender, and
the socket of an outbound channel has failed and was replaced. -/
def lab : Exchange Narrow :=
  let far : Remote := .endpoint (.of (.v4 .unspecified) 9)
  let hello : Arrival := ⟨[0x68, 0x69], .of (.v4 .unspecified) 7⟩
  run { name := "lab", profile := {}, network := { arrivals := [(1000, hello)] } } [
    .bind ⟨"lamp", "*", .inbound⟩ (.mask none none),
    .bind ⟨"lamp", "*", .outbound⟩ far,
    .openUp,
    .ensureSocket ⟨0, 1, ⟨"lamp", "*", .outbound⟩, far⟩,
    .poll,
    .reportFault 1001,
    .elapse 5000,
    .runDueRetries]

theorem reachable_lab : lab.Reachable :=
  ⟨"lab", {}, { arrivals := [(1000, ⟨[0x68, 0x69], .of (.v4 .unspecified) 7⟩)] }, _, _, rfl, rfl⟩

end Switchboard.Exchange
