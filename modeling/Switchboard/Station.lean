import Switchboard.Protocol.Basic

/-!
# Stations

A station is an exchange with the protocol that speaks over it.  Here the steps of the exchange are
put together into what a host asks for, with the protocol called wherever it has to be, and its notes
collected.

* `Station.openUp`, `Station.pollCycle` and `Station.runDueRetries` tell the protocol of sockets that
  became active and give it what was read.
* `Station.command` hands a command to the channels of an item.  It stops where a protocol waits for
  a reply, and `Station.resume` goes on from there.
-/

namespace Switchboard

open Net

/-- **An exchange and the protocol that speaks over it.** -/
structure Station (ν ε : Type) where
  exchange : Exchange ν
  protocol : Protocol ε

/-- What became of a command. -/
structure CommandOutcome where
  /-- How many channels the command was handed to. -/
  served : Nat := 0
  /-- Did a protocol ask for the command to become the state of the item? -/
  updateState : Bool := false
  deriving Repr, DecidableEq

/-- A command on its way over the channels of an item, stopped where a reply is waited for. -/
structure CommandWaiting (ε : Type) where
  waiting : Waiting ε Bool
  command : String
  /-- The channels that are still to get it. -/
  rest : List Channel
  outcome : CommandOutcome

/-- How far a command has come. -/
inductive CommandProgress (ε : Type) where
  | finished (outcome : CommandOutcome)
  | waiting (w : CommandWaiting ε)

namespace Station

variable {ν ε : Type} [Network ν]

/-! ### The protocol's turn -/

/-- Carries a script out. -/
def perform (s : Script ε Unit) (st : Station ν ε) : List ε × Station ν ε :=
  let (_, notes, x) := s.runOut st.exchange
  (notes, { st with exchange := x })

/-- Carries some scripts out, one after the other. -/
def performAll (ss : List (Script ε Unit)) (st : Station ν ε) : List ε × Station ν ε :=
  ss.foldl (fun (notes, st) s =>
    let (more, st) := st.perform s
    (notes ++ more, st)) ([], st)

/-- Tells the protocol of the channels whose socket became active. -/
def announce (st : Station ν ε) : List ε × Station ν ε :=
  let (cs, x) := st.exchange.takeAnnouncements
  performAll (cs.map st.protocol.configure) { st with exchange := x }

/-! ### What a host asks for -/

/-- Opens the exchange. -/
def openUp (st : Station ν ε) : Except Error Unit × List ε × Station ν ε :=
  match st.exchange.openUp with
  | (.error e, x) => (.error e, [], { st with exchange := x })
  | (.ok (), x) =>
    let (notes, st) := announce { st with exchange := x }
    (.ok (), notes, st)

/-- **Polls once** and gives the protocol what was read; the answer is the number of buffers. -/
def pollCycle (st : Station ν ε) : Except Error Nat × List ε × Station ν ε :=
  match st.exchange.poll with
  | (.error e, x) => (.error e, [], { st with exchange := x })
  | (.ok deliveries, x) =>
    let (notes, st) := announce { st with exchange := x }
    let (more, st) := performAll (deliveries.map fun d => st.protocol.parse d.channel d.data) st
    (.ok deliveries.length, notes ++ more, st)

/-- Makes every attempt to replace a socket that is due. -/
def runDueRetries (st : Station ν ε) : List ε × Station ν ε :=
  announce { st with exchange := st.exchange.runDueRetries }

/-- Takes the outcome of one channel into account. -/
def CommandOutcome.after (o : CommandOutcome) (updateState : Bool) : CommandOutcome :=
  { o with updateState := o.updateState || updateState }

/-- Hands a command to some channels, one after the other.  A channel that gets no socket is left
out. -/
def serve (command : String) :
    List Channel → CommandOutcome → Station ν ε → CommandProgress ε × List ε × Station ν ε
  | [], outcome, st => (.finished outcome, [], st)
  | c :: rest, outcome, st =>
    match st.exchange.ensureSocket c with
    | (.error _, x) => serve command rest outcome { st with exchange := x }
    | (.ok _, x) =>
      let (notes, st) := announce { st with exchange := x }
      let outcome := { outcome with served := outcome.served + 1 }
      match (st.protocol.command c command).run st.exchange with
      | (.waiting waiting, more, x) =>
        (.waiting { waiting, command, rest, outcome }, notes ++ more, { st with exchange := x })
      | (.finished updateState, more, x) =>
        let (p, others, st) :=
          serve command rest (CommandOutcome.after outcome updateState) { st with exchange := x }
        (p, notes ++ more ++ others, st)

/-- **Hands a command to the outbound channels of an item** that accept it. -/
def command (item command : String) (st : Station ν ε) :
    Except Error (CommandProgress ε) × List ε × Station ν ε :=
  match st.exchange.servers item command with
  | .error e => (.error e, [], st)
  | .ok cs =>
    let (p, notes, st) := serve command cs {} st
    (.ok p, notes, st)

/-- Goes on with a command whose wait has ended. -/
def resume (w : CommandWaiting ε) (reply : Option Bytes) (st : Station ν ε) :
    CommandProgress ε × List ε × Station ν ε :=
  match (w.waiting.resume reply).run st.exchange with
  | (.waiting waiting, notes, x) => (.waiting { w with waiting }, notes, { st with exchange := x })
  | (.finished updateState, notes, x) =>
    let (p, more, st) :=
      serve w.command w.rest (CommandOutcome.after w.outcome updateState) { st with exchange := x }
    (p, notes ++ more, st)

end Station

end Switchboard
