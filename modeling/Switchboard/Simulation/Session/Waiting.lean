import Switchboard.Simulation.Session.Basic

/-!
# Waiting

What goes on in a session by itself.

* A call in the background goes on when its wait ends: `Session.settleCalls`.
* A poll goes on until nothing happens any more: `Session.cycles`.  With a ticker, so does every
  step: `Session.tick`.
-/

namespace Switchboard.Simulation

open Net Settings

namespace Session

/-! ### Calls in the background -/

/-- The answer to a call that took its course, or the state in which it waits. -/
def ofProgress : CommandProgress Event → Background
  | .finished o => .over (.outcome o)
  | .waiting w => .commanding w

/-- Goes on with a call whose wait has ended. -/
def resumeCall (c : Call) (reply : Option Bytes) (s : Session) : Call × Session :=
  match c.state with
  | .over _ => (c, s)
  | .writing _ _ => ({ c with state := .over (.response reply) }, s)
  | .commanding w =>
    let (p, notes, st) := s.station.resume w reply
    ({ c with state := ofProgress p, notes := c.notes ++ notes }, s.withStation st)

/-- The channel and the generation that a call waits for. -/
def awaited? : Background → Option (Channel × Nat)
  | .over _ => none
  | .writing c g => some (c, g)
  | .commanding w => some (w.waiting.channel, w.waiting.generation)

/-- Goes on with a call if its wait has ended. -/
def settleCall (c : Call) (s : Session) : Call × Session :=
  match awaited? c.state with
  | none => (c, s)
  | some (channel, g) =>
    match s.exchange.collect channel g with
    | (.outstanding, _) => (c, s)
    | (.reply data, x) => resumeCall c (some data) (s.withExchange (x.endCall channel g true))
    | (.over, x) => resumeCall c none (s.withExchange (x.endCall channel g false))

/-- Goes on with all calls whose wait has ended. -/
def settleCalls (s : Session) : Session :=
  let (cs, s) := s.calls.foldl (fun (done, s) c =>
    let (c, s) := settleCall c s
    (done ++ [c], s)) ([], s)
  { s with calls := cs }

/-- Waits for a call until it is over: every wait that is not answered runs out. -/
def finishCall : Nat → Call → Session → Call × Session
  | 0, c, s => (c, s)
  | fuel + 1, c, s =>
    match awaited? c.state with
    | none => (c, s)
    | some (channel, g) =>
      let (reply, x) := s.exchange.hangUp channel g
      let (c, s) := resumeCall c reply (s.withExchange x)
      finishCall fuel c s

/-! ### Polling until nothing happens -/

/-- Do two states differ in nothing that a poll could change? -/
def isCalm (x y : Exchange Host) : Bool :=
  x.journal.length == y.journal.length && x.sockets == y.sockets && x.schedule == y.schedule &&
    x.directory == y.directory && x.outbox == y.outbox

/-- Polls once, and on a ticker makes the attempts that are due. -/
def cycle (retries : Bool) (s : Session) : Except Error Nat × List Event × Session :=
  let (r, notes, st) := s.station.pollCycle
  let (more, st) := if retries then st.runDueRetries else ([], st)
  (r, notes ++ more, (s.withStation st).settleCalls)

/-- Polls until nothing happens any more, at most `fuel` times; gives the number of buffers. -/
def cycles (retries : Bool) : Nat → Session → Except Error Nat × List Event × Session
  | 0, s => (.ok 0, [], s)
  | fuel + 1, s =>
    match cycle retries s with
    | (.error e, notes, t) => (.error e, notes, t)
    | (.ok n, notes, t) =>
      if n = 0 && notes.isEmpty && isCalm s.exchange t.exchange then (.ok n, notes, t)
      else
        match cycles retries fuel t with
        | (.error e, more, u) => (.error e, notes ++ more, u)
        | (.ok m, more, u) => (.ok (n + m), notes ++ more, u)

/-- The most polls in a row. -/
def manyCycles : Nat :=
  1000

/-- Lets the ticker run until nothing happens any more, if there is one. -/
def tick (s : Session) : List Event × Session :=
  if s.isTicking then
    let (_, notes, s) := cycles true manyCycles s
    (notes, s)
  else ([], s)

end Session

end Switchboard.Simulation
