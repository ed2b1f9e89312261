import Switchboard.Simulation.Session.Waiting

/-!
# The steps of the host

What the host of a session does with its station.  A blocking write or a command may run in the
background, and `Session.join` waits for it, at the longest until its time has run out.
-/

namespace Switchboard.Simulation

open Net Settings

namespace Session

/-- The answer to an operation that either succeeds or is refused. -/
def ofResult : Except Error Unit → Answer
  | .ok () => .ok
  | .error e => .refused e

/-- Opens the exchange. -/
def openUp (s : Session) : Answer × List Event × Session :=
  let (r, notes, st) := s.station.openUp
  (ofResult r, notes, s.withStation st)

/-- Reads some remotes, or gives the first error. -/
def readRemotes : List (Subject × String) → Except Error (List (Subject × Remote))
  | [] => .ok []
  | (subject, text) :: rest => do
    let r ← Remote.read text
    return (subject, r) :: (← readRemotes rest)

/-- Runs a command, in the background if it has a name. -/
def command (item text : String) (call : Option String) (s : Session) :
    Answer × List Event × Session :=
  let (r, notes, st) := s.station.command item text
  let s := s.withStation st
  let state := match r with
    | .error e => .over (.refused e)
    | .ok p => ofProgress p
  let c : Call := { name := call.getD "", state, notes }
  match call with
  | some _ => (.nothing, [], { s with calls := s.calls ++ [c] })
  | none =>
    let (ticked, s) := s.tick
    let (c, s) := finishCall (s.exchange.directory.entries.length + 1) c s
    match c.state with
    | .over a => (a, c.notes ++ ticked, s)
    | _ => (.nothing, c.notes ++ ticked, s)

/-- Writes and waits for the reply, in the background if there is a name. -/
def writeBlocking (c : Channel) (data : Bytes) (call : Option String) (s : Session) :
    Answer × List Event × Session :=
  let (r, x) := s.exchange.startCall c data
  let s := s.withExchange x
  let state := match r with
    | .error e => .over (.refused e)
    | .ok none => .over (.response none)
    | .ok (some g) => .writing c g
  match call with
  | some name => (.nothing, [], { s with calls := s.calls ++ [{ name, state }] })
  | none =>
    match state with
    | .over a => (a, [], s)
    | _ =>
      let (ticked, s) := s.tick
      let (done, s) := finishCall 1 { name := "", state } s
      match done.state with
      | .over a => (a, ticked, s)
      | _ => (.nothing, ticked, s)

/-- Writes without waiting, in the background if there is a name. -/
def writePlain (c : Channel) (data : Bytes) (call : Option String) (s : Session) :
    Answer × List Event × Session :=
  let (r, x) := s.exchange.write c data
  let s := s.withExchange x
  let a := match r with
    | .error e => Answer.refused e
    | .ok () => .response none
  match call with
  | some name => (.nothing, [], { s with calls := s.calls ++ [{ name, state := .over a }] })
  | none => (a, [], s)

/-- Waits for a call in the background and forgets it. -/
def join (name : String) (s : Session) : Answer × List Event × Session :=
  match s.calls.find? (·.name == name) with
  | none => (.misstep .noCall, [], s)
  | some c =>
    let (c, s) := finishCall (s.exchange.directory.entries.length + 1) c s
    let s := { s with calls := s.calls.filter (·.name != name) }
    match c.state with
    | .over a => (a, c.notes, s)
    | _ => (.nothing, c.notes, s)

/-- Reports a fault of a socket. -/
def fault (id : SocketId) (s : Session) : Answer × List Event × Session :=
  let (r, x) := s.exchange.reportFault id
  (.flag r, [], s.withExchange x)

end Session

end Switchboard.Simulation
