import Switchboard.Simulation.Session.HostSteps
import Switchboard.Simulation.Session.PeerSteps

/-!
# Runs of sessions

* `Session.take` takes one step, and reports the answer, the notes of the protocol and the state
  after it.
* `Session.run` takes one step after the other.
-/

namespace Switchboard.Simulation

open Net Settings

namespace Session

/-! ### Any step -/

/-- Takes a step, the ticker and the calls in the background aside. -/
def act (step : Step) (s : Session) : Answer × List Event × Session :=
  match step with
  | .openUp => s.openUp
  | .activate =>
    let (a, notes, s) := s.openUp
    match a with
    | .ok => (a, notes, { s with isTicking := true })
    | _ => (a, notes, s)
  | .deactivate => (.nothing, [], { s.withExchange s.exchange.deactivate with isTicking := false })
  | .bind subject text =>
    match Remote.read text with
    | .error e => (.refused e, [], s)
    | .ok r =>
      match s.exchange.bind subject r with
      | (.error e, x) => (.refused e, [], s.withExchange x)
      | (.ok c, x) => (.bound c (s.handles.contains c), [], (s.withExchange x).remember [c])
  | .reconfigure bindings =>
    match readRemotes bindings with
    | .error e => (.refused e, [], s)
    | .ok bs =>
      let (r, x) := s.exchange.reconfigure bs
      let s := s.withExchange x
      match r with
      | .error e => (.refused e, [], s)
      | .ok () => (.ok, [], s.remember x.directory.channels)
  | .findSubject subject => (.channels (s.exchange.directory.ofSubject subject), [], s)
  | .findRemote text direction =>
    match Remote.read text with
    | .error e => (.refused e, [], s)
    | .ok r => (.channels (s.exchange.directory.ofRemote direction r), [], s)
  | .command item text call => s.command item text call
  | .write id data blocking call =>
    match s.handle? id with
    | none => (.misstep .noChannel, [], s)
    | some c => if blocking then s.writeBlocking c data call else s.writePlain c data call
  | .join name => s.join name
  | .poll =>
    match cycles false manyCycles s with
    | (.error e, notes, s) => (.refused e, notes, s)
    | (.ok n, notes, s) => (.delivered n, notes, s)
  | .retry =>
    let (notes, st) := s.station.runDueRetries
    (.nothing, notes, s.withStation st)
  | .faultOfSocket id => s.fault id
  | .faultOfChannel id =>
    match s.exchange.directory.socketOf id with
    | some socket => s.fault socket
    | none => (.nothing, [], s)
  | .updateProfile source =>
    match configure source with
    | .error e => (.refused e, [], s)
    | .ok c =>
      let (r, x) := s.exchange.updateProfile c
      (ofResult r, [], s.withExchange x)
  | .showProfile => (.profile s.exchange.profile, [], s)
  | .describe => (.description s.exchange.name s.exchange.describe, [], s)
  | .send name target data connection =>
    s.asPeer name fun p s =>
      if p.isDatagram then s.sendDatagram p target data else s.sendOver p data connection
  | .receive name connection =>
    s.asPeer name fun p s =>
      if p.isDatagram then s.receiveDatagrams p else s.receiveData p connection
  | .leave name =>
    s.asPeer name fun p s =>
      let (p, h) := p.leave s.host
      (.nothing, (s.withPeer p).withHost h)
  | .comeBack name => s.asPeer name fun p s => s.comeBack p
  | .acceptOne name => s.asPeer name fun p s => s.acceptOne p
  | .acceptAll name => s.asPeer name fun p s => s.acceptAll p
  | .connect name => s.asPeer name fun p s => s.connect p
  | .receiveEnd name connection => s.asPeer name fun p s => s.receiveEnd p connection
  | .hangUp name reset connection => s.asPeer name fun p s => s.hangUp p reset connection

/-! ### Order of the notes -/

/-- Does one event come before another of a later channel, or not after it? -/
def byChannel (a b : Event) : Bool :=
  a.channel.id ≤ b.channel.id

/-- The same, where events of one channel are in the order of their words. -/
def byChannelAndName (a b : Event) : Bool :=
  a.channel.id < b.channel.id || a.channel.id == b.channel.id && a.name ≤ b.name

/-- The notes of a step in the order in which they are shown.  Sockets may be polled in any order, so
those of a poll are put in the order of the channels. -/
def arrange (step : Step) (ticking : Bool) (notes : List Event) : List Event :=
  if ticking then notes.mergeSort byChannelAndName
  else
    match step with
    | .poll => notes.mergeSort byChannel
    | _ => notes

/-- What a step has led to. -/
structure Report where
  answer : Answer
  notes : List Event
  session : Session

/-- **Takes a step.** -/
def take (step : Step) (s : Session) : Report :=
  let (answer, notes, s) := s.act step
  let s := s.settleCalls
  let (ticked, s) := s.tick
  ⟨answer, arrange step s.isTicking (notes ++ ticked), s⟩

/-- **Takes all steps.**  There is no result when a step breaks down. -/
def run : List Step → Session → Option (List Report)
  | [], _ => some []
  | step :: steps, s =>
    let r := s.take step
    if r.session.exchange.exceeded.isSome then none
    else (run steps r.session).map (r :: ·)

/-- The text of an endpoint.  A port that the host gave out by itself is not shown. -/
def showEndpoint (s : Session) (e : Endpoint) : String :=
  if s.host.drawn.contains e.port then String.ofList e.renderHost ++ ":ephemeral"
  else String.ofList e.render

end Session

end Switchboard.Simulation
