import Switchboard.Exchange.Operations

/-!
# Scripts

What a protocol wants done while it handles something: notes for whoever listens to it, and writes
to channels, each of which may decide what comes next.

* `Script.run` carries a script out until it ends or waits for a reply.
* `Script.runOut` carries it out to its end where nobody polls meanwhile, so that no wait is ever
  answered.
* `Script.gather` turns the notes of a script into one result.
-/

namespace Switchboard

open Net

/-- **A course of notes and writes** that ends with a result. -/
inductive Script (ε α : Type) where
  /-- The end. -/
  | done (a : α)
  /-- A note, and what follows. -/
  | note (e : ε) (next : Script ε α)
  /-- A write, and what follows its outcome. -/
  | write (c : Channel) (data : Bytes) (next : Except Error Unit → Script ε α)
  /-- A write whose reply is waited for, for some milliseconds, and what follows. -/
  | call (c : Channel) (data : Bytes) (timeout : Nat)
      (next : Except Error (Option Bytes) → Script ε α)

/-- A call that is waited for, and how the script goes on. -/
structure Waiting (ε α : Type) where
  channel : Channel
  generation : Nat
  timeout : Nat
  resume : Option Bytes → Script ε α

/-- How far a script was carried out. -/
inductive Paused (ε α : Type) where
  | finished (a : α)
  | waiting (w : Waiting ε α)

/-- The reply of a call that is no longer waited for, if there was one, and the end of the call. -/
def Exchange.hangUp {ν : Type} [Network ν] (c : Channel) (generation : Nat) (x : Exchange ν) :
    Option Bytes × Exchange ν :=
  match x.collect c generation with
  | (.reply data, y) => (some data, y.endCall c generation true)
  | (_, y) => (none, y.endCall c generation false)

namespace Script

variable {ν ε ε' α β : Type} [Network ν]

/-- **Carries a script out** until it ends or waits for a reply; gives the notes on the way. -/
def run : Script ε α → Exchange ν → Paused ε α × List ε × Exchange ν
  | .done a, x => (.finished a, [], x)
  | .note e s, x =>
    let (p, es, y) := run s x
    (p, e :: es, y)
  | .write c data next, x =>
    let (r, y) := x.write c data
    run (next r) y
  | .call c data timeout next, x =>
    match x.startCall c data with
    | (.error e, y) => run (next (.error e)) y
    | (.ok none, y) => run (next (.ok none)) y
    | (.ok (some g), y) => (.waiting ⟨c, g, timeout, fun reply => next (.ok reply)⟩, [], y)

/-- **Carries a script out to its end.**  Nobody reads while it waits, so every wait runs out. -/
def runOut : Script ε α → Exchange ν → α × List ε × Exchange ν
  | .done a, x => (a, [], x)
  | .note e s, x =>
    let (a, es, y) := runOut s x
    (a, e :: es, y)
  | .write c data next, x =>
    let (r, y) := x.write c data
    runOut (next r) y
  | .call c data _ next, x =>
    match x.startCall c data with
    | (.error e, y) => runOut (next (.error e)) y
    | (.ok none, y) => runOut (next (.ok none)) y
    | (.ok (some g), y) =>
      let (reply, z) := y.hangUp c g
      runOut (next (.ok reply)) z

/-- A script whose notes are gathered and handed to what follows it. -/
def gather (k : α → List ε → Script ε' β) (soFar : List ε) : Script ε α → Script ε' β
  | .done a => k a soFar
  | .note e s => gather k (soFar ++ [e]) s
  | .write c data next => .write c data fun r => gather k soFar (next r)
  | .call c data timeout next => .call c data timeout fun r => gather k soFar (next r)

end Script

end Switchboard
