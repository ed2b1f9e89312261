import Switchboard.Station
import Mathlib.Tactic.SplitIfs

/-!
# Runs of an exchange

An `Operation` is what one thread does to an exchange while no other can: what a host asks for, the
two halves of a write (a call begins, a buffer is queued), the end of a wait, and what goes on by
itself, which is that time passes and that the network changes.  A `run` is any sequence of them, so
the threads of a host, the ticker and the callbacks of a protocol may come in any order, and
`Reachable` says which states there are.

The operations of a station are put together from these: each of them leads from the state before it
to the state after it by a run (`Station.leads_openUp`, `Station.leads_pollCycle`,
`Station.leads_runDueRetries`, `Station.leads_command`, `Station.leads_resume`), whatever the
protocol does in its callbacks.  So the exchange of a station never comes into a state that is not
reachable (`Reachable.of_leads`).  The callbacks themselves never poll (`Station.unpolled_perform`).

The protocol is called once for each channel that it is told of and once for each buffer that was
read, one call after the other, and its notes are kept in that order (`Station.notes_performAll`).
This shows best with a protocol that notes its calls and does nothing else
(`Station.pollCycle_scribe`).
-/

namespace Switchboard

open Net Settings

/-- **What one thread does to an exchange while no other can.** -/
inductive Operation (ν : Type) where
  | openUp
  | deactivate
  | updateProfile (c : Configuration)
  | bind (s : Subject) (r : Remote)
  | reconfigure (bindings : List (Subject × Remote))
  /-- A channel gets a socket before a command is handed to it. -/
  | ensureSocket (c : Channel)
  /-- A write is queued, for a call or for none. -/
  | enqueue (c : Channel) (data : Bytes) (call : Option Nat)
  | beginCall (c : Channel)
  | collect (c : Channel) (generation : Nat)
  | finishCall (c : Channel) (generation : Nat)
  /-- The writes that a call held back may go. -/
  | armPending
  | takeAnnouncements
  | poll
  | runDueRetries
  | reportFault (socket : SocketId)
  /-- So many milliseconds pass. -/
  | elapse (ms : Nat)
  /-- The network becomes another one. -/
  | world (network : ν)

namespace Exchange

variable {ν : Type} [Network ν]

/-- The state after an operation. -/
def apply (x : Exchange ν) : Operation ν → Exchange ν
  | .openUp => x.openUp.2
  | .deactivate => x.deactivate
  | .updateProfile c => (x.updateProfile c).2
  | .bind s r => (x.bind s r).2
  | .reconfigure bindings => (x.reconfigure bindings).2
  | .ensureSocket c => (x.ensureSocket c).2
  | .enqueue c data call => (x.enqueue c data call).2
  | .beginCall c => (x.beginCall c).2
  | .collect c g => (x.collect c g).2
  | .finishCall c g => x.finishCall c g
  | .armPending => x.armPending
  | .takeAnnouncements => x.takeAnnouncements.2
  | .poll => x.poll.2
  | .runDueRetries => x.runDueRetries
  | .reportFault id => (reportFault id x).2
  | .elapse ms => { x with clock := x.clock + ms }
  | .world network => { x with network }

/-- The state after some operations. -/
def run (x : Exchange ν) (ops : List (Operation ν)) : Exchange ν :=
  ops.foldl apply x

/-- **The states that there are:** those that some run reaches from a new exchange.

Among them are states in which a bound of the machine was noted (`exceeded ≠ none`).  They stand for
no state of an exchange that is running: the operation that met the bound broke down in the middle,
and nothing comes after it.  A bound that was noted stays noted (`exceeded_run`), so where none was,
every operation of the run came to its end; and none is noted under settings that ask for no more
than there is (`exceeded_eq_none_of_settings`). -/
def Reachable (x : Exchange ν) : Prop :=
  ∃ name profile network start ops,
    create name profile network = .ok start ∧ x = run start ops

theorem run_nil (x : Exchange ν) : x.run [] = x :=
  rfl

theorem run_append (x : Exchange ν) (ops more : List (Operation ν)) :
    x.run (ops ++ more) = (x.run ops).run more := by
  simp [run]

theorem run_snoc (x : Exchange ν) (ops : List (Operation ν)) (op : Operation ν) :
    x.run (ops ++ [op]) = (x.run ops).apply op := by
  rw [run_append]
  rfl

theorem Reachable.run {x : Exchange ν} (h : x.Reachable) (ops : List (Operation ν)) :
    (x.run ops).Reachable := by
  obtain ⟨name, profile, network, start, before, hc, rfl⟩ := h
  exact ⟨name, profile, network, start, before ++ ops, hc, (run_append start before ops).symm⟩

/-- **In the run something happened in an operation, and something has been so ever since.** -/
def EverSince (happens : Exchange ν → Exchange ν → Prop) (holds : Exchange ν → Prop)
    (x : Exchange ν) (ops : List (Operation ν)) : Prop :=
  ∃ before op after, ops = before ++ op :: after ∧
    happens (x.run before) ((x.run before).apply op) ∧
      ∀ mid, mid <+: after → holds (x.run (before ++ op :: mid))

theorem EverSince.snoc {happens : Exchange ν → Exchange ν → Prop} {holds : Exchange ν → Prop}
    {x : Exchange ν} {ops : List (Operation ν)} {op : Operation ν}
    (h : EverSince happens holds x ops ∨ happens (x.run ops) ((x.run ops).apply op))
    (hnow : holds ((x.run ops).apply op)) : EverSince happens holds x (ops ++ [op]) := by
  rw [← run_snoc] at hnow
  rcases h with ⟨before, op', after, rfl, h, hever⟩ | h
  · refine ⟨before, op', after ++ [op], by simp, h, fun mid hmid => ?_⟩
    rcases List.prefix_concat_iff.mp hmid with rfl | hmid
    · simpa using hnow
    · exact hever mid hmid
  · refine ⟨ops, op, [], rfl, h, fun mid hmid => ?_⟩
    rw [List.prefix_nil.mp hmid]
    exact hnow

theorem EverSince.of_snoc {happens : Exchange ν → Exchange ν → Prop} {holds : Exchange ν → Prop}
    {x : Exchange ν} {ops : List (Operation ν)} {op : Operation ν}
    (h : EverSince happens holds x (ops ++ [op])) : holds ((x.run ops).apply op) ∧
      (EverSince happens holds x ops ∨ happens (x.run ops) ((x.run ops).apply op)) := by
  obtain ⟨before, op', after, heq, h, hever⟩ := h
  have hnow := hever after (List.prefix_refl _)
  rw [← heq, run_snoc] at hnow
  refine ⟨hnow, ?_⟩
  rcases List.eq_nil_or_concat after with rfl | ⟨after, op'', rfl⟩
  · obtain ⟨rfl, hop⟩ := List.append_inj' heq rfl
    obtain rfl := (List.cons.inj hop).1
    exact .inr h
  · rw [List.concat_eq_append, ← List.cons_append, ← List.append_assoc] at heq
    obtain ⟨rfl, -⟩ := List.append_inj' heq rfl
    refine .inl ⟨before, op', after, rfl, h, fun mid hmid => hever mid ?_⟩
    exact hmid.trans (List.concat_eq_append ▸ List.prefix_append _ _)

theorem EverSince.holds {happens : Exchange ν → Exchange ν → Prop} {holds : Exchange ν → Prop}
    {x : Exchange ν} {ops : List (Operation ν)} (h : EverSince happens holds x ops) :
    holds (x.run ops) := by
  obtain ⟨before, op, after, rfl, -, hever⟩ := h
  exact hever after (List.prefix_refl _)

/-- The second state comes from the first by a run. -/
def Leads (x y : Exchange ν) : Prop :=
  ∃ ops, y = x.run ops

namespace Leads

theorem refl (x : Exchange ν) : Leads x x :=
  ⟨[], rfl⟩

theorem trans {x y z : Exchange ν} (h : Leads x y) (h' : Leads y z) : Leads x z := by
  obtain ⟨ops, rfl⟩ := h
  obtain ⟨more, rfl⟩ := h'
  exact ⟨ops ++ more, (run_append x ops more).symm⟩

theorem apply (x : Exchange ν) (op : Operation ν) : Leads x (x.apply op) :=
  ⟨[op], rfl⟩

end Leads

/-- The second state comes from the first by a run in which nothing is polled. -/
def Unpolled (x y : Exchange ν) : Prop :=
  ∃ ops, (∀ op ∈ ops, op ≠ .poll) ∧ y = x.run ops

namespace Unpolled

theorem refl (x : Exchange ν) : Unpolled x x :=
  ⟨[], nofun, rfl⟩

theorem trans {x y z : Exchange ν} (h : Unpolled x y) (h' : Unpolled y z) : Unpolled x z := by
  obtain ⟨ops, hops, rfl⟩ := h
  obtain ⟨more, hmore, rfl⟩ := h'
  refine ⟨ops ++ more, fun op hop => ?_, (run_append x ops more).symm⟩
  exact (List.mem_append.mp hop).elim (hops op) (hmore op)

theorem apply (x : Exchange ν) (op : Operation ν) (hop : op ≠ .poll) : Unpolled x (x.apply op) :=
  ⟨[op], fun _ h => List.mem_singleton.mp h ▸ hop, rfl⟩

theorem leads {x y : Exchange ν} (h : Unpolled x y) : Leads x y := by
  obtain ⟨ops, -, rfl⟩ := h
  exact ⟨ops, rfl⟩

end Unpolled

/-- What comes from a state that there is by a run is one, too. -/
theorem Reachable.of_leads {x y : Exchange ν} (h : x.Reachable) (hl : Leads x y) : y.Reachable := by
  obtain ⟨ops, rfl⟩ := hl
  exact h.run ops

/-! ### Writes and waits -/

theorem unpolled_write (c : Channel) (data : Bytes) (x : Exchange ν) :
    Unpolled x (x.write c data).2 := by
  have h := Unpolled.apply x (.enqueue c data none) nofun
  unfold write
  split_ifs
  · exact Unpolled.refl x
  · change Unpolled x (x.enqueue c data none).2 at h
    split <;> rename_i heq <;> rw [heq] at h <;> exact h

theorem unpolled_startCall (c : Channel) (data : Bytes) (x : Exchange ν) :
    Unpolled x (x.startCall c data).2 := by
  have hbegin := Unpolled.apply x (.beginCall c) nofun
  change Unpolled x (x.beginCall c).2 at hbegin
  unfold startCall
  split
  · rename_i heq
    rwa [heq] at hbegin
  · rename_i g y heq
    rw [heq] at hbegin
    have hqueue := hbegin.trans (Unpolled.apply y (.enqueue c data (some g)) nofun)
    have hfinish : ∀ z : Exchange ν, Unpolled z (z.finishCall c g) := fun z =>
      Unpolled.apply z (.finishCall c g) nofun
    change Unpolled x (y.enqueue c data (some g)).2 at hqueue
    split <;> rename_i z hq <;> rw [hq] at hqueue
    · exact hqueue.trans (hfinish z)
    · exact hqueue.trans (hfinish z)
    · exact hqueue

theorem unpolled_endCall (c : Channel) (g : Nat) (answered : Bool) (x : Exchange ν) :
    Unpolled x (x.endCall c g answered) := by
  have hfinish := Unpolled.apply x (.finishCall c g) nofun
  cases answered with
  | true => exact hfinish
  | false => exact hfinish.trans (Unpolled.apply (x.finishCall c g) .armPending nofun)

theorem unpolled_hangUp (c : Channel) (g : Nat) (x : Exchange ν) :
    Unpolled x (x.hangUp c g).2 := by
  have hcollect := Unpolled.apply x (.collect c g) nofun
  change Unpolled x (x.collect c g).2 at hcollect
  unfold hangUp
  split
  · rename_i y heq
    rw [heq] at hcollect
    exact hcollect.trans (unpolled_endCall c g true y)
  · rename_i y _ heq
    rw [heq] at hcollect
    exact hcollect.trans (unpolled_endCall c g false y)

end Exchange

/-! ### Scripts and stations -/

open Exchange

/-- A list is what stands before a place, what stands there, and what stands after it. -/
theorem eq_take_cons_drop {α : Type} {as : List α} {i : Nat} {a : α} (h : as[i]? = some a) :
    as = as.take i ++ a :: as.drop (i + 1) := by
  obtain ⟨hlt, rfl⟩ := List.getElem?_eq_some_iff.mp h
  rw [List.getElem_cons_drop, List.take_append_drop]

namespace Script

variable {ν ε α : Type} [Network ν]

theorem unpolled_run (s : Script ε α) (x : Exchange ν) : Unpolled x (s.run x).2.2 := by
  induction s generalizing x with
  | done a => exact Unpolled.refl x
  | note e s ih => exact ih x
  | write c data next ih => exact (unpolled_write c data x).trans (ih _ _)
  | call c data timeout next ih =>
    have hstart := unpolled_startCall c data x
    unfold run
    split <;> rename_i heq <;> rw [heq] at hstart
    · exact hstart.trans (ih _ _)
    · exact hstart.trans (ih _ _)
    · exact hstart

theorem unpolled_runOut (s : Script ε α) (x : Exchange ν) : Unpolled x (s.runOut x).2.2 := by
  induction s generalizing x with
  | done a => exact Unpolled.refl x
  | note e s ih => exact ih x
  | write c data next ih => exact (unpolled_write c data x).trans (ih _ _)
  | call c data timeout next ih =>
    have hstart := unpolled_startCall c data x
    unfold runOut
    split <;> rename_i heq <;> rw [heq] at hstart
    · exact hstart.trans (ih _ _)
    · exact hstart.trans (ih _ _)
    · exact (hstart.trans (unpolled_hangUp c _ _)).trans (ih _ _)

end Script

namespace Station

variable {ν ε : Type} [Network ν]

theorem unpolled_perform (s : Script ε Unit) (st : Station ν ε) :
    Unpolled st.exchange (st.perform s).2.exchange :=
  Script.unpolled_runOut s st.exchange

/-- Carrying out nothing leaves everything as it is. -/
@[simp] theorem performAll_nil (st : Station ν ε) : st.performAll [] = ([], st) :=
  rfl

/-- The notes that there are already stay in front, whatever they are. -/
theorem foldl_perform (ss : List (Script ε Unit)) (notes : List ε) (st : Station ν ε) :
    ss.foldl (fun (notes, st) s => (notes ++ (st.perform s).1, (st.perform s).2)) (notes, st) =
      (notes ++ (st.performAll ss).1, (st.performAll ss).2) := by
  induction ss generalizing notes st with
  | nil => simp
  | cons s ss ih =>
    have hall : st.performAll (s :: ss) =
        ((st.perform s).1 ++ ((st.perform s).2.performAll ss).1,
          ((st.perform s).2.performAll ss).2) := ih (st.perform s).1 (st.perform s).2
    rw [List.foldl_cons, ih, hall, List.append_assoc]

/-- **Some scripts are carried out one after the other:** the first one, and then the others where it
left the station.  Their notes come after its notes. -/
theorem performAll_cons (s : Script ε Unit) (ss : List (Script ε Unit)) (st : Station ν ε) :
    st.performAll (s :: ss) =
      ((st.perform s).1 ++ ((st.perform s).2.performAll ss).1,
        ((st.perform s).2.performAll ss).2) :=
  foldl_perform ss (st.perform s).1 (st.perform s).2

theorem performAll_append (ss more : List (Script ε Unit)) (st : Station ν ε) :
    st.performAll (ss ++ more) =
      ((st.performAll ss).1 ++ ((st.performAll ss).2.performAll more).1,
        ((st.performAll ss).2.performAll more).2) := by
  induction ss generalizing st with
  | nil => rfl
  | cons s ss ih => rw [List.cons_append, performAll_cons, performAll_cons, ih, List.append_assoc]

theorem unpolled_performAll (ss : List (Script ε Unit)) (st : Station ν ε) :
    Unpolled st.exchange (st.performAll ss).2.exchange := by
  induction ss generalizing st with
  | nil => exact Unpolled.refl _
  | cons s ss ih =>
    rw [performAll_cons]
    exact (unpolled_perform s st).trans (ih _)

theorem protocol_performAll (ss : List (Script ε Unit)) (st : Station ν ε) :
    (st.performAll ss).2.protocol = st.protocol := by
  induction ss generalizing st with
  | nil => rfl
  | cons s ss ih =>
    rw [performAll_cons]
    exact ih (st.perform s).2

/-- **What is done for the entries of a list, one after the other,** is done for each of them where
those before it were served. -/
theorem performAll_map_at {α : Type} (f : α → Script ε Unit) {as : List α} {i : Nat} {a : α}
    (ha : as[i]? = some a) (st : Station ν ε) :
    (st.performAll (as.map f)).2 =
      (((st.performAll ((as.take i).map f)).2.perform (f a)).2.performAll
        ((as.drop (i + 1)).map f)).2 := by
  have hsplit := congrArg (List.map f) (eq_take_cons_drop ha)
  rw [List.map_append, List.map_cons] at hsplit
  rw [hsplit, performAll_append, performAll_cons]

theorem unpolled_announce (st : Station ν ε) : Unpolled st.exchange st.announce.2.exchange :=
  (Unpolled.apply st.exchange .takeAnnouncements nofun).trans (unpolled_performAll _ _)

/-- **Opening a station is a run of its exchange.** -/
theorem leads_openUp (st : Station ν ε) : Leads st.exchange st.openUp.2.2.exchange := by
  have h := Leads.apply st.exchange .openUp
  change Leads st.exchange st.exchange.openUp.2 at h
  unfold openUp
  split <;> rename_i heq <;> rw [heq] at h
  · exact h
  · exact h.trans (unpolled_announce _).leads

/-- **A poll of a station is a run of its exchange,** whatever the protocol does with what was
read. -/
theorem leads_pollCycle (st : Station ν ε) : Leads st.exchange st.pollCycle.2.2.exchange := by
  have h := Leads.apply st.exchange .poll
  change Leads st.exchange st.exchange.poll.2 at h
  unfold pollCycle
  split <;> rename_i heq <;> rw [heq] at h
  · exact h
  · exact (h.trans (unpolled_announce _).leads).trans (unpolled_performAll _ _).leads

/-- **The retries of a station are a run of its exchange.** -/
theorem leads_runDueRetries (st : Station ν ε) :
    Leads st.exchange st.runDueRetries.2.exchange :=
  (Leads.apply st.exchange .runDueRetries).trans (unpolled_announce _).leads

theorem leads_serve (command : String) (cs : List Channel) (outcome : CommandOutcome)
    (st : Station ν ε) : Leads st.exchange (serve command cs outcome st).2.2.exchange := by
  induction cs generalizing outcome st with
  | nil => exact Leads.refl _
  | cons c cs ih =>
    have h := Leads.apply st.exchange (.ensureSocket c)
    change Leads st.exchange (st.exchange.ensureSocket c).2 at h
    unfold serve
    split <;> rename_i heq <;> rw [heq] at h
    · exact h.trans (ih _ _)
    · rename_i x
      have hannounce := h.trans (unpolled_announce { st with exchange := x }).leads
      generalize announce { st with exchange := x } = told at hannounce ⊢
      obtain ⟨notes, st'⟩ := told
      have hcommand := hannounce.trans
        (Script.unpolled_run (st'.protocol.command c command) st'.exchange).leads
      dsimp only
      split <;> rename_i hrun <;> rw [hrun] at hcommand
      · exact hcommand
      · exact hcommand.trans (ih _ _)

/-- **Handing out a command is a run of the exchange,** up to where a protocol waits. -/
theorem leads_command (item command : String) (st : Station ν ε) :
    Leads st.exchange (Station.command item command st).2.2.exchange := by
  unfold Station.command
  split
  · exact Leads.refl _
  · exact leads_serve command _ _ st

/-- **Going on with a command is a run of the exchange.** -/
theorem leads_resume (w : CommandWaiting ε) (reply : Option Bytes) (st : Station ν ε) :
    Leads st.exchange (resume w reply st).2.2.exchange := by
  have h := (Script.unpolled_run (w.waiting.resume reply) st.exchange).leads
  unfold resume
  split <;> rename_i heq <;> rw [heq] at h
  · exact h
  · exact h.trans (leads_serve w.command w.rest _ _)

/-! ### What a protocol notes -/

/-- **What some scripts note** is what each of them notes where those before it were carried out, in
their order. -/
theorem notes_performAll (ss : List (Script ε Unit)) (st : Station ν ε) :
    (st.performAll ss).1 =
      (ss.mapIdx fun i s => ((st.performAll (ss.take i)).2.perform s).1).flatten := by
  induction ss generalizing st with
  | nil => rfl
  | cons s ss ih =>
    rw [performAll_cons, List.mapIdx_cons, List.flatten_cons]
    simp only [List.take_zero, List.take_succ_cons, performAll_nil, performAll_cons]
    rw [ih]

/-- What is noted for the entries of a list is what is noted for each of them where those before it
were served. -/
theorem notes_performAll_map {α : Type} (f : α → Script ε Unit) (as : List α) (st : Station ν ε) :
    (st.performAll (as.map f)).1 =
      (as.mapIdx fun i a => ((st.performAll ((as.take i).map f)).2.perform (f a)).1).flatten := by
  rw [notes_performAll]
  exact congrArg List.flatten (List.ext_getElem (by simp) fun i _ _ => by simp [List.map_take])

/-- Scripts that note something and do nothing else note it in their order. -/
theorem performAll_note {α : Type} (f : α → ε) (as : List α) (st : Station ν ε) :
    st.performAll (as.map fun a => .note (f a) (.done ())) = (as.map f, st) := by
  induction as with
  | nil => rfl
  | cons a as ih =>
    have hfirst : st.perform (.note (f a) (.done ())) = ([f a], st) := rfl
    rw [List.map_cons, performAll_cons, hfirst, ih]
    rfl

/-- A protocol that notes every channel it is told of and every buffer it is given. -/
def scribe : Protocol (Channel ⊕ Delivery) where
  configure c := .note (.inl c) (.done ())
  parse c data := .note (.inr ⟨c, data⟩) (.done ())
  command _ _ := .done false

/-- **A dispatch tells the protocol of each entry of the list once,** in the order of the list. -/
theorem announce_scribe (x : Exchange ν) :
    announce ⟨x, scribe⟩ = (x.announcements.map .inl, ⟨x.takeAnnouncements.2, scribe⟩) :=
  performAll_note _ _ _

/-- **A poll tells the protocol of each entry of the list once, and then gives it each buffer once,**
in the order in which they were read. -/
theorem pollCycle_scribe {x y : Exchange ν} {ds : List Delivery} (hp : x.poll = (.ok ds, y)) :
    pollCycle ⟨x, scribe⟩ =
      (.ok ds.length, y.announcements.map .inl ++ ds.map .inr,
        ⟨y.takeAnnouncements.2, scribe⟩) := by
  let told : Station ν (Channel ⊕ Delivery) := ⟨y.takeAnnouncements.2, scribe⟩
  have hgiven : told.performAll (ds.map fun d => scribe.parse d.channel d.data) =
      (ds.map .inr, told) := performAll_note Sum.inr ds told
  unfold pollCycle
  rw [hp]
  dsimp only
  rw [announce_scribe]
  dsimp only
  rw [hgiven]

end Station

end Switchboard
