import Switchboard.Proofs.Calls.Onward

/-!
# Writes in two steps

A write takes two steps between which other threads may take theirs: first it is *admitted*, which
is to look whether a call is outstanding or to begin one, and then its buffer is queued.  A `Desk`
is an exchange with all the writes that were ever admitted, each an `Errand`, and an `Act` is one
step of one of them, or any other operation of the exchange.  So the writes of all hosts, callbacks
and threads may be interleaved in any way.

`Desk.Step` says what an act can do.  Each act is one operation of the exchange or none, so a run of
a desk is a run of its exchange (`Desk.exchange_run`), and what is known of those holds here.

How the errands stand to what waits in the exchange and to its calls is said in `Calls/Books`.
-/

namespace Switchboard

open Net Settings Relation Directory Outline

/-! ### Errands -/

/-- How far a write has got. -/
inductive Progress where
  /-- It was let in: no call was outstanding, or its own has begun. -/
  | admitted
  /-- Its buffer was queued, with this ticket. -/
  | queued (ticket : Nat)
  /-- Its buffer could not be queued. -/
  | refused
  deriving Repr, DecidableEq

/-- **A write that was admitted,** with the generation of its call if it has one. -/
structure Errand where
  channel : Channel
  data : Bytes
  call : Option Nat := none
  progress : Progress := .admitted
  deriving Repr, DecidableEq

/-- The write in the outbox is that of the errand. -/
structure Errand.Wrote (e : Errand) (w : Write) : Prop where
  progress : e.progress = .queued w.ticket
  channel : w.channel = e.channel
  data : w.data = e.data
  call : w.call = e.call

theorem Errand.Wrote.continues {e : Errand} {w w' : Write} (h : e.Wrote w) (hw : w.Continues w') :
    e.Wrote w' where
  progress := hw.ticket ▸ h.progress
  channel := hw.channel.trans h.channel
  data := hw.data.trans h.data
  call := hw.call.trans h.call

/-- **May somebody hold the channel?**  It was made here, and no other one has its number. -/
def Directory.Genuine (d : Directory) (c : Channel) : Prop :=
  d.Keeps c ∧ ∀ c' ∈ d.channels, c'.id = c.id → c' = c

instance (d : Directory) (c : Channel) : Decidable (d.Genuine c) :=
  inferInstanceAs (Decidable (_ ∧ _))

/-! ### Desks -/

/-- **An exchange and the writes that were admitted,** the earliest first. -/
structure Desk (ν : Type) where
  exchange : Exchange ν
  errands : List Errand := []

/-- **One step of a write, or any other operation.** -/
inductive Act (ν : Type) where
  /-- A write without a call is admitted if no call is outstanding. -/
  | check (c : Channel) (data : Bytes)
  /-- A write with a call is admitted if the call begins. -/
  | start (c : Channel) (data : Bytes)
  /-- The buffer of the errand at a place is queued. -/
  | queue (i : Nat)
  /-- The caller whose errand is at a place ends the call. -/
  | leave (i : Nat)
  | operate (op : Operation ν)

namespace Desk

variable {ν : Type} [Network ν]

/-- The operation that an act is, if it is one. -/
def operation? (d : Desk ν) : Act ν → Option (Operation ν)
  | .check _ _ => none
  | .start c _ => if d.exchange.directory.Genuine c then some (.beginCall c) else none
  | .queue i =>
    match d.errands[i]? with
    | some ⟨c, data, call, .admitted⟩ => some (.enqueue c data call)
    | _ => none
  | .leave i =>
    match d.errands[i]? with
    | some ⟨_, _, _, .admitted⟩ => none
    | some ⟨c, _, some g, _⟩ => some (.finishCall c g)
    | _ => none
  | .operate op => if op.isFree = true then some op else none

/-- The errands after an act. -/
def errandsAfter (d : Desk ν) : Act ν → List Errand
  | .check c data =>
    if d.exchange.directory.Genuine c ∧ d.exchange.directory.isBusy c = false then
      d.errands ++ [{ channel := c, data }]
    else d.errands
  | .start c data =>
    if d.exchange.directory.Genuine c then
      match (d.exchange.beginCall c).1 with
      | .error _ => d.errands
      | .ok g => d.errands ++ [{ channel := c, data, call := some g }]
    else d.errands
  | .queue i =>
    match d.errands[i]? with
    | some ⟨c, data, call, .admitted⟩ =>
      d.errands.set i ⟨c, data, call,
        match (d.exchange.enqueue c data call).1 with
        | .ok true => .queued d.exchange.outbox.nextTicket
        | _ => .refused⟩
    | _ => d.errands
  | .leave _ | .operate _ => d.errands

/-- The desk after an act. -/
def act (d : Desk ν) (a : Act ν) : Desk ν :=
  ⟨(d.operation? a).elim d.exchange d.exchange.apply, d.errandsAfter a⟩

/-- The desk after some acts. -/
def run (d : Desk ν) (acts : List (Act ν)) : Desk ν :=
  acts.foldl act d

/-- The operations that some acts are. -/
def operations (d : Desk ν) : List (Act ν) → List (Operation ν)
  | [] => []
  | a :: acts => (d.operation? a).toList ++ operations (d.act a) acts

theorem run_snoc (d : Desk ν) (acts : List (Act ν)) (a : Act ν) :
    d.run (acts ++ [a]) = (d.run acts).act a := by
  simp [run]

theorem operations_snoc (d : Desk ν) (acts : List (Act ν)) (a : Act ν) :
    d.operations (acts ++ [a]) = d.operations acts ++ ((d.run acts).operation? a).toList := by
  induction acts generalizing d with
  | nil => simp [operations, run]
  | cons b acts ih =>
    rw [List.cons_append, operations, operations, ih, List.append_assoc]
    rfl

/-- **A run of a desk is a run of its exchange.** -/
theorem exchange_run (d : Desk ν) (acts : List (Act ν)) :
    (d.run acts).exchange = d.exchange.run (d.operations acts) := by
  induction acts generalizing d with
  | nil => rfl
  | cons a acts ih =>
    have hact : (d.act a).exchange = d.exchange.run (d.operation? a).toList := by
      unfold act
      cases d.operation? a <;> rfl
    rw [operations, Exchange.run_append, ← hact]
    exact ih (d.act a)

theorem reachable_run {name : String} {profile : Profile} {network : ν} {x : Exchange ν}
    (hx : Exchange.create name profile network = .ok x) (acts : List (Act ν)) :
    (Desk.run ⟨x, []⟩ acts).exchange.Reachable := by
  rw [exchange_run]
  exact ⟨name, profile, network, x, _, hx, rfl⟩

/-! ### Whole writes -/

/-- A write without a call is two acts. -/
theorem exchange_check_queue {x : Exchange ν} {c : Channel} (hc : x.directory.Genuine c)
    (data : Bytes) :
    (Desk.run ⟨x, []⟩ [.check c data, .queue 0]).exchange = (x.write c data).2 := by
  cases hbusy : x.directory.isBusy c with
  | true => simp [run, act, operation?, errandsAfter, Exchange.write, hbusy]
  | false =>
    have hrun : (Desk.run ⟨x, []⟩ [.check c data, .queue 0]).exchange =
        (x.enqueue c data none).2 := by
      simp [run, act, operation?, errandsAfter, hc, hbusy, Exchange.apply]
    rw [hrun]
    unfold Exchange.write
    rw [if_neg (by simp [hbusy])]
    split <;> rename_i heq <;> rw [heq]

/-- A write with a call is two acts, and a third one if its buffer is not queued. -/
theorem exchange_start_queue {x : Exchange ν} {c : Channel} (hc : x.directory.Genuine c)
    (data : Bytes) : ∃ acts, acts <+: [Act.leave 0] ∧
      (Desk.run ⟨x, []⟩ ([.start c data, .queue 0] ++ acts)).exchange = (x.startCall c data).2 := by
  unfold Exchange.startCall
  split
  · rename_i e y heq
    refine ⟨[], List.nil_prefix, ?_⟩
    simp [run, act, operation?, errandsAfter, hc, Exchange.apply, heq]
  · rename_i g y heq
    have hstarted : Desk.act ⟨x, []⟩ (.start c data) =
        ⟨y, [{ channel := c, data, call := some g }]⟩ := by
      simp [act, operation?, errandsAfter, hc, Exchange.apply, heq]
    split <;> rename_i z hq
    · refine ⟨[.leave 0], List.prefix_refl _, ?_⟩
      rw [List.cons_append, run, List.foldl_cons, hstarted]
      simp [act, operation?, errandsAfter, Exchange.apply, hq]
    · refine ⟨[.leave 0], List.prefix_refl _, ?_⟩
      rw [List.cons_append, run, List.foldl_cons, hstarted]
      simp [act, operation?, errandsAfter, Exchange.apply, hq]
    · refine ⟨[], List.nil_prefix, ?_⟩
      rw [List.append_nil, run, List.foldl_cons, hstarted]
      simp [act, operation?, errandsAfter, Exchange.apply, hq]

/-! ### What an act can do -/

/-- **What an act can do to a desk,** and the operation that it is. -/
inductive Step (d : Desk ν) : Option (Operation ν) → Desk ν → Prop
  | idle : Step d none d
  | checked (c : Channel) (data : Bytes) (hc : d.exchange.directory.Genuine c)
      (hb : d.exchange.directory.isBusy c = false) :
      Step d none { d with errands := d.errands ++ [{ channel := c, data }] }
  | started (c : Channel) (data : Bytes) {g : Nat} {b : CallBox}
      (hc : d.exchange.directory.Genuine c)
      (hb : (d.exchange.directory.call c).start? = some (g, b)) :
      Step d (some (.beginCall c)) ⟨d.exchange.onDirectory (·.modifyCall c fun _ => b),
        d.errands ++ [{ channel := c, data, call := some g }]⟩
  /-- The call did not begin. -/
  | barred (c : Channel) : Step d (some (.beginCall c)) d
  | queued {i : Nat} {c : Channel} {data : Bytes} {call : Option Nat}
      (hi : d.errands[i]? = some ⟨c, data, call, .admitted⟩)
      (hok : (d.exchange.enqueue c data call).1 = .ok true) :
      Step d (some (.enqueue c data call)) ⟨(d.exchange.enqueue c data call).2,
        d.errands.set i ⟨c, data, call, .queued d.exchange.outbox.nextTicket⟩⟩
  | refused {i : Nat} {c : Channel} {data : Bytes} {call : Option Nat}
      (hi : d.errands[i]? = some ⟨c, data, call, .admitted⟩)
      (hno : (d.exchange.enqueue c data call).1 ≠ .ok true) :
      Step d (some (.enqueue c data call)) ⟨(d.exchange.enqueue c data call).2,
        d.errands.set i ⟨c, data, call, .refused⟩⟩
  | left (c : Channel) (g : Nat) :
      Step d (some (.finishCall c g)) { d with exchange := d.exchange.finishCall c g }
  | operated (op : Operation ν) (hfree : op.isFree = true) :
      Step d (some op) { d with exchange := d.exchange.apply op }

/-- **Every act is a step.** -/
theorem step_act (d : Desk ν) (a : Act ν) : d.Step (d.operation? a) (d.act a) := by
  unfold act operation? errandsAfter
  cases a with
  | check c data =>
    dsimp only
    split_ifs with h
    · exact .checked c data h.1 h.2
    · exact .idle
  | start c data =>
    dsimp only
    split_ifs with hc
    · cases hb : (d.exchange.directory.call c).start? with
      | none =>
        have hno : d.exchange.beginCall c = (.error (.callInProgress c.id), d.exchange) := by
          unfold Exchange.beginCall
          rw [show (d.exchange.directory.status c).call.start? = none from hb]
        simp only [Option.elim, Exchange.apply, hno]
        exact .barred c
      | some begun =>
        obtain ⟨g, b⟩ := begun
        have hyes : d.exchange.beginCall c =
            (.ok g, d.exchange.onDirectory (·.modifyCall c fun _ => b)) := by
          unfold Exchange.beginCall
          rw [show (d.exchange.directory.status c).call.start? = some (g, b) from hb]
        simp only [Option.elim, Exchange.apply, hyes]
        exact .started c data hc hb
    · exact .idle
  | queue i =>
    dsimp only
    split
    · rename_i c data call hi
      dsimp only [Option.elim, Exchange.apply]
      split
      · rename_i hok
        exact .queued hi hok
      · rename_i hno
        exact .refused hi hno
    · exact .idle
  | leave i =>
    dsimp only
    split
    · exact .idle
    · exact .left _ _
    · exact .idle
  | operate op =>
    dsimp only
    split_ifs with hfree
    · exact .operated op hfree
    · exact .idle

end Desk

end Switchboard
