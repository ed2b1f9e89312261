import Switchboard.Proofs.Supervision.Faults
import Mathlib.Data.List.Induction

/-!
# Histories

A `Step` may stand for much: a whole pass, or all the attempts that are due.  A `Change` is the least
that happens to an exchange: one thing in a pass, one attempt, or one step outside of both.  Every run
is a chain of changes, so what an exchange goes through on its way, in the middle of
an operation as well as between two, is told by its `History` (`exists_history`).

All changes but two are plain (`PlainChange`): only where the exchange is taken out of service, and
where its protocol is told of them, are announcements taken.
-/

namespace Switchboard.Exchange

open Net Settings Relation Outline

variable {ν : Type} [Network ν] {x y z : Exchange ν}

/-- **The least that happens to an exchange in service.** -/
inductive PlainChange : Exchange ν → Exchange ν → Prop
  | single {x y : Exchange ν} (h : SingleStep x y) : PlainChange x y
  | inPass {x y : Exchange ν} (h : PassStep x y) : PlainChange x y
  /-- What a pass has read was given to the protocol. -/
  | given (x : Exchange ν) : PlainChange x { x with inbox := [] }
  /-- The attempts that are due were taken from the schedule. -/
  | due (x : Exchange ν) : PlainChange x { x with schedule := (x.schedule.takeDue x.clock).2 }
  /-- One attempt was made to replace a socket that waits. -/
  | attempted (x : Exchange ν) {r : Retry} {s : Socket} (hs : x.sockets.find? r.socket = some s)
      (hr : s.role = .outbound) (hp : s.phase = .retryScheduled) : PlainChange x (retry r x)

/-- **The least that happens to an exchange.** -/
inductive Change : Exchange ν → Exchange ν → Prop
  | plain {x y : Exchange ν} (h : PlainChange x y) : Change x y
  | deactivated (x : Exchange ν) : Change x x.deactivate
  | told (x : Exchange ν) : Change x x.takeAnnouncements.2

/-- Some plain changes, one after the other. -/
abbrev PlainCourse : Exchange ν → Exchange ν → Prop :=
  ReflTransGen PlainChange

/-- Some changes, one after the other. -/
abbrev Course : Exchange ν → Exchange ν → Prop :=
  ReflTransGen Change

theorem PlainCourse.course (h : PlainCourse x y) : Course x y :=
  ReflTransGen.mono (fun _ _ => Change.plain) _ _ h

/-! ### Changes of outlines -/

theorem moves_attempted (h : x.outline.Sound) {r : Retry} {s : Socket}
    (hs : x.sockets.find? r.socket = some s) (hr : s.role = .outbound) :
    Moves x.outline (retry r x).outline := by
  refine moves_retry fun n hn => ?_
  rw [h.nature_eq hn (Sockets.mem_natures.mpr ⟨s, Sockets.mem_of_find? hs, rfl⟩)]
  exact hr

/-- A change is a chain of moves of the outline, or of moves of a pass that is not over yet. -/
theorem moves_or_passMoves (h : x.outline.Sound) (hc : Change x y) :
    Moves x.outline y.outline ∨ PassMoves x.outline y.outline := by
  cases hc with
  | plain hc =>
    cases hc with
    | single hstep => exact .inl (moves_singleStep h hstep)
    | inPass hstep => exact .inr (passMoves_passStep h hstep)
    | given => exact .inl .refl
    | due => exact .inl (.single (.event (event_takeDue x)))
    | attempted hs hr hp => exact .inl (moves_attempted h hs hr)
  | deactivated => exact .inl (.single (move_deactivate x))
  | told => exact .inl (.single (.told x.outline))

theorem sound_change (h : x.outline.Sound) (hc : Change x y) : y.outline.Sound :=
  (moves_or_passMoves h hc).elim h.moves h.passMoves

theorem grows_change (h : x.outline.Sound) (hc : Change x y) : Grows x.outline y.outline :=
  (moves_or_passMoves h hc).elim grows_moves grows_passMoves

theorem sound_course (h : x.outline.Sound) (hc : Course x y) : y.outline.Sound := by
  induction hc with
  | refl => exact h
  | tail _ hstep ih => exact sound_change ih hstep

/-! ### Operations in changes -/

/-- A plain step is a chain of plain changes. -/
theorem changes_plainStep (h : x.outline.Sound) (ha : x.sockets.Attended x.outline.retries)
    (hstep : PlainStep x y) : PlainCourse x y := by
  cases hstep with
  | single hstep => exact .single (.single hstep)
  | retried =>
    exact retryDue_induction h ha (.single (.due x)) fun y r s _ hs hr hp hy =>
      hy.tail (.attempted y hs hr hp)
  | @passed y ho hpass =>
    have hserved : PlainCourse x y := ReflTransGen.mono (fun _ _ => PlainChange.inPass) _ _ hpass
    exact (hserved.tail (.single (.rearmed y))).tail (.given y.armPending)

theorem changes_plainSteps (h : x.outline.Sound) (ha : x.sockets.Attended x.outline.retries)
    (hsteps : PlainSteps x y) : PlainCourse x y := by
  induction hsteps with
  | refl => exact .refl
  | tail hbefore hstep ih =>
    have hsteps := PlainSteps.steps hbefore
    have hsound := h.moves (moves_steps h hsteps)
    exact ih.trans (changes_plainStep hsound ((Tends.steps h ha hsteps).attended ha) hstep)

/-- **Every operation is a chain of changes,** of plain ones unless it takes the announcements. -/
theorem changes_apply (h : x.outline.Sound) (ha : x.sockets.Attended x.outline.retries)
    (op : Operation ν) : PlainCourse x (x.apply op) ∨
      (op = .deactivate ∨ op = .takeAnnouncements) ∧ Change x (x.apply op) := by
  by_cases hd : op = .deactivate
  · subst hd
    exact .inr ⟨.inl rfl, .deactivated x⟩
  by_cases ht : op = .takeAnnouncements
  · subst ht
    exact .inr ⟨.inr rfl, .told x⟩
  · exact .inl (changes_plainSteps h ha (plainSteps_apply x hd ht))

/-! ### Histories -/

/-- **What an exchange went through** to become another one: all the states on the way, the latest
first. -/
inductive History (x : Exchange ν) : List (Exchange ν) → Exchange ν → Prop
  | start : History x [x] x
  | next {states : List (Exchange ν)} {y z : Exchange ν} (h : History x states y)
      (hc : Change y z) : History x (z :: states) z

namespace History

variable {states : List (Exchange ν)}

/-- The last state of a history is one of its states. -/
theorem mem_last (h : History x states y) : y ∈ states := by
  cases h with
  | start => exact List.mem_singleton_self x
  | next _ _ => exact List.mem_cons_self

/-- Every state of a history is on the way. -/
theorem course_of_mem (h : History x states y) (hz : z ∈ states) : Course x z ∧ Course z y := by
  induction h generalizing z with
  | start =>
    rw [List.mem_singleton.mp hz]
    exact ⟨.refl, .refl⟩
  | next hbefore hc ih =>
    rcases List.mem_cons.mp hz with rfl | hz
    · obtain ⟨hcourse, -⟩ := ih hbefore.mem_last
      exact ⟨hcourse.tail hc, .refl⟩
    · obtain ⟨hcourse, hrest⟩ := ih hz
      exact ⟨hcourse, hrest.tail hc⟩

theorem extend (h : History x states y) (hc : Course y z) :
    ∃ later, History x (later ++ states) z := by
  induction hc with
  | refl => exact ⟨[], h⟩
  | @tail y' z _ hstep ih =>
    obtain ⟨later, hlater⟩ := ih
    exact ⟨z :: later, hlater.next hstep⟩

end History

/-- **Every run has a history,** in which are the states between its operations. -/
theorem exists_history (h : x.outline.Sound) (ha : x.sockets.Attended x.outline.retries)
    (ops : List (Operation ν)) : ∃ states, History x states (x.run ops) ∧
      ∀ before, before <+: ops → x.run before ∈ states := by
  induction ops using List.reverseRecOn with
  | nil =>
    refine ⟨[x], .start, fun before hbefore => ?_⟩
    rw [List.prefix_nil.mp hbefore]
    exact List.mem_singleton_self x
  | append_singleton ops op ih =>
    obtain ⟨states, hstates, hmem⟩ := ih
    have hsound := h.moves (moves_run h ops)
    have hattended := (Tends.run h ha ops).attended ha
    have hchanges : Course (x.run ops) ((x.run ops).apply op) := by
      rcases changes_apply hsound hattended op with hplain | ⟨-, hchange⟩
      · exact hplain.course
      · exact .single hchange
    obtain ⟨later, hlater⟩ := hstates.extend hchanges
    rw [run_snoc]
    refine ⟨later ++ states, hlater, fun before hbefore => ?_⟩
    rcases List.prefix_concat_iff.mp hbefore with rfl | hbefore
    · rw [run_snoc]
      exact hlater.mem_last
    · exact List.mem_append_right _ (hmem before hbefore)

end Switchboard.Exchange
