import Switchboard.CallBox
import Mathlib.Data.List.Induction
import Mathlib.Tactic.SplitIfs

/-!
# The history of a call box

Callers, whoever sends and reads, and whoever ends calls from outside take their atomic steps on the
calls of one channel in any order and with any generations.  A `CallStep` is one such step, a
`CallEvent` is what it came to, and a *history* is the list of the events so far, the latest first.

What is true of a call is said here of the history alone: `Outstanding` and `Marked` say that it
began and that nothing has ended it since, and that its write was marked meanwhile; `Handed` says
which buffer was handed in for it.  The box agrees with its history after every step
(`Follows.step`), and so it answers as the history asks for (`CallBox.answers_by_history`).
-/

namespace Switchboard

/-! ### Steps and events -/

/-- **An atomic step on the calls of a channel,** by whomever it is taken. -/
inductive CallStep where
  | start
  | markSent (generation : Nat)
  | fulfil (data : Bytes)
  | finish (generation : Nat)
  | cancel
  | collect (generation : Nat)
  deriving Repr, DecidableEq

/-- What a step came to. -/
inductive CallEvent where
  | started (generation : Nat)
  /-- A call was outstanding, so none began. -/
  | refused
  | marked (generation : Nat)
  /-- A buffer was offered, and taken or not. -/
  | handed (data : Bytes) (taken : Bool)
  | finished (generation : Nat)
  | cancelled
  | collected (generation : Nat) (receipt : Receipt)
  deriving Repr, DecidableEq

/-- The event of a step, and the box after it. -/
def CallBox.step (b : CallBox) : CallStep → CallEvent × CallBox
  | .start =>
    match b.start? with
    | some (g, b') => (.started g, b')
    | none => (.refused, b)
  | .markSent g => (.marked g, b.markSent g)
  | .fulfil data => (.handed data (b.fulfil data).1, (b.fulfil data).2)
  | .finish g => (.finished g, b.finish g)
  | .cancel => (.cancelled, b.cancel)
  | .collect g => (.collected g (b.collect g).1, (b.collect g).2)

/-- **The history of a new box under some steps,** the latest event first, and the box after
them. -/
def CallBox.history (steps : List CallStep) : List CallEvent × CallBox :=
  steps.foldl (fun r s => ((r.2.step s).1 :: r.1, (r.2.step s).2)) ([], {})

/-! ### What a history says -/

/-- Does the event end the call of a generation, if that is outstanding? -/
def CallEvent.Ends (g : Nat) : CallEvent → Prop
  | .handed _ taken => taken = true
  | .finished g' => g' = g
  | .cancelled => True
  | _ => False

/-- **The call of a generation is outstanding:** it began, and nothing has ended it since. -/
def Outstanding (g : Nat) (h : List CallEvent) : Prop :=
  ∃ since before, h = since ++ .started g :: before ∧ ∀ e ∈ since, ¬ e.Ends g

/-- **The outstanding call was marked** after it began. -/
def Marked (g : Nat) (h : List CallEvent) : Prop :=
  ∃ since before, h = since ++ .started g :: before ∧ (∀ e ∈ since, ¬ e.Ends g) ∧
    .marked g ∈ since

/-- **A buffer was taken for a call** while that was outstanding and marked. -/
def Handed (g : Nat) (data : Bytes) (h : List CallEvent) : Prop :=
  ∃ since before, h = since ++ .handed data true :: before ∧ Marked g before

/-- The generation of the call that the event began. -/
def CallEvent.started? : CallEvent → Option Nat
  | .started g => some g
  | _ => none

/-- The reply that the event gave to the caller of a generation. -/
def CallEvent.reply? (g : Nat) : CallEvent → Option Bytes
  | .collected g' (.reply data) => if g' = g then some data else none
  | _ => none

/-- The replies in the box for the caller of a generation. -/
def CallBox.repliesTo (b : CallBox) (g : Nat) : List Bytes :=
  (b.replies.filter (·.1 == g)).map (·.2)

/-- **What the caller of a generation has got:** what he has collected, and what is there for him to
collect. -/
def received (g : Nat) (h : List CallEvent) (b : CallBox) : List Bytes :=
  h.filterMap (CallEvent.reply? g) ++ b.repliesTo g

theorem CallBox.mem_repliesTo_of_lookup {b : CallBox} {g : Nat} {data : Bytes}
    (hl : b.replies.lookup g = some data) : data ∈ b.repliesTo g := by
  obtain ⟨before, after, hsplit, -⟩ := List.lookup_eq_some_iff.mp hl
  simp [repliesTo, hsplit]

theorem CallBox.repliesTo_of_lookup_eq_none {b : CallBox} {g : Nat}
    (hl : b.replies.lookup g = none) : b.repliesTo g = [] := by
  rw [List.lookup_eq_none_iff] at hl
  rw [repliesTo, List.map_eq_nil_iff, List.filter_eq_nil_iff]
  intro r hr heq
  exact bne_iff_ne.mp (hl r hr) (beq_iff_eq.mp heq).symm

/-! ### One event more -/

variable {g : Nat} {e : CallEvent} {h : List CallEvent}

theorem outstanding_cons :
    Outstanding g (e :: h) ↔ e = .started g ∨ ¬ e.Ends g ∧ Outstanding g h := by
  constructor
  · rintro ⟨since, before, heq, hsince⟩
    rcases List.cons_eq_append_iff.mp heq with ⟨rfl, hbefore⟩ | ⟨since', rfl, rfl⟩
    · exact .inl (List.cons.inj hbefore).1.symm
    · exact .inr ⟨hsince e List.mem_cons_self, since', before, rfl,
        fun e' he' => hsince e' (List.mem_cons_of_mem e he')⟩
  · rintro (rfl | ⟨he, since, before, rfl, hsince⟩)
    · exact ⟨[], h, rfl, fun e' he' => nomatch he'⟩
    · exact ⟨e :: since, before, rfl, List.forall_mem_cons.mpr ⟨he, hsince⟩⟩

theorem marked_cons :
    Marked g (e :: h) ↔ ¬ e.Ends g ∧ (Marked g h ∨ e = .marked g ∧ Outstanding g h) := by
  constructor
  · rintro ⟨since, before, heq, hsince, hmarked⟩
    rcases List.cons_eq_append_iff.mp heq with ⟨rfl, -⟩ | ⟨since', rfl, rfl⟩
    · exact nomatch hmarked
    · have hsince' : ∀ e' ∈ since', ¬ e'.Ends g :=
        fun e' he' => hsince e' (List.mem_cons_of_mem e he')
      refine ⟨hsince e List.mem_cons_self, ?_⟩
      rcases List.mem_cons.mp hmarked with rfl | hmarked
      · exact .inr ⟨rfl, since', before, rfl, hsince'⟩
      · exact .inl ⟨since', before, rfl, hsince', hmarked⟩
  · rintro ⟨he, ⟨since, before, rfl, hsince, hmarked⟩ | ⟨rfl, since, before, rfl, hsince⟩⟩
    · exact ⟨e :: since, before, rfl, List.forall_mem_cons.mpr ⟨he, hsince⟩,
        List.mem_cons_of_mem e hmarked⟩
    · exact ⟨.marked g :: since, before, rfl, List.forall_mem_cons.mpr ⟨he, hsince⟩,
        List.mem_cons_self⟩

theorem handed_cons {data : Bytes} :
    Handed g data (e :: h) ↔ e = .handed data true ∧ Marked g h ∨ Handed g data h := by
  constructor
  · rintro ⟨since, before, heq, hmarked⟩
    rcases List.cons_eq_append_iff.mp heq with ⟨rfl, hbefore⟩ | ⟨since', rfl, rfl⟩
    · obtain ⟨rfl, rfl⟩ := List.cons.inj hbefore
      exact .inl ⟨rfl, hmarked⟩
    · exact .inr ⟨since', before, rfl, hmarked⟩
  · rintro (⟨rfl, hmarked⟩ | ⟨since, before, rfl, hmarked⟩)
    · exact ⟨[], h, rfl, hmarked⟩
    · exact ⟨e :: since, before, rfl, hmarked⟩

theorem Marked.outstanding (hm : Marked g h) : Outstanding g h := by
  obtain ⟨since, before, heq, hsince, -⟩ := hm
  exact ⟨since, before, heq, hsince⟩

theorem Outstanding.started (ho : Outstanding g h) : g ∈ h.filterMap CallEvent.started? := by
  obtain ⟨since, before, rfl, -⟩ := ho
  exact List.mem_filterMap.mpr
    ⟨.started g, List.mem_append_right _ List.mem_cons_self, rfl⟩

theorem Handed.started {data : Bytes} (hd : Handed g data h) :
    g ∈ h.filterMap CallEvent.started? := by
  obtain ⟨since, before, rfl, hmarked⟩ := hd
  rw [List.filterMap_append]
  exact List.mem_append_right _ hmarked.outstanding.started

/-! ### The box agrees -/

/-- **The box agrees with its history.** -/
structure CallBox.Follows (b : CallBox) (h : List CallEvent) : Prop where
  outstanding : ∀ g, b.pending.generation? = some g ↔ Outstanding g h
  marked : ∀ g, b.pending = .awaiting g ↔ Marked g h
  issued : ∀ g ∈ h.filterMap CallEvent.started?, g ≤ b.issued
  descending : (h.filterMap CallEvent.started?).Pairwise (· > ·)
  handed : ∀ g data, data ∈ received g h b ↔ Handed g data h
  once : ∀ g, (received g h b).length ≤ 1
  /-- Nothing has come for the call that is outstanding. -/
  unanswered : ∀ g, b.pending.generation? = some g → received g h b = []

namespace CallBox.Follows

variable {b : CallBox}

theorem nil : CallBox.Follows {} [] where
  outstanding g := by simp [Pending.generation?, Outstanding]
  marked g := by simp [Marked]
  issued g hg := nomatch hg
  descending := .nil
  handed g data := by simp [received, CallBox.repliesTo, Handed]
  once g := Nat.zero_le 1
  unanswered g hg := nomatch hg

/-- What has come, came for a call that began. -/
theorem le_issued (hf : b.Follows h) {data : Bytes} (hd : data ∈ received g h b) : g ≤ b.issued :=
  hf.issued g ((hf.handed g data).mp hd).started

/-- An event that begins no call and hands nothing in keeps the agreement, if the box ends and marks
what the event ends and marks. -/
theorem of_quiet (hf : b.Follows h) {b' : CallBox} (hreplies : b'.replies = b.replies)
    (hissued : b'.issued = b.issued) (hstart : e.started? = none) (hreply : ∀ g, e.reply? g = none)
    (hnot : ∀ data, e ≠ .handed data true)
    (hout : ∀ g, b'.pending.generation? = some g ↔
      ¬ e.Ends g ∧ b.pending.generation? = some g)
    (hmark : ∀ g, b'.pending = .awaiting g ↔
      ¬ e.Ends g ∧ (b.pending = .awaiting g ∨ e = .marked g ∧ b.pending.generation? = some g)) :
    b'.Follows (e :: h) := by
  have hreceived : ∀ g, received g (e :: h) b' = received g h b := fun g => by
    rw [received, List.filterMap_cons_none (hreply g), CallBox.repliesTo, hreplies, received,
      CallBox.repliesTo]
  have hne : ∀ g, e ≠ .started g := by
    rintro g rfl
    exact nomatch hstart
  constructor
  · intro g
    rw [outstanding_cons, hout, hf.outstanding]
    simp [hne]
  · intro g
    rw [marked_cons, hmark, hf.marked, hf.outstanding]
  · rw [List.filterMap_cons_none hstart, hissued]
    exact hf.issued
  · rw [List.filterMap_cons_none hstart]
    exact hf.descending
  · intro g data
    rw [hreceived, handed_cons, hf.handed]
    simp [hnot]
  · intro g
    rw [hreceived]
    exact hf.once g
  · intro g hg
    rw [hreceived]
    exact hf.unanswered g ((hout g).mp hg).2

/-- Whatever happens that is no step of the box leaves it as it is. -/
theorem of_same (hf : b.Follows h) (hstart : e.started? = none) (hreply : ∀ g, e.reply? g = none)
    (hends : ∀ g, ¬ e.Ends g) (hmark : ∀ g, e ≠ .marked g) : b.Follows (e :: h) := by
  refine hf.of_quiet rfl rfl hstart hreply (fun data => ?_) (fun g => ?_) (fun g => ?_)
  · rintro rfl
    exact hends 0 rfl
  · simp [hends]
  · simp [hends, hmark]

/-! ### Every step keeps the agreement -/

/-- A call begins when none is outstanding, and its generation is new. -/
theorem started (hf : b.Follows h) (hidle : b.pending = .idle) :
    CallBox.Follows { b with pending := .queued (b.issued + 1), issued := b.issued + 1 }
      (.started (b.issued + 1) :: h) := by
  have hnone : ∀ g, ¬ Outstanding g h := fun g ho => by
    have := (hf.outstanding g).mpr ho
    rw [hidle] at this
    exact nomatch this
  have hnew : received (b.issued + 1) h b = [] := by
    rw [List.eq_nil_iff_forall_not_mem]
    intro data hd
    exact Nat.not_succ_le_self _ (hf.le_issued hd)
  constructor
  · intro g
    simp [outstanding_cons, hnone, Pending.generation?]
  · intro g
    have hmarked : ¬ Marked g h := fun hm => hnone g hm.outstanding
    simp [marked_cons, hnone, hmarked]
  · intro g hg
    rcases List.mem_cons.mp hg with rfl | hg
    · exact Nat.le_refl _
    · exact Nat.le_succ_of_le (hf.issued g hg)
  · exact List.pairwise_cons.mpr ⟨fun g hg => Nat.lt_succ_of_le (hf.issued g hg), hf.descending⟩
  · intro g data
    refine (hf.handed g data).trans ?_
    simp [handed_cons]
  · exact hf.once
  · intro g hg
    obtain rfl : b.issued + 1 = g := by simpa [Pending.generation?] using hg
    exact hnew

theorem start (hf : b.Follows h) : (b.step .start).2.Follows ((b.step .start).1 :: h) := by
  unfold CallBox.step
  rcases hp : b.pending with _ | g | g
  · simp only [CallBox.start?, hp]
    exact hf.started hp
  all_goals
    simp only [CallBox.start?, hp]
    exact hf.of_same rfl (fun _ => rfl) (fun _ => id) (fun _ => nofun)

/-- A mark of the queued call lets it await its reply; any other changes nothing. -/
theorem markSent (hf : b.Follows h) (g : Nat) : (b.markSent g).Follows (.marked g :: h) := by
  unfold CallBox.markSent
  split_ifs with hp
  · refine hf.of_quiet rfl rfl rfl (fun _ => rfl) (fun _ => nofun) (fun g' => ?_) (fun g' => ?_)
    · simp [CallEvent.Ends, Pending.generation?, hp]
    · simp [CallEvent.Ends, Pending.generation?, hp]
  · refine hf.of_quiet rfl rfl rfl (fun _ => rfl) (fun _ => nofun) (fun g' => ?_) (fun g' => ?_)
    · simp [CallEvent.Ends]
    · rcases hq : b.pending with _ | q | q
      · simp [Pending.generation?]
      · have hne : q ≠ g := fun h => hp (h ▸ hq)
        simp only [CallEvent.Ends, Pending.generation?, CallEvent.marked.injEq, Option.some.injEq,
          reduceCtorEq, not_false_eq_true, true_and, false_or, false_iff, not_and]
        rintro rfl
        exact hne
      · -- The call awaits its reply already.
        simp only [CallEvent.Ends, Pending.generation?, Pending.awaiting.injEq, Option.some.injEq,
          not_false_eq_true, true_and]
        exact ⟨.inl, fun h => h.elim id And.right⟩

/-- A buffer is taken for the call that awaits its reply, which is over with that. -/
theorem fulfil (hf : b.Follows h) (data : Bytes) :
    (b.fulfil data).2.Follows (.handed data (b.fulfil data).1 :: h) := by
  unfold CallBox.fulfil
  split
  · rename_i g hp
    have hreceived : ∀ g', received g' (.handed data true :: h)
        { b with pending := .idle, replies := b.replies ++ [(g, data)] } =
          received g' h b ++ if g' = g then [data] else [] := by
      intro g'
      rw [received, List.filterMap_cons_none rfl]
      by_cases hg : g' = g
      · subst hg
        simp [received, CallBox.repliesTo]
      · simp [received, CallBox.repliesTo, hg, Ne.symm hg]
    have hmarked : ∀ g', Marked g' h ↔ g' = g := fun g' => by
      rw [← hf.marked, hp, Pending.awaiting.injEq, eq_comm]
    constructor
    · intro g'
      simp [outstanding_cons, CallEvent.Ends, Pending.generation?]
    · intro g'
      simp [marked_cons, CallEvent.Ends]
    · exact hf.issued
    · exact hf.descending
    · intro g' data'
      rw [hreceived, List.mem_append, hf.handed, handed_cons, hmarked, or_comm]
      by_cases hg : g' = g
      · simp [hg, eq_comm]
      · simp [hg]
    · intro g'
      rw [hreceived]
      by_cases hg : g' = g
      · rw [hg, hf.unanswered g (by rw [hp]; rfl)]
        simp
      · simpa [hg] using hf.once g'
    · intro g' hg
      exact nomatch hg
  · exact hf.of_same rfl (fun _ => rfl) (fun _ => Bool.false_ne_true) (fun _ => nofun)

theorem finish (hf : b.Follows h) (g : Nat) : (b.finish g).Follows (.finished g :: h) := by
  unfold CallBox.finish
  split_ifs with hp
  · refine hf.of_quiet rfl rfl rfl (fun _ => rfl) (fun _ => nofun) (fun g' => ?_) (fun g' => ?_)
    · rw [hp]
      simp [CallEvent.Ends, Pending.generation?]
    · have hq : b.pending = .awaiting g' → g = g' := fun hq => by
        rw [hq] at hp
        exact (Option.some.inj hp).symm
      simp only [CallEvent.Ends, reduceCtorEq, false_and, or_false, false_iff, not_and]
      exact fun hne hq' => hne (hq hq')
  · refine hf.of_quiet rfl rfl rfl (fun _ => rfl) (fun _ => nofun) (fun g' => ?_) (fun g' => ?_)
    · simp only [CallEvent.Ends, iff_and_self]
      rintro hg rfl
      exact hp hg
    · simp only [CallEvent.Ends, reduceCtorEq, false_and, or_false, iff_and_self]
      rintro hq rfl
      exact hp (by rw [hq]; rfl)

theorem cancel (hf : b.Follows h) : b.cancel.Follows (.cancelled :: h) := by
  refine hf.of_quiet rfl rfl rfl (fun _ => rfl) (fun _ => nofun) (fun g => ?_) (fun g => ?_)
  · simp [CallBox.cancel, CallEvent.Ends, Pending.generation?]
  · simp [CallBox.cancel, CallEvent.Ends]

/-- There is room for one reply only: one that is there to be collected is all that has come. -/
theorem alone (hf : b.Follows h) {data : Bytes} (hd : data ∈ b.repliesTo g) :
    h.filterMap (CallEvent.reply? g) = [] ∧ b.repliesTo g = [data] := by
  have honce := hf.once g
  unfold received at honce
  rw [List.length_append] at honce
  have hpos := List.length_pos_of_mem hd
  refine ⟨List.eq_nil_of_length_eq_zero (by omega), ?_⟩
  obtain ⟨data', hdata'⟩ := List.length_eq_one_iff.mp (show (b.repliesTo g).length = 1 by omega)
  rw [hdata', List.mem_singleton] at hd
  rw [hdata', hd]

/-- A reply that is collected moves from the box into the history. -/
theorem received_collect (hf : b.Follows h) {g : Nat} {data : Bytes}
    (hl : b.replies.lookup g = some data) (g' : Nat) :
    received g' (.collected g (.reply data) :: h)
      { b with replies := b.replies.filter (·.1 != g) } = received g' h b := by
  by_cases hg : g = g'
  · subst hg
    obtain ⟨hhistory, hbox⟩ := hf.alone (CallBox.mem_repliesTo_of_lookup hl)
    have hgone : CallBox.repliesTo { b with replies := b.replies.filter (·.1 != g) } g = [] := by
      simp [CallBox.repliesTo]
    rw [received, received, hhistory, hbox, hgone,
      List.filterMap_cons_some (show CallEvent.reply? g (.collected g (.reply data)) = some data by
        simp [CallEvent.reply?]), hhistory]
    rfl
  · have hother : CallBox.repliesTo { b with replies := b.replies.filter (·.1 != g) } g' =
        b.repliesTo g' := by
      unfold CallBox.repliesTo
      rw [List.filter_filter]
      congr 2
      funext r
      by_cases hr : r.1 = g'
      · simp [hr, Ne.symm hg]
      · simp [hr]
    rw [received, received, hother, List.filterMap_cons_none (by simp [CallEvent.reply?, hg])]

theorem collect (hf : b.Follows h) (g : Nat) :
    (b.collect g).2.Follows (.collected g (b.collect g).1 :: h) := by
  unfold CallBox.collect
  split
  · rename_i data hl
    have hreceived := hf.received_collect hl
    constructor
    · intro g'
      rw [outstanding_cons]
      simpa [CallEvent.Ends] using hf.outstanding g'
    · intro g'
      rw [marked_cons]
      simpa [CallEvent.Ends] using hf.marked g'
    · exact hf.issued
    · exact hf.descending
    · intro g' data'
      rw [hreceived, hf.handed, handed_cons]
      simp
    · intro g'
      rw [hreceived]
      exact hf.once g'
    · intro g' hg
      rw [hreceived]
      exact hf.unanswered g' hg
  · refine hf.of_same rfl (fun _ => ?_) (fun _ => id) (fun _ => nofun)
    split_ifs <;> rfl

/-- **Every step keeps the box in agreement with its history.** -/
theorem step (hf : b.Follows h) (s : CallStep) : (b.step s).2.Follows ((b.step s).1 :: h) := by
  cases s with
  | start => exact hf.start
  | markSent g => exact hf.markSent g
  | fulfil data => exact hf.fulfil data
  | finish g => exact hf.finish g
  | cancel => exact hf.cancel
  | collect g => exact hf.collect g

/-- A caller finds the reply that was handed in for him, until he has collected it. -/
theorem collect_eq_reply (hf : b.Follows h) (g : Nat) (data : Bytes) :
    (b.collect g).1 = .reply data ↔
      Handed g data h ∧ ∀ data', .collected g (.reply data') ∉ h := by
  have hcollected : h.filterMap (CallEvent.reply? g) = [] ↔
      ∀ data', .collected g (.reply data') ∉ h := by
    rw [List.filterMap_eq_nil_iff]
    constructor
    · intro hnone data' hmem
      simpa [CallEvent.reply?] using hnone _ hmem
    · intro hnone e he
      unfold CallEvent.reply?
      split
      · rename_i g' data'
        rw [if_neg]
        rintro rfl
        exact hnone data' he
      · rfl
  rw [← hcollected, ← hf.handed]
  unfold CallBox.collect
  cases hl : b.replies.lookup g with
  | some data' =>
    obtain ⟨hhistory, hbox⟩ := hf.alone (CallBox.mem_repliesTo_of_lookup hl)
    simp [received, hhistory, hbox, eq_comm]
  | none =>
    have hbox := CallBox.repliesTo_of_lookup_eq_none hl
    rw [received, hbox, List.append_nil]
    constructor
    · split_ifs <;> exact nofun
    · rintro ⟨hmem, hnil⟩
      rw [hnil] at hmem
      exact nomatch hmem

end CallBox.Follows

/-! ### Whole histories -/

/-- **The box agrees with its history,** whatever the steps were. -/
theorem CallBox.follows_history (steps : List CallStep) :
    (CallBox.history steps).2.Follows (CallBox.history steps).1 := by
  induction steps using List.reverseRecOn with
  | nil => exact .nil
  | append_singleton steps s ih =>
    unfold CallBox.history at ih ⊢
    rw [List.foldl_append]
    exact ih.step s

/-- **A box answers as its history asks for.**  Whatever steps were taken, by whomever and for
whatever generations:

* a call can begin exactly when none is outstanding, and the calls that began have ascending
  generations;
* the caller of a generation gets one buffer at most, and gets exactly what was taken for his call
  while that was outstanding and marked: he finds it when he looks, if he has not collected it;
* a buffer that is offered is taken exactly when the outstanding call is marked;
* a mark or an end that comes for another call than the outstanding one changes nothing. -/
theorem CallBox.answers_by_history (steps : List CallStep) :
    let h := (CallBox.history steps).1
    let b := (CallBox.history steps).2
    (b.start?.isSome = true ↔ ∀ g, ¬ Outstanding g h) ∧
    (h.filterMap CallEvent.started?).Pairwise (· > ·) ∧
    (∀ g, (received g h b).length ≤ 1 ∧ ∀ data,
      (data ∈ received g h b ↔ Handed g data h) ∧
      ((b.collect g).1 = .reply data ↔
        Handed g data h ∧ ∀ data', .collected g (.reply data') ∉ h)) ∧
    (∀ data, (b.fulfil data).1 = true ↔ ∃ g, Outstanding g h ∧ Marked g h) ∧
    ∀ g, ¬ Outstanding g h → b.markSent g = b ∧ b.finish g = b := by
  intro h b
  have hf : b.Follows h := follows_history steps
  refine ⟨?_, hf.descending, fun g => ⟨hf.once g, fun data => ⟨hf.handed g data, ?_⟩⟩,
    fun data => ?_, fun g hg => ?_⟩
  · simp only [← hf.outstanding]
    rcases hp : b.pending with _ | g | g <;> simp [CallBox.start?, hp, Pending.generation?]
  · exact hf.collect_eq_reply g data
  · have hboth : (∃ g, Outstanding g h ∧ Marked g h) ↔ ∃ g, b.pending = .awaiting g := by
      simp only [hf.marked]
      exact ⟨fun ⟨g, _, hm⟩ => ⟨g, hm⟩, fun ⟨g, hm⟩ => ⟨g, hm.outstanding, hm⟩⟩
    rw [hboth]
    rcases hp : b.pending with _ | g | g <;> simp [CallBox.fulfil, hp]
  · rw [← hf.outstanding] at hg
    refine ⟨if_neg fun hq => hg ?_, if_neg hg⟩
    rw [hq]
    rfl

end Switchboard
