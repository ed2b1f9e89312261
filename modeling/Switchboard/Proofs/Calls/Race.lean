import Switchboard.Protocol.Script
import Switchboard.Proofs.Calls.Boxes
import Switchboard.Proofs.Calls.History

/-!
# A blocking write among other threads

The caller of a blocking write takes several steps: he begins the call, queues the buffer, waits for
the reply, looks once more when the time is up, and ends the call.  Between any two of them other
threads may take steps on the calls of the same channel: one of them sends what is queued and reads
the reply.  A `Race` is what they share, with the place where the caller stands.

A reply may be lost (`not_everyReplyReturned`).  The caller looks for the last time, then a reply is
handed in, and only then the call is ended: nobody else gets that reply, and he does not return it.
There is no other way.  A reply that is handed in before the caller has looked for the last time is
what he returns (`Race.returned_of_fulfilled`).
-/

namespace Switchboard

open Net

/-! ### The caller -/

/-- What a blocking write returns: a reply, or none, or a reason why it was not accepted. -/
abbrev WriteOutcome :=
  Except Error (Option Bytes)

/-- **Where the caller of a blocking write stands,** with the generation of his call. -/
inductive Stage where
  | ready
  /-- The call has begun, and the buffer is not queued yet. -/
  | begun (generation : Nat)
  /-- The buffer is queued, and the reply is waited for. -/
  | waiting (generation : Nat)
  /-- The time is up, and the caller has not looked since. -/
  | late (generation : Nat)
  /-- The buffer was not queued, and the call is to be ended. -/
  | turnedAway (generation : Nat) (outcome : WriteOutcome)
  /-- The caller has looked for the last time, and the call is to be ended. -/
  | leaving (generation : Nat) (outcome : WriteOutcome)
  /-- The write has returned. -/
  | returned (outcome : WriteOutcome)

namespace Stage

/-- The generation of a call that has begun and that its caller has not ended. -/
def generation? : Stage → Option Nat
  | .begun g | .waiting g | .late g | .turnedAway g _ | .leaving g _ => some g
  | .ready | .returned _ => none

/-- Was the buffer queued? -/
def isQueued : Stage → Bool
  | .waiting _ | .late _ | .leaving _ _ => true
  | _ => false

/-- May another thread take the step?  The write of the call is not sent before it is queued, and
nobody but the caller ends the call by its generation or collects its reply. -/
def Admits (s : Stage) : CallStep → Prop
  | .markSent g => s.generation? = some g → s.isQueued = true
  | .finish g | .collect g => s.generation? ≠ some g
  | .start | .fulfil _ | .cancel => True

instance (s : Stage) (t : CallStep) : Decidable (s.Admits t) := by
  unfold Admits
  cases t <;> infer_instance

end Stage

/-! ### The race -/

/-- **What the caller and the other threads share:** the calls of a channel. -/
structure Race where
  channel : ChannelId
  box : CallBox
  stage : Stage := .ready

/-- **A step of the caller or of another thread.** -/
inductive RaceStep where
  /-- The caller begins the call. -/
  | begin
  /-- The buffer is queued. -/
  | queue
  /-- The buffer can go nowhere and is dropped. -/
  | drop
  /-- The buffer is refused. -/
  | refuse (e : Error)
  /-- The wait ends with a reply, or because the call is over. -/
  | hear
  /-- The wait ends because the time is up. -/
  | expire
  /-- The caller looks once more. -/
  | look
  /-- The caller ends the call and returns. -/
  | leave
  /-- Another thread takes a step on the calls of the channel. -/
  | other (s : CallStep)

namespace Race

/-- The race after a step, if that can be taken. -/
def act (r : Race) (a : RaceStep) : Option Race :=
  match a, r.stage with
  | .begin, .ready =>
    match r.box.start? with
    | some (g, b) => some { r with box := b, stage := .begun g }
    | none => some { r with stage := .returned (.error (.callInProgress r.channel)) }
  | .queue, .begun g => some { r with stage := .waiting g }
  | .drop, .begun g => some { r with stage := .turnedAway g (.ok none) }
  | .refuse e, .begun g => some { r with stage := .turnedAway g (.error e) }
  | .hear, .waiting g =>
    match r.box.collect g with
    | (.reply data, b) => some { r with box := b, stage := .leaving g (.ok (some data)) }
    | (.over, _) => some { r with stage := .leaving g (.ok none) }
    | (.outstanding, _) => none
  | .expire, .waiting g => some { r with stage := .late g }
  | .look, .late g =>
    match r.box.collect g with
    | (.reply data, b) => some { r with box := b, stage := .leaving g (.ok (some data)) }
    | _ => some { r with stage := .leaving g (.ok none) }
  | .leave, .turnedAway g outcome | .leave, .leaving g outcome =>
    some { r with box := r.box.finish g, stage := .returned outcome }
  | .other s, stage => if stage.Admits s then some { r with box := (r.box.step s).2 } else none
  | _, _ => none

/-- The race after some steps, if they can be taken one after the other. -/
def run (r : Race) (steps : List RaceStep) : Option Race :=
  steps.foldlM act r

/-- A race on the calls of a channel on which some steps were taken before. -/
def opening (channel : ChannelId) (earlier : List CallStep) : Race :=
  { channel, box := (CallBox.history earlier).2 }

theorem act_other (r : Race) (a : CallStep) : r.act (.other a) =
    if r.stage.Admits a then some { r with box := (r.box.step a).2 } else none :=
  rfl

theorem run_cons {r t : Race} {a : RaceStep} {steps : List RaceStep} :
    r.run (a :: steps) = some t ↔ ∃ s, r.act a = some s ∧ s.run steps = some t := by
  unfold run
  rw [List.foldlM_cons]
  exact Option.bind_eq_some_iff

/-! ### What other threads do to the box -/

end Race

namespace CallBox

variable {b : CallBox} {g : Nat}

/-- A call begins, or nothing changes. -/
theorem box_start (b : CallBox) :
    (b.step .start).2 = { b with pending := .queued (b.issued + 1), issued := b.issued + 1 } ∨
      (b.step .start).2 = b := by
  unfold step start?
  rcases hp : b.pending with _ | g | g
  · exact .inl rfl
  all_goals exact .inr rfl

theorem issued_step (b : CallBox) (s : CallStep) : b.issued ≤ (b.step s).2.issued := by
  cases s with
  | start =>
    rcases b.box_start with heq | heq
    · exact Nat.le_trans (Nat.le_succ b.issued) (Nat.le_of_eq (congrArg CallBox.issued heq).symm)
    · exact Nat.le_of_eq (congrArg CallBox.issued heq).symm
  | markSent g => unfold step markSent; dsimp only; split_ifs <;> exact Nat.le_refl _
  | fulfil data => unfold step fulfil; dsimp only; split <;> exact Nat.le_refl _
  | finish g => unfold step finish; dsimp only; split_ifs <;> exact Nat.le_refl _
  | cancel => exact Nat.le_refl _
  | collect g => unfold step collect; dsimp only; split <;> exact Nat.le_refl _

/-- A call that is outstanding after a step was so before, or has just begun. -/
theorem generation_step {s : CallStep} (h : (b.step s).2.pending.generation? = some g) :
    b.pending.generation? = some g ∨ g = b.issued + 1 := by
  cases s with
  | start =>
    rcases b.box_start with heq | heq <;> rw [heq] at h
    · exact .inr (Option.some.inj h).symm
    · exact .inl h
  | markSent g' =>
    unfold step markSent at h
    dsimp only at h
    split_ifs at h with hp
    · rw [hp]
      exact .inl h
    · exact .inl h
  | fulfil data =>
    unfold step fulfil at h
    dsimp only at h
    split at h
    · exact nomatch h
    · exact .inl h
  | finish g' =>
    unfold step finish at h
    dsimp only at h
    split_ifs at h
    · exact nomatch h
    · exact .inl h
  | cancel => exact nomatch h
  | collect g' =>
    unfold step collect at h
    dsimp only at h
    split at h <;> exact .inl h

/-- A call that awaits its reply after a step did so before, or was marked by the step. -/
theorem awaiting_step {s : CallStep} (h : (b.step s).2.pending = .awaiting g) :
    b.pending = .awaiting g ∨ s = .markSent g := by
  cases s with
  | start =>
    rcases b.box_start with heq | heq <;> rw [heq] at h
    · exact nomatch h
    · exact .inl h
  | markSent g' =>
    rcases pending_markSent h with hp | rfl
    · exact .inl hp
    · exact .inr rfl
  | fulfil data =>
    unfold step fulfil at h
    dsimp only at h
    split at h
    · exact nomatch h
    · exact .inl h
  | finish g' => exact .inl ((calmer_finish g' b).awaiting g h)
  | cancel => exact nomatch h
  | collect g' => exact .inl ((calmer_collect g' b).awaiting g h)

/-- A reply stays until it is collected. -/
theorem lookup_step {s : CallStep} {data : Bytes} (hl : b.replies.lookup g = some data)
    (hs : s ≠ .collect g) : (b.step s).2.replies.lookup g = some data := by
  cases s with
  | start =>
    rcases b.box_start with heq | heq <;> rw [heq] <;> exact hl
  | markSent g' =>
    rw [← b.replies_markSent g'] at hl
    exact hl
  | fulfil data' =>
    unfold step fulfil
    dsimp only
    split
    · rw [List.lookup_append, hl, Option.some_or]
    · exact hl
  | finish g' =>
    unfold step finish
    dsimp only
    split_ifs <;> exact hl
  | cancel => exact hl
  | collect g' =>
    have hne : g' ≠ g := fun h => hs (h ▸ rfl)
    unfold step collect
    dsimp only
    split
    · obtain ⟨before, after, hsplit, hbefore⟩ := List.lookup_eq_some_iff.mp hl
      refine List.lookup_eq_some_iff.mpr
        ⟨before.filter (·.1 != g'), after.filter (·.1 != g'), ?_, fun r hr => ?_⟩
      · simp [hsplit, Ne.symm hne]
      · exact hbefore r (List.mem_filter.mp hr).1
    · exact hl

end CallBox

namespace Race

variable {r s t : Race} {g : Nat}

/-! ### What is true throughout a race -/

/-- **The box has a history, and agrees with where the caller stands:** before his buffer is queued
his call awaits nothing, and if he leaves with a reply his call is over. -/
structure Sound (r : Race) : Prop where
  follows : ∃ h, r.box.Follows h
  issued : ∀ g, r.stage.generation? = some g → g ≤ r.box.issued
  early : ∀ g, r.stage.generation? = some g → r.stage.isQueued = false → r.box.pending ≠ .awaiting g
  empty : ∀ g outcome, r.stage = .leaving g outcome → r.box.pending.generation? = some g →
    outcome = .ok none

theorem sound_opening (channel : ChannelId) (earlier : List CallStep) :
    (opening channel earlier).Sound where
  follows := ⟨_, CallBox.follows_history earlier⟩
  issued _ hg := nomatch hg
  early _ hg := nomatch hg
  empty _ _ hs := nomatch hs

/-- A step of another thread does not disturb the caller. -/
theorem Sound.other (h : r.Sound) {a : CallStep} (ha : r.stage.Admits a) :
    Sound { r with box := (r.box.step a).2 } where
  follows := by
    obtain ⟨past, hf⟩ := h.follows
    exact ⟨_, hf.step a⟩
  issued g hg := Nat.le_trans (h.issued g hg) (r.box.issued_step a)
  early g hg hq hp := by
    rcases CallBox.awaiting_step hp with hp | rfl
    · exact h.early g hg hq hp
    · -- Nobody marks a write that is not queued.
      exact absurd ((hq.symm.trans (ha hg)) : false = true) Bool.false_ne_true
  empty g outcome hs hp := by
    rcases CallBox.generation_step hp with hp | hnew
    · exact h.empty g outcome hs hp
    · -- A call that begins has a generation of its own.
      have hle : g ≤ r.box.issued := h.issued g (by rw [hs]; rfl)
      omega

/-- Who begins a call has a generation that was not issued before. -/
theorem Sound.begin (h : r.Sound) {b : CallBox} (hb : r.box.start? = some (g, b)) :
    Sound { r with box := b, stage := .begun g } := by
  have hstep : r.box.step .start = (.started g, b) := by
    unfold CallBox.step
    rw [hb]
  obtain ⟨past, hf⟩ := h.follows
  have hfollows := hf.step .start
  rw [hstep] at hfollows
  unfold CallBox.start? at hb
  split at hb
  · obtain ⟨rfl, rfl⟩ := Prod.mk.inj (Option.some.inj hb)
    exact ⟨⟨_, hfollows⟩, fun g hg => Nat.le_of_eq (Option.some.inj hg).symm, fun _ _ _ => nofun,
      fun _ _ hs => nomatch hs⟩
  · exact nomatch hb

/-- Who finds the reply leaves with it, and his call is over. -/
theorem Sound.collect (h : r.Sound) (hg : r.stage.generation? = some g) {data : Bytes} {b : CallBox}
    (hc : r.box.collect g = (.reply data, b)) :
    Sound { r with box := b, stage := .leaving g (.ok (some data)) } := by
  obtain ⟨past, hf⟩ := h.follows
  have hstep : (r.box.step (.collect g)).2 = b := congrArg Prod.snd hc
  have hfollows := hf.step (.collect g)
  rw [hstep] at hfollows
  have hissued := r.box.issued_step (.collect g)
  rw [hstep] at hissued
  refine ⟨⟨_, hfollows⟩, fun g' hg' => ?_, fun _ _ hq => absurd hq (by simp [Stage.isQueued]),
    fun g' outcome hs hp => ?_⟩
  · obtain rfl : g = g' := Option.some.inj hg'
    exact Nat.le_trans (h.issued g hg) hissued
  · obtain ⟨rfl, -⟩ := Stage.leaving.inj hs
    -- While the call is outstanding, no reply lies there for it.
    have hreply : (r.box.collect g).1 = .reply data := congrArg Prod.fst hc
    have hhanded := ((hf.collect_eq_reply g data).mp hreply).1
    have hmem := (hf.handed g data).mpr hhanded
    have hout : r.box.pending.generation? = some g := by
      rw [← hstep] at hp
      rcases CallBox.generation_step hp with hp | hnew
      · exact hp
      · have hle := h.issued g hg
        omega
    rw [hf.unanswered g hout] at hmem
    exact nomatch hmem

/-- Who finds no reply leaves with none. -/
theorem Sound.giveUp (h : r.Sound) (hg : r.stage.generation? = some g) :
    Sound { r with stage := .leaving g (.ok none) } where
  follows := h.follows
  issued g' hg' := by
    obtain rfl : g = g' := Option.some.inj hg'
    exact h.issued g hg
  early _ _ hq := absurd hq (by simp [Stage.isQueued])
  empty _ _ hs _ := (Stage.leaving.inj hs).2.symm

/-- Going on to another stage of the same call, other than the last one. -/
theorem Sound.goOn (h : r.Sound) {stage : Stage} (hg : stage.generation? = r.stage.generation?)
    (hq : stage.isQueued = true ∨ r.stage.isQueued = false)
    (hl : ∀ g outcome, stage ≠ .leaving g outcome) : Sound { r with stage } where
  follows := h.follows
  issued g hg' := h.issued g (hg ▸ hg')
  early g hg' hq' := by
    rcases hq with hq | hq
    · exact absurd (hq'.symm.trans hq) Bool.false_ne_true
    · exact h.early g (hg ▸ hg') hq
  empty g outcome hs := absurd hs (hl g outcome)

theorem sound_returned {b : CallBox} {past : List CallEvent} (hb : b.Follows past)
    (outcome : WriteOutcome) : Sound { r with box := b, stage := .returned outcome } where
  follows := ⟨past, hb⟩
  issued _ hg := nomatch hg
  early _ hg := nomatch hg
  empty _ _ hs := nomatch hs

/-- **Every step keeps the race sound.** -/
theorem Sound.act (h : r.Sound) {a : RaceStep} (ha : r.act a = some s) : s.Sound := by
  obtain ⟨past, hf⟩ := h.follows
  unfold Race.act at ha
  split at ha
  case h_1 hstage =>
    split at ha <;> obtain rfl := Option.some.inj ha
    · rename_i hb
      exact h.begin hb
    · exact sound_returned hf _
  case h_2 g hstage =>
    obtain rfl := Option.some.inj ha
    exact h.goOn (by rw [hstage]; rfl) (.inl rfl) fun _ _ => nofun
  case h_3 g hstage =>
    obtain rfl := Option.some.inj ha
    exact h.goOn (by rw [hstage]; rfl) (.inr (by rw [hstage]; rfl)) fun _ _ => nofun
  case h_4 e g hstage =>
    obtain rfl := Option.some.inj ha
    exact h.goOn (by rw [hstage]; rfl) (.inr (by rw [hstage]; rfl)) fun _ _ => nofun
  case h_5 g hstage =>
    have hg : r.stage.generation? = some g := by rw [hstage]; rfl
    split at ha
    · rename_i hc
      obtain rfl := Option.some.inj ha
      exact h.collect hg hc
    · obtain rfl := Option.some.inj ha
      exact h.giveUp hg
    · exact nomatch ha
  case h_6 g hstage =>
    obtain rfl := Option.some.inj ha
    exact h.goOn (by rw [hstage]; rfl) (.inl rfl) fun _ _ => nofun
  case h_7 g hstage =>
    have hg : r.stage.generation? = some g := by rw [hstage]; rfl
    split at ha <;> obtain rfl := Option.some.inj ha
    · rename_i hc
      exact h.collect hg hc
    · exact h.giveUp hg
  case h_8 g outcome hstage =>
    obtain rfl := Option.some.inj ha
    exact sound_returned (hf.finish g) outcome
  case h_9 g outcome hstage =>
    obtain rfl := Option.some.inj ha
    exact sound_returned (hf.finish g) outcome
  case h_10 =>
    split_ifs at ha with hadmits
    obtain rfl := Option.some.inj ha
    exact h.other hadmits
  case h_11 => exact nomatch ha

theorem Sound.run (h : r.Sound) {steps : List RaceStep} (hrun : r.run steps = some s) : s.Sound := by
  induction steps generalizing r with
  | nil => exact Option.some.inj hrun ▸ h
  | cons a steps ih =>
    obtain ⟨r', ha, hrest⟩ := run_cons.mp hrun
    exact ih (h.act ha) hrest

/-! ### What the write returns -/

/-- **It is decided what the write returns.** -/
def Decided (outcome : WriteOutcome) (r : Race) : Prop :=
  match r.stage with
  | .turnedAway _ o | .leaving _ o | .returned o => o = outcome
  | _ => False

/-- What is decided stays so. -/
theorem Decided.act {outcome : WriteOutcome} (h : r.Decided outcome) {a : RaceStep}
    (ha : r.act a = some s) : s.Decided outcome := by
  unfold Race.act at ha
  unfold Decided at h
  split at ha
  case h_8 g o hstage =>
    obtain rfl := Option.some.inj ha
    rw [hstage] at h
    exact h
  case h_9 g o hstage =>
    obtain rfl := Option.some.inj ha
    rw [hstage] at h
    exact h
  case h_10 =>
    split_ifs at ha
    obtain rfl := Option.some.inj ha
    exact h
  case h_11 => exact nomatch ha
  all_goals
    rename_i hstage
    rw [hstage] at h
    exact h.elim

/-- **The reply is there for the caller, or he has taken it.** -/
def Kept (g : Nat) (data : Bytes) (r : Race) : Prop :=
  (r.stage = .waiting g ∨ r.stage = .late g) ∧ r.box.replies.lookup g = some data ∨
    r.Decided (.ok (some data))

/-- Who looks finds a reply that is there. -/
theorem collect_of_lookup {b : CallBox} {data : Bytes} (hl : b.replies.lookup g = some data) :
    (b.collect g).1 = .reply data := by
  unfold CallBox.collect
  rw [hl]

/-- **A reply that is there stays there until the caller takes it.** -/
theorem Kept.act {data : Bytes} (h : r.Kept g data) {a : RaceStep} (ha : r.act a = some s) :
    s.Kept g data := by
  rcases h with ⟨hstage, hl⟩ | hdecided
  · have hreply := collect_of_lookup hl
    have hown : ∀ g', r.stage = .waiting g' ∨ r.stage = .late g' → g' = g := by
      rintro g' (h | h) <;> rcases hstage with h' | h' <;> cases h.symm.trans h' <;> rfl
    unfold Race.act at ha
    split at ha
    case h_5 g' hwaiting =>
      obtain rfl := hown g' (.inl hwaiting)
      split at ha
      · rename_i data' b hc
        obtain rfl := Option.some.inj ha
        rw [hc] at hreply
        exact .inr (congrArg (fun d => Except.ok (some d)) (Receipt.reply.inj hreply))
      · rename_i hc
        rw [hc] at hreply
        exact nomatch hreply
      · exact nomatch ha
    case h_6 g' hwaiting =>
      obtain rfl := hown g' (.inl hwaiting)
      obtain rfl := Option.some.inj ha
      exact .inl ⟨.inr rfl, hl⟩
    case h_7 g' hlate =>
      obtain rfl := hown g' (.inr hlate)
      split at ha
      · rename_i data' b hc
        obtain rfl := Option.some.inj ha
        rw [hc] at hreply
        exact .inr (congrArg (fun d => Except.ok (some d)) (Receipt.reply.inj hreply))
      · rename_i hno
        exact (hno data _ (Prod.ext hreply rfl)).elim
    case h_10 other _ =>
      split_ifs at ha with hadmits
      obtain rfl := Option.some.inj ha
      refine .inl ⟨hstage, CallBox.lookup_step hl ?_⟩
      -- The reply is collected by the caller alone.
      rintro rfl
      rcases hstage with hs | hs <;> rw [hs] at hadmits <;> exact hadmits rfl
    case h_11 => exact nomatch ha
    all_goals
      rename_i hother
      rcases hstage with hs | hs <;> exact nomatch hs.symm.trans hother
  · exact .inr (hdecided.act ha)

theorem Kept.run {data : Bytes} (h : r.Kept g data) {steps : List RaceStep}
    (hrun : r.run steps = some s) : s.Kept g data := by
  induction steps generalizing r with
  | nil => exact Option.some.inj hrun ▸ h
  | cons a steps ih =>
    obtain ⟨r', ha, hrest⟩ := run_cons.mp hrun
    exact ih (h.act ha) hrest

theorem Decided.run {outcome : WriteOutcome} (h : r.Decided outcome) {steps : List RaceStep}
    (hrun : r.run steps = some s) : s.Decided outcome := by
  induction steps generalizing r with
  | nil => exact Option.some.inj hrun ▸ h
  | cons a steps ih =>
    obtain ⟨r', ha, hrest⟩ := run_cons.mp hrun
    exact ih (h.act ha) hrest

/-- **What a write returns for which a reply was handed in.**  In whatever order the steps of the
caller and of the other threads come: if a buffer is taken while the call is outstanding, the write
returns that buffer, unless the caller had looked for the last time already, and then it returns
none. -/
theorem returned_of_fulfilled {channel : ChannelId} {earlier : List CallStep}
    {before after : List RaceStep} {data : Bytes} {outcome : WriteOutcome}
    (hbefore : (opening channel earlier).run before = some s)
    (hown : s.stage.generation? = some g) (hout : s.box.pending.generation? = some g)
    (htaken : (s.box.fulfil data).1 = true)
    (hafter : s.run (.other (.fulfil data) :: after) = some t) (hend : t.stage = .returned outcome) :
    (∀ o, s.stage ≠ .leaving g o) ∧ outcome = .ok (some data) ∨
      (∃ o, s.stage = .leaving g o) ∧ outcome = .ok none := by
  have hsound := (sound_opening channel earlier).run hbefore
  obtain ⟨past, hf⟩ := hsound.follows
  have hawaiting : s.box.pending = .awaiting g := by
    unfold CallBox.fulfil at htaken
    split at htaken
    · rename_i g' hp
      rw [hp] at hout ⊢
      exact congrArg Pending.awaiting (Option.some.inj hout)
    · exact absurd htaken Bool.false_ne_true
  obtain ⟨s', hact, hrest⟩ := run_cons.mp hafter
  rw [act_other, if_pos (show s.stage.Admits (.fulfil data) from trivial)] at hact
  replace hact := (Option.some.inj hact).symm
  have hstage' : s'.stage = s.stage := by rw [hact]
  have hreturned : ∀ {o : WriteOutcome}, t.Decided o → outcome = o := by
    intro o hdecided
    unfold Decided at hdecided
    rwa [hend] at hdecided
  -- The reply is put where there was none for this call.
  have hthere : s'.box.replies.lookup g = some data := by
    have hnone : s.box.replies.lookup g = none := by
      cases hl : s.box.replies.lookup g with
      | none => rfl
      | some data' =>
        have hmem : data' ∈ received g past s.box :=
          List.mem_append_right _ (CallBox.mem_repliesTo_of_lookup hl)
        rw [hf.unanswered g hout] at hmem
        exact nomatch hmem
    rw [hact]
    unfold CallBox.step CallBox.fulfil
    rw [hawaiting]
    simp [List.lookup_append, hnone]
  have hkept : s.stage = .waiting g ∨ s.stage = .late g → outcome = .ok (some data) := by
    intro hstage
    rw [← hstage'] at hstage
    rcases Kept.run (.inl ⟨hstage, hthere⟩) hrest with ⟨hs | hs, -⟩ | hdecided
    · exact nomatch hs.symm.trans hend
    · exact nomatch hs.symm.trans hend
    · exact hreturned hdecided
  have hearly := hsound.early g hown
  cases hstage : s.stage <;> rw [hstage] at hown
  case ready => exact nomatch hown
  case returned => exact nomatch hown
  case begun => exact absurd hawaiting (hearly (by rw [hstage]; rfl))
  case turnedAway => exact absurd hawaiting (hearly (by rw [hstage]; rfl))
  case waiting g' =>
    obtain rfl : g' = g := Option.some.inj hown
    exact .inl ⟨fun _ => nofun, hkept (.inl hstage)⟩
  case late g' =>
    obtain rfl : g' = g := Option.some.inj hown
    exact .inl ⟨fun _ => nofun, hkept (.inr hstage)⟩
  case leaving g' o =>
    obtain rfl : g' = g := Option.some.inj hown
    obtain rfl := hsound.empty g' o hstage hout
    have hdecided : s'.Decided (.ok none) := by
      unfold Decided
      rw [hstage', hstage]
    exact .inr ⟨⟨_, rfl⟩, hreturned (hdecided.run hrest)⟩

/-- The reply comes when the time is up, and before the caller looks once more. -/
theorem returned_of_fulfilled_late :
    ∃ s t outcome, (opening 0 []).run [.begin, .queue, .other (.markSent 1), .expire] = some s ∧
      s.run [.other (.fulfil [7]), .look, .leave] = some t ∧ t.stage = .returned outcome ∧
      outcome = .ok (some [7]) := by
  refine ⟨_, _, _, rfl, rfl, rfl, ?_⟩
  rcases @returned_of_fulfilled _ _ 1 0 [] [.begin, .queue, .other (.markSent 1), .expire]
    [.look, .leave] [7] _ rfl rfl rfl rfl rfl rfl with ⟨-, h⟩ | ⟨⟨o, ho⟩, -⟩
  · exact h
  · exact nomatch ho

/-! ### A reply may be lost -/

/-- **Is every reply returned?**  Is a buffer that is taken while the call of a write is outstanding
what the write returns, in whatever order the steps come? -/
def EveryReplyReturned : Prop :=
  ∀ (channel : ChannelId) (earlier : List CallStep) (before after : List RaceStep) (data : Bytes)
    (s t : Race) (g : Nat) (outcome : WriteOutcome),
    (opening channel earlier).run before = some s →
    s.stage.generation? = some g → s.box.pending.generation? = some g →
    (s.box.fulfil data).1 = true →
    s.run (.other (.fulfil data) :: after) = some t → t.stage = .returned outcome →
    outcome = .ok (some data)

/-- **A reply may be lost:** the time is up, the caller looks once more, and only then the reply is
handed in.  It is taken for his call, which he has not ended yet, and he returns without it. -/
theorem not_everyReplyReturned : ¬ EveryReplyReturned := by
  intro h
  have hlost := h 0 [] [.begin, .queue, .other (.markSent 1), .expire, .look] [.leave] [7] _ _ 1
    (.ok none) rfl rfl rfl rfl rfl rfl
  exact nomatch hlost

end Race

/-! ### The last steps of a call at once -/

namespace Exchange

variable {ν : Type}

/-- The calls of a channel after they were changed, where none of another channel would be. -/
theorem call_modifyCall_self (x : Exchange ν) (c : Channel) {f : CallBox → CallBox}
    (hf : ¬ x.directory.Keeps c → f {} = {}) :
    (x.onDirectory (·.modifyCall c f)).directory.call c = f (x.directory.call c) := by
  have hcall := Directory.call_modifyCall x.directory c c f
  change (x.directory.modifyCall c f).call c = _
  rw [hcall]
  split_ifs with h
  · rfl
  · have hnot : ¬ x.directory.Keeps c := fun hk => h ⟨hk, rfl, rfl⟩
    rw [Directory.call_of_not_keeps hnot, hf hnot]

theorem call_collect (x : Exchange ν) (c : Channel) (g : Nat) :
    (x.collect c g).2.directory.call c = ((x.directory.call c).collect g).2 :=
  call_modifyCall_self x c fun hnot => by
    change ((x.directory.call c).collect g).2 = {}
    rw [Directory.call_of_not_keeps hnot]
    rfl

theorem call_finishCall (x : Exchange ν) (c : Channel) (g : Nat) :
    (x.finishCall c g).directory.call c = (x.directory.call c).finish g :=
  call_modifyCall_self x c fun _ => rfl

theorem call_endCall (x : Exchange ν) (c : Channel) (g : Nat) (answered : Bool) :
    (x.endCall c g answered).directory.call c = (x.directory.call c).finish g := by
  unfold endCall
  dsimp only
  split_ifs
  · exact call_finishCall x c g
  · obtain ⟨_, _, heq⟩ := armPending_eq (x.finishCall c g)
    rw [heq]
    exact call_finishCall x c g

/-- **Hanging up is looking once more and leaving,** with nobody in between. -/
theorem run_look_leave [Network ν] (x : Exchange ν) (c : Channel) (g : Nat) :
    Race.run ⟨c.id, x.directory.call c, .late g⟩ [.look, .leave] =
      some ⟨c.id, (x.hangUp c g).2.directory.call c, .returned (.ok (x.hangUp c g).1)⟩ := by
  have hbox := call_collect x c g
  have hreceipt : (x.collect c g).1 = ((x.directory.call c).collect g).1 := rfl
  unfold hangUp
  generalize x.collect c g = answer at hbox hreceipt ⊢
  obtain ⟨receipt, y⟩ := answer
  have hcollect : (x.directory.call c).collect g = (receipt, y.directory.call c) :=
    Prod.ext hreceipt.symm hbox.symm
  -- Where there is no reply, looking leaves the calls as they are.
  have hsame : (∀ data, receipt ≠ .reply data) → x.directory.call c = y.directory.call c := by
    intro hno
    unfold CallBox.collect at hcollect
    split at hcollect
    · exact absurd (congrArg Prod.fst hcollect).symm (hno _)
    · exact congrArg Prod.snd hcollect
  refine Race.run_cons.mpr ?_
  unfold Race.act
  simp only [hcollect]
  cases receipt with
  | reply data =>
    dsimp only
    rw [call_endCall]
    exact ⟨_, rfl, rfl⟩
  | _ =>
    dsimp only
    rw [call_endCall, hsame fun _ => nofun]
    exact ⟨_, rfl, rfl⟩

end Exchange

end Switchboard
