import Switchboard.Proofs.Step.Basic

/-!
# The call boxes of a directory

Every channel ever made has a call box.  Linking, moving and letting go do not touch it, and flags
and last senders are kept beside it, so it changes only where a call is begun, marked, answered,
ended or collected.

Most of what happens to a box makes it *calmer* (`CallBox.Calmer`): whoever awaits a reply did so
before, and no new reply lies there.  Only a mark and an answer do more than that.
-/

namespace Switchboard

open Net

namespace CallBox

/-! ### Calmer boxes -/

/-- **No call of the box has got farther:** who awaits a reply did so before, and no reply has
come. -/
structure Calmer (b b' : CallBox) : Prop where
  awaiting : ∀ g, b'.pending = .awaiting g → b.pending = .awaiting g
  replies : b'.replies ⊆ b.replies

namespace Calmer

theorem refl (b : CallBox) : Calmer b b :=
  ⟨fun _ => id, List.Subset.refl _⟩

theorem trans {b b' b'' : CallBox} (h : Calmer b b') (h' : Calmer b' b'') : Calmer b b'' :=
  ⟨fun g hg => h.awaiting g (h'.awaiting g hg), List.Subset.trans h'.replies h.replies⟩

end Calmer

theorem calmer_start? {b b' : CallBox} {g : Nat} (h : b.start? = some (g, b')) : Calmer b b' := by
  unfold start? at h
  split at h
  · obtain ⟨rfl, rfl⟩ := Prod.mk.inj (Option.some.inj h)
    exact ⟨fun _ => nofun, List.Subset.refl _⟩
  · exact nomatch h

theorem calmer_cancel (b : CallBox) : Calmer b b.cancel :=
  ⟨fun _ => nofun, List.Subset.refl _⟩

theorem calmer_finish (g : Nat) (b : CallBox) : Calmer b (b.finish g) := by
  unfold finish
  split_ifs
  · exact b.calmer_cancel
  · exact .refl b

theorem calmer_collect (g : Nat) (b : CallBox) : Calmer b (b.collect g).2 := by
  unfold collect
  split
  · exact ⟨fun _ => id, List.filter_subset_self _⟩
  · exact .refl b

theorem replies_markSent (g : Nat) (b : CallBox) : (b.markSent g).replies = b.replies := by
  unfold markSent
  split_ifs <;> rfl

/-- Only the call that is marked begins to await its reply. -/
theorem pending_markSent {g g' : Nat} {b : CallBox} (h : (b.markSent g).pending = .awaiting g') :
    b.pending = .awaiting g' ∨ g' = g := by
  unfold markSent at h
  split_ifs at h
  · exact .inr (Pending.awaiting.inj h).symm
  · exact .inl h

end CallBox

namespace Directory

/-! ### The box of a channel -/

/-- The blocking calls of a channel. -/
def call (d : Directory) (c : Channel) : CallBox :=
  (d.status c).call

/-- Does the directory keep the state of the channel? -/
def Keeps (d : Directory) (c : Channel) : Prop :=
  c.home = d.home ∧ c.id < d.statuses.length

instance (d : Directory) (c : Channel) : Decidable (d.Keeps c) :=
  inferInstanceAs (Decidable (_ ∧ _))

theorem keeps_of_mem {d : Directory} (h : d.core.Numbered) {e : Entry} (he : e ∈ d.entries) :
    d.Keeps e.channel :=
  ⟨h.home e he, Nat.lt_of_lt_of_eq (h.below e he) (List.length_map _)⟩

/-- Whose state is kept is told by the core. -/
theorem keeps_of_core {d d' : Directory} (h : d'.core = d.core) (c : Channel) :
    d'.Keeps c ↔ d.Keeps c := by
  have hlength : ∀ d : Directory, d.core.senders.length = d.statuses.length :=
    fun d => List.length_map _
  unfold Keeps
  rw [← hlength, ← hlength, h, show d'.home = d.home from congrArg Core.home h]

theorem isAwaiting_iff {d : Directory} {c : Channel} :
    d.isAwaiting c = true ↔ ∃ g, (d.call c).pending = .awaiting g := by
  unfold isAwaiting CallBox.isAwaiting call
  cases (d.status c).call.pending <;> simp

/-- A box is found by the number of its channel. -/
theorem call_congr (d : Directory) {c c' : Channel} (hh : c'.home = c.home) (hid : c'.id = c.id) :
    d.call c' = d.call c := by
  unfold call status
  rw [hh, hid]

/-- There are no calls where no state is kept. -/
theorem call_of_not_keeps {d : Directory} {c : Channel} (h : ¬ d.Keeps c) : d.call c = {} := by
  unfold call status
  split_ifs with hh
  · have hlen : d.statuses.length ≤ c.id := Nat.not_lt.mp fun hlt => h ⟨hh, hlt⟩
    rw [List.getElem?_eq_none hlen]
    rfl
  · rfl

/-- Nor of a channel that is yet to be made. -/
theorem call_of_unmade {d : Directory} {c : Channel} (h : d.core.senders.length ≤ c.id) :
    d.call c = {} := by
  refine call_of_not_keeps fun hk => ?_
  rw [show d.core.senders.length = d.statuses.length from List.length_map ..] at h
  exact Nat.not_lt.mpr h hk.2

/-- The directory keeps the state of a channel that has a call outstanding. -/
theorem keeps_of_pending {d : Directory} {c : Channel} (h : (d.call c).pending ≠ .idle) :
    d.Keeps c := by
  by_contra hk
  rw [call_of_not_keeps hk] at h
  exact h rfl

/-! ### What changes a state -/

theorem status_modifyStatus (d : Directory) (c c' : Channel) (f : Status → Status) :
    (d.modifyStatus c f).status c' =
      if d.Keeps c ∧ c'.home = c.home ∧ c'.id = c.id then f (d.status c') else d.status c' := by
  unfold modifyStatus Keeps status
  by_cases hh : c.home = d.home
  · rw [if_pos hh]
    by_cases hc : c'.home = d.home
    · simp only [hh, hc, true_and, if_true, List.getElem?_modify]
      by_cases hid : c'.id = c.id
      · rw [hid]
        by_cases hlt : c.id < d.statuses.length
        · simp [hlt]
        · simp [hlt]
      · simp [hid, Ne.symm hid]
    · simp [hh, hc]
  · simp [hh]

theorem keeps_modifyStatus (c c' : Channel) (f : Status → Status) (d : Directory) :
    (d.modifyStatus c f).Keeps c' ↔ d.Keeps c' := by
  unfold modifyStatus Keeps
  split_ifs <;> simp

theorem keeps_modifyCall (c c' : Channel) (f : CallBox → CallBox) (d : Directory) :
    (d.modifyCall c f).Keeps c' ↔ d.Keeps c' :=
  keeps_modifyStatus c c' _ d

theorem entries_modifyCall (c : Channel) (f : CallBox → CallBox) (d : Directory) :
    (d.modifyCall c f).entries = d.entries :=
  congrArg Core.entries (core_modifyCall c f d)

theorem call_modifyCall (d : Directory) (c c' : Channel) (f : CallBox → CallBox) :
    (d.modifyCall c f).call c' =
      if d.Keeps c ∧ c'.home = c.home ∧ c'.id = c.id then f (d.call c') else d.call c' := by
  unfold modifyCall call
  rw [status_modifyStatus]
  split_ifs <;> rfl

/-- Flags and last senders are kept beside the box. -/
theorem call_modifyStatus (c c' : Channel) {f : Status → Status} (hf : ∀ s, (f s).call = s.call)
    (d : Directory) : (d.modifyStatus c f).call c' = d.call c' := by
  unfold call
  rw [status_modifyStatus]
  split_ifs
  · exact hf _
  · rfl

@[simp] theorem call_markReconnecting (value : Bool) (cs : List Channel) (d : Directory)
    (c : Channel) : (d.markReconnecting value cs).call c = d.call c := by
  unfold markReconnecting
  induction cs generalizing d with
  | nil => rfl
  | cons c' cs ih =>
    rw [List.foldl_cons, ih]
    exact call_modifyStatus c' c (f := fun s => { s with reconnecting := value }) (fun _ => rfl) d

@[simp] theorem call_setReconnecting (socket : SocketId) (value : Bool) (d : Directory)
    (c : Channel) : (d.setReconnecting socket value).call c = d.call c :=
  call_markReconnecting value _ d c

/-- A new channel has a new state, as it seemed to have before. -/
theorem status_append (d : Directory) (s : Subject) (r : Remote) (c : Channel) :
    (d.append s r).2.status c = d.status c := by
  unfold append status
  dsimp only
  by_cases hh : c.home = d.home
  · rw [if_pos hh, if_pos hh]
    rcases Nat.lt_trichotomy c.id d.statuses.length with hlt | heq | hgt
    · rw [List.getElem?_append_left hlt]
    · rw [heq]
      simp
    · rw [List.getElem?_eq_none (Nat.le_of_lt hgt), List.getElem?_eq_none]
      simpa [Nat.succ_le_iff] using hgt
  · rw [if_neg hh, if_neg hh]

@[simp] theorem call_append (d : Directory) (s : Subject) (r : Remote) (c : Channel) :
    (d.append s r).2.call c = d.call c :=
  congrArg Status.call (status_append d s r c)

/-! ### Links and letting go -/

theorem status_link (id : ChannelId) (socket : SocketId) (sharing : Sharing)
    (listener : Option SocketId) (d : Directory) (c : Channel) :
    (d.link id socket sharing listener).status c = d.status c := by
  unfold link
  split <;> rfl

@[simp] theorem call_link (id : ChannelId) (socket : SocketId) (sharing : Sharing)
    (listener : Option SocketId) (d : Directory) (c : Channel) :
    (d.link id socket sharing listener).call c = d.call c :=
  congrArg Status.call (status_link id socket sharing listener d c)

theorem keeps_link (id : ChannelId) (socket : SocketId) (sharing : Sharing)
    (listener : Option SocketId) (d : Directory) (c : Channel) :
    (d.link id socket sharing listener).Keeps c ↔ d.Keeps c := by
  unfold link
  split <;> rfl

@[simp] theorem call_unlink (socket : SocketId) (d : Directory) (c : Channel) :
    (d.unlink socket).call c = d.call c :=
  call_setReconnecting socket false d c

@[simp] theorem call_unlinkAll (d : Directory) (c : Channel) : d.unlinkAll.call c = d.call c :=
  call_markReconnecting false _ d c

/-! ### Calmer directories -/

/-- **No call has got farther** in any box. -/
def Calmer (d d' : Directory) : Prop :=
  ∀ c, (d.call c).Calmer (d'.call c)

namespace Calmer

variable {d d' d'' : Directory}

theorem refl (d : Directory) : Calmer d d :=
  fun c => .refl (d.call c)

theorem trans (h : Calmer d d') (h' : Calmer d' d'') : Calmer d d'' :=
  fun c => (h c).trans (h' c)

theorem of_eq (h : ∀ c, d'.call c = d.call c) : Calmer d d' :=
  fun c => h c ▸ .refl _

/-- Who awaits a reply did so before. -/
theorem isAwaiting (h : Calmer d d') {c : Channel} (ha : d'.isAwaiting c = true) :
    d.isAwaiting c = true := by
  obtain ⟨g, hg⟩ := isAwaiting_iff.mp ha
  exact isAwaiting_iff.mpr ⟨g, (h c).awaiting g hg⟩

theorem modifyCall {c : Channel} {f : CallBox → CallBox} (hf : (d.call c).Calmer (f (d.call c))) :
    Calmer d (d.modifyCall c f) := by
  intro c'
  rw [call_modifyCall]
  split_ifs with h
  · rw [d.call_congr h.2.1 h.2.2]
    exact hf
  · exact .refl _

theorem cancelCalls (cs : List Channel) (d : Directory) : Calmer d (d.cancelCalls cs) := by
  unfold Directory.cancelCalls
  induction cs generalizing d with
  | nil => exact .refl d
  | cons c cs ih => exact (modifyCall (d.call c).calmer_cancel).trans (ih _)

end Calmer

theorem pending_cancelCalls_of_idle {c : Channel} {d : Directory}
    (h : (d.call c).pending = .idle) (cs : List Channel) :
    ((d.cancelCalls cs).call c).pending = .idle := by
  unfold Directory.cancelCalls
  induction cs generalizing d with
  | nil => exact h
  | cons c' cs ih =>
    refine ih ?_
    rw [call_modifyCall]
    split_ifs
    · rfl
    · exact h

/-- **Whoever was cancelled has no call.** -/
theorem pending_cancelCalls {cs : List Channel} {c : Channel} (hc : c ∈ cs) {d : Directory}
    (hk : d.Keeps c) : ((d.cancelCalls cs).call c).pending = .idle := by
  induction cs generalizing d with
  | nil => exact nomatch hc
  | cons c' cs ih =>
    have hrest : Directory.cancelCalls (c' :: cs) d =
        (d.modifyCall c' CallBox.cancel).cancelCalls cs := rfl
    rw [hrest]
    rcases List.mem_cons.mp hc with rfl | hc
    · refine pending_cancelCalls_of_idle ?_ cs
      rw [call_modifyCall, if_pos ⟨hk, rfl, rfl⟩]
      rfl
    · exact ih hc ((keeps_modifyCall c' c _ d).mpr hk)

theorem isAwaiting_of_idle {c : Channel} {d : Directory} (h : (d.call c).pending = .idle) :
    d.isAwaiting c = false := by
  rw [← Bool.not_eq_true, isAwaiting_iff, h]
  rintro ⟨g, hg⟩
  exact nomatch hg

/-- **Whoever was cancelled awaits nothing.** -/
theorem isAwaiting_cancelCalls {cs : List Channel} {c : Channel} (hc : c ∈ cs) {d : Directory}
    (hk : d.Keeps c) : (d.cancelCalls cs).isAwaiting c = false :=
  isAwaiting_of_idle (pending_cancelCalls hc hk)

end Directory

end Switchboard
