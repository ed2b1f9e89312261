import Switchboard.Proofs.Calls.Boxes
import Switchboard.Proofs.Outline.Operations

/-!
# Calmer exchanges

Most of what an exchange does brings no call any farther: opening and closing sockets, linking,
announcing, letting go, and handing buffers to the protocol.  An exchange is then *calmer* than
before (`Exchange.Calmer`), and its journal says of every socket that went that it was closed.  Each
part of an operation is calmer by itself, and so are chains of them.
-/

namespace Switchboard

open Net Settings Relation Directory

/-- The channel whose caller got the buffer that the event is about. -/
def Traffic.answered? : Traffic → Option Channel
  | .received _ _ _ (.caller c) => some c
  | _ => none

namespace Exchange

open Outline

variable {ν : Type} {x y z : Exchange ν}

/-! ### Where no call gets farther -/

/-- **No call has got farther,** and of the sockets that went, the journal says that they were
closed. -/
structure Calmer (x y : Exchange ν) : Prop where
  calls : x.directory.Calmer y.directory
  logged : ∃ since, y.journal = since ++ x.journal ∧ (∀ t ∈ since, t.answered? = none) ∧
    ∀ s ∈ x.outline.sockets, s ∈ y.outline.sockets ∨ Traffic.closed s.1 ∈ since

namespace Calmer

/-- Where boxes, journal and sockets are the same. -/
theorem of_same (hcalls : ∀ c, y.directory.call c = x.directory.call c)
    (hj : y.journal = x.journal) (hs : y.outline.sockets = x.outline.sockets) : Calmer x y where
  calls := .of_eq hcalls
  logged := ⟨[], hj, fun _ ht => absurd ht List.not_mem_nil, fun _ h => .inl (hs ▸ h)⟩

theorem refl (x : Exchange ν) : Calmer x x :=
  of_same (fun _ => rfl) rfl rfl

theorem trans (h : Calmer x y) (h' : Calmer y z) : Calmer x z where
  calls := h.calls.trans h'.calls
  logged := by
    obtain ⟨since, hj, hnone, hs⟩ := h.logged
    obtain ⟨since', hj', hnone', hs'⟩ := h'.logged
    refine ⟨since' ++ since, by rw [hj', hj, List.append_assoc], fun t ht => ?_, fun s h => ?_⟩
    · exact (List.mem_append.mp ht).elim (hnone' t) (hnone t)
    · rcases hs s h with h | h
      · exact (hs' s h).imp_right (List.mem_append_left _)
      · exact .inr (List.mem_append_right _ h)

theorem record {t : Traffic} (ht : t.answered? = none) (x : Exchange ν) :
    Calmer x (x.record t) where
  calls := .refl _
  logged := ⟨[t], rfl, fun _ h => List.mem_singleton.mp h ▸ ht, fun _ => .inl⟩

theorem onDirectory {f : Directory → Directory} (hf : x.directory.Calmer (f x.directory)) :
    Calmer x (x.onDirectory f) where
  calls := hf
  logged := ⟨[], rfl, fun _ ht => absurd ht List.not_mem_nil, fun _ => .inl⟩

theorem modifySocket (id : SocketId) {f : Socket → Socket} (hf : ∀ s, (f s).nature = s.nature)
    (x : Exchange ν) : Calmer x (x.modifySocket id f) :=
  of_same (fun _ => rfl) rfl (Sockets.natures_modify x.sockets id hf)

theorem setPhase (id : SocketId) (phase : Phase) (x : Exchange ν) :
    Calmer x (x.modifySocket id fun s => { s with phase }) :=
  modifySocket id (f := fun s => { s with phase }) (fun _ => rfl) x

theorem track (s : Socket) (x : Exchange ν) : Calmer x (track s x) where
  calls := .refl _
  logged := by
    refine ⟨[.opened x.nextSocket], rfl, fun t h => ?_, fun s' h => .inl ?_⟩
    · rw [List.mem_singleton.mp h]
      rfl
    · show s' ∈ (x.sockets.add x.nextSocket s).natures
      rw [Sockets.natures_add]
      exact List.mem_append_left _ h

theorem announceAll (id : SocketId) (cs : List Channel) (x : Exchange ν) :
    Calmer x (x.announceAll id cs) := by
  rw [announceAll_eq]
  refine ⟨.refl _, _, rfl, fun t ht => ?_, fun _ => .inl⟩
  obtain ⟨c, -, rfl⟩ := List.mem_map.mp (List.mem_reverse.mp ht)
  rfl

theorem scheduleRetry (id : SocketId) (delay : Nat) (x : Exchange ν) :
    Calmer x (x.scheduleRetry id delay) := by
  obtain ⟨_, _, h⟩ := scheduleRetry_eq id delay x
  rw [h]
  exact of_same (fun _ => rfl) rfl rfl

theorem armPending (x : Exchange ν) : Calmer x x.armPending := by
  have hsockets := congrArg Outline.sockets (outline_armPending x)
  obtain ⟨_, _, h⟩ := armPending_eq x
  rw [h] at hsockets ⊢
  exact of_same (fun _ => rfl) rfl hsockets

theorem join (c : Channel) (id : SocketId) (x : Exchange ν) : Calmer x (x.join c id) := by
  obtain ⟨newcomers, h⟩ := join_eq c id x
  rw [h]
  exact (onDirectory (.of_eq fun c' => call_link ..)).trans (announceAll id newcomers _)

theorem deliver (sender : Option Endpoint) (data : Bytes) (x : Exchange ν) (c : Channel) :
    Calmer x (deliver sender data x c) := by
  unfold Exchange.deliver
  dsimp only
  split
  · rename_i far
    split_ifs
    · refine of_same (fun c' => ?_) rfl rfl
      exact call_modifyStatus c c' (f := fun s => { s with lastSender := some far }) (fun _ => rfl) _
    · exact of_same (fun _ => rfl) rfl rfl
  · exact of_same (fun _ => rfl) rfl rfl

theorem foldl_deliver (sender : Option Endpoint) (data : Bytes) (cs : List Channel)
    (x : Exchange ν) : Calmer x (cs.foldl (Exchange.deliver sender data) x) := by
  induction cs generalizing x with
  | nil => exact refl x
  | cons c cs ih => exact (deliver sender data x c).trans (ih _)

theorem raiseListener (p : Profile) (ownEnd : Endpoint) (x : Exchange ν) :
    Calmer x (x.raiseListener p ownEnd) := by
  have hopened := track (Socket.listening p.transport ownEnd) { x with profile := p }
  exact ⟨hopened.calls, hopened.logged⟩

theorem foldl_unlink (ids : List SocketId) (x : Exchange ν) :
    Calmer x (ids.foldl (fun x id => x.onDirectory (·.unlink id)) x) := by
  induction ids generalizing x with
  | nil => exact refl x
  | cons id ids ih => exact (onDirectory (.of_eq fun c => call_unlink id _ c)).trans (ih _)

variable [Network ν]

theorem closeSocket (id : SocketId) (x : Exchange ν) : Calmer x (x.closeSocket id) where
  calls := by
    obtain ⟨_, _, _, h⟩ := closeSocket_eq id x
    rw [h]
    exact .refl _
  logged := by
    have hsockets := congrArg Outline.sockets (outline_closeSocket id x)
    have hothers : ∀ s ∈ x.outline.sockets, s.1 ≠ id → s ∈ (x.closeSocket id).outline.sockets := by
      intro s hs hne
      rw [hsockets]
      exact mem_sockets_erase.mpr ⟨hs, hne⟩
    unfold Exchange.closeSocket at hothers ⊢
    split_ifs at hothers ⊢
    · refine ⟨[.closed id], rfl, fun t h => ?_, fun s hs => ?_⟩
      · rw [List.mem_singleton.mp h]
        rfl
      · by_cases hid : s.1 = id
        · exact .inr (List.mem_singleton.mpr (by rw [hid]))
        · exact .inl (hothers s hs hid)
    · exact ⟨[], rfl, fun _ ht => absurd ht List.not_mem_nil, fun _ => .inl⟩

theorem discard (ids : List SocketId) (x : Exchange ν) : Calmer x (x.discard ids) := by
  unfold Exchange.discard
  induction ids generalizing x with
  | nil => exact refl x
  | cons id ids ih =>
    have hcancel : Calmer x { x with schedule := x.schedule.cancel id } :=
      of_same (fun _ => rfl) rfl rfl
    exact (hcancel.trans (closeSocket id _)).trans (ih _)

theorem reportFault (id : SocketId) (x : Exchange ν) : Calmer x (reportFault id x).2 := by
  unfold Exchange.reportFault
  split
  · exact refl x
  · split
    · exact refl x
    · exact closeSocket id x
    · split_ifs
      · exact refl x
      · have hnoted := (setPhase id .retryScheduled x).trans
          (scheduleRetry id x.profile.retryInterval _)
        exact hnoted.trans (onDirectory (.of_eq fun c => call_setReconnecting id true _ c))

theorem moveListener (p : Profile) (ownEnd : Endpoint) (x : Exchange ν) :
    Calmer x (x.moveListener p ownEnd) := by
  have hraise := raiseListener p ownEnd x
  have hclose : ∀ y : Exchange ν, Calmer y y.closeOutbound := fun y =>
    (foldl_unlink _ y).trans (discard _ _)
  have hmove : ∀ old, Calmer x (((x.raiseListener p ownEnd).closeSocket old).onDirectory
      (·.relink old x.nextSocket)) := fun old =>
    (hraise.trans (closeSocket old _)).trans (onDirectory (.of_eq fun _ => rfl))
  unfold Exchange.moveListener
  dsimp only
  cases x.listener with
  | none =>
    split_ifs
    · exact hraise.trans (hclose _)
    · exact hraise
  | some old =>
    split_ifs
    · exact (hmove old).trans (hclose _)
    · exact hmove old

theorem closeOrphans (x : Exchange ν) : Calmer x x.closeOrphans :=
  discard _ x

theorem retain (kept : List Channel) (x : Exchange ν) : Calmer x (x.retain kept) := by
  have hkept : Calmer x { x with
      directory := (x.directory.keepOnly fun c => kept.any (·.id == c.id)).2 } :=
    of_same (fun _ => rfl) rfl rfl
  have hclosed := hkept.trans (closeOrphans _)
  exact ⟨hclosed.calls.trans (.cancelCalls _ _), hclosed.logged⟩

theorem deactivate (x : Exchange ν) : Calmer x x.deactivate := by
  unfold Exchange.deactivate close
  dsimp only
  split_ifs
  · exact of_same (fun _ => rfl) rfl rfl
  · have hclosed := discard (x.sockets.map (·.1)) x
    generalize x.discard (x.sockets.map (·.1)) = y at hclosed ⊢
    have hended := Directory.Calmer.cancelCalls y.directory.channels y.directory
    have hfreed := Directory.Calmer.of_eq fun c =>
      call_unlinkAll (y.directory.cancelCalls y.directory.channels) c
    exact ⟨hclosed.calls.trans (hended.trans hfreed), hclosed.logged⟩

theorem substitute (old : SocketId) (fresh : Socket) (x : Exchange ν) :
    Calmer x (x.substitute old fresh) := by
  have hmoved : ∀ y : Exchange ν, Calmer y (y.onDirectory fun d =>
      let d := (d.relink old x.nextSocket).setReconnecting x.nextSocket false
      d.cancelCalls (d.onSocket x.nextSocket)) := by
    intro y
    have hrelinked := Directory.Calmer.of_eq fun c =>
      call_setReconnecting x.nextSocket false (y.directory.relink old x.nextSocket) c
    exact onDirectory (hrelinked.trans (.cancelCalls _ _))
  have htaken := ((closeSocket old x).trans (track fresh _)).trans (hmoved _)
  unfold Exchange.substitute
  dsimp only
  split_ifs
  · exact htaken.trans (announceAll _ _ _)
  · exact htaken

end Calmer

end Exchange

end Switchboard
