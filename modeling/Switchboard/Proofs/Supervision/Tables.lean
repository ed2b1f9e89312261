import Switchboard.Proofs.Sockets

/-!
# Sockets that wait to be replaced

Which sockets wait to be replaced is kept in two places, in the phases of the sockets and on the
schedule.  The two agree (`Sockets.Attended`) where the sockets that wait are those that are noted,
each once, and all of them are outbound.  Each operation on the table keeps it so, with the list of
the noted sockets that goes with it.

A socket that is not live never comes back to life (`Sockets.Fade`), as long as numbers are not given
twice.
-/

namespace Switchboard

open Net

theorem Socket.isLive_iff (s : Socket) :
    s.isLive = true ↔ s.phase = .active ∨ s.phase = .connecting := by
  simp [isLive]

namespace Sockets

/-- **The sockets that wait to be replaced are those that are noted.** -/
structure Attended (t : Sockets) (noted : List SocketId) : Prop where
  /-- Each is noted once. -/
  once : noted.Nodup
  /-- Only outbound sockets that are tracked are noted. -/
  tracked : ∀ id ∈ noted, ∃ s, t.find? id = some s ∧ s.role = .outbound
  waits : ∀ id s, t.find? id = some s → (s.phase = .retryScheduled ↔ id ∈ noted)
  /-- No socket is left in the middle of an attempt. -/
  settled : ∀ id s, t.find? id = some s → s.phase ≠ .retrying

/-- **The second table comes after the first:** of the sockets below a number, no other ones are
live in it. -/
def Fade (next : SocketId) (t t' : Sockets) : Prop :=
  ∀ id s', t'.find? id = some s' → s'.isLive = true →
    next ≤ id ∨ ∃ s, t.find? id = some s ∧ s.isLive = true

variable {t : Sockets} {noted : List SocketId}

namespace Attended

theorem nil : Attended [] [] where
  once := .nil
  tracked _ hid := absurd hid List.not_mem_nil
  waits _ _ hs := nomatch (show none = some _ from hs)
  settled _ _ hs := nomatch (show none = some _ from hs)

/-- Only look-ups count. -/
theorem congr {t' : Sockets} (h : t.Attended noted) (heq : ∀ id, t'.find? id = t.find? id) :
    t'.Attended noted where
  once := h.once
  tracked id hid := by rw [heq]; exact h.tracked id hid
  waits id s hs := h.waits id s (heq id ▸ hs)
  settled id s hs := h.settled id s (heq id ▸ hs)

theorem perm {noted' : List SocketId} (h : t.Attended noted) (hp : noted.Perm noted') :
    t.Attended noted' where
  once := hp.nodup_iff.mp h.once
  tracked id hid := h.tracked id (hp.mem_iff.mpr hid)
  waits id s hs := (h.waits id s hs).trans hp.mem_iff
  settled := h.settled

/-- A live socket may come. -/
theorem add (h : t.Attended noted) (id : SocketId) {s : Socket} (hlive : s.isLive = true) :
    (t.add id s).Attended noted := by
  have hfind : ∀ i s', (t.add id s).find? i = some s' →
      t.find? i = some s' ∨ i ∉ noted ∧ s'.isLive = true := by
    intro i s' hs'
    rw [find?_add] at hs'
    rcases Option.or_eq_some_iff.mp hs' with hold | ⟨hnone, hs'⟩
    · exact .inl hold
    · split_ifs at hs' with hi
      obtain rfl := Option.some.inj hs'
      refine .inr ⟨fun hmem => ?_, hlive⟩
      obtain ⟨_, hsome, -⟩ := h.tracked i hmem
      exact nomatch hnone.symm.trans hsome
  refine ⟨h.once, fun i hi => ?_, fun i s' hs' => ?_, fun i s' hs' => ?_⟩
  · obtain ⟨s', hs', hr⟩ := h.tracked i hi
    exact ⟨s', by rw [find?_add, hs', Option.some_or], hr⟩
  · rcases hfind i s' hs' with hold | ⟨hi, hlive'⟩
    · exact h.waits i s' hold
    · exact iff_of_false (fun hp => by simp [Socket.isLive, hp] at hlive') hi
  · rcases hfind i s' hs' with hold | ⟨-, hlive'⟩
    · exact h.settled i s' hold
    · exact fun hp => by simp [Socket.isLive, hp] at hlive'

/-- A socket may go, if it is struck off. -/
theorem erase (h : t.Attended noted) (id : SocketId) :
    (t.erase id).Attended (noted.filter (· != id)) where
  once := h.once.filter _
  tracked i hi := by
    rw [List.mem_filter, bne_iff_ne] at hi
    obtain ⟨s, hs, hr⟩ := h.tracked i hi.1
    exact ⟨s, by rw [find?_erase, if_neg hi.2, hs], hr⟩
  waits i s hs := by
    rw [find?_erase] at hs
    split_ifs at hs with hi
    rw [List.mem_filter, bne_iff_ne, h.waits i s hs]
    exact (and_iff_left hi).symm
  settled i s hs := by
    rw [find?_erase] at hs
    split_ifs at hs
    exact h.settled i s hs

/-- A socket that is not noted may go. -/
theorem erase_of_not_mem (h : t.Attended noted) {id : SocketId} (hid : id ∉ noted) :
    (t.erase id).Attended noted := by
  have hall : noted.filter (· != id) = noted := by
    refine List.filter_eq_self.mpr fun i hi => ?_
    rw [bne_iff_ne]
    rintro rfl
    exact hid hi
  exact hall ▸ h.erase id

/-- A socket may change that keeps its role and its phase, or stays live. -/
theorem modify (h : t.Attended noted) {id : SocketId} {f : Socket → Socket}
    (hf : ∀ s, t.find? id = some s → (f s).role = s.role ∧
      ((f s).phase = s.phase ∨ s.isLive = true ∧ (f s).isLive = true)) :
    (t.modify id f).Attended noted := by
  have hold : ∀ i s', (t.modify id f).find? i = some s' → ∃ s, t.find? i = some s ∧
      s'.role = s.role ∧ (s'.phase = s.phase ∨ s.isLive = true ∧ s'.isLive = true) := by
    intro i s' hs'
    rw [find?_modify] at hs'
    split_ifs at hs' with hi
    · obtain ⟨s, hs, rfl⟩ := Option.map_eq_some_iff.mp hs'
      exact ⟨s, hs, hf s (hi ▸ hs)⟩
    · exact ⟨s', hs', rfl, .inl rfl⟩
  have hphase : ∀ s s' : Socket, (s'.phase = s.phase ∨ s.isLive = true ∧ s'.isLive = true) →
      (s'.phase = .retryScheduled ↔ s.phase = .retryScheduled) ∧
        (s'.phase = .retrying ↔ s.phase = .retrying) := by
    rintro s s' (heq | ⟨hlive, hlive'⟩)
    · rw [heq]
      exact ⟨.rfl, .rfl⟩
    · rcases s.isLive_iff.mp hlive with hp | hp <;>
        rcases s'.isLive_iff.mp hlive' with hp' | hp' <;> simp [hp, hp']
  refine ⟨h.once, fun i hi => ?_, fun i s' hs' => ?_, fun i s' hs' => ?_⟩
  · obtain ⟨s, hs, hr⟩ := h.tracked i hi
    rw [find?_modify]
    split_ifs with heq
    · exact ⟨f s, by rw [hs, Option.map_some], (hf s (heq ▸ hs)).1.trans hr⟩
    · exact ⟨s, hs, hr⟩
  · obtain ⟨s, hs, -, hp⟩ := hold i s' hs'
    exact (hphase s s' hp).1.trans (h.waits i s hs)
  · obtain ⟨s, hs, -, hp⟩ := hold i s' hs'
    exact fun hbad => h.settled i s hs ((hphase s s' hp).2.mp hbad)

/-- A live outbound socket may fail, if it is noted. -/
theorem fail (h : t.Attended noted) {id : SocketId} {s : Socket} (hs : t.find? id = some s)
    (hr : s.role = .outbound) (hlive : s.isLive = true) :
    (t.modify id fun s => { s with phase := .retryScheduled }).Attended (noted ++ [id]) where
  once := by
    refine List.nodup_append.mpr ⟨h.once, List.nodup_singleton id, ?_⟩
    rintro i hi j hj rfl
    obtain rfl := List.mem_singleton.mp hj
    have hp := (h.waits i s hs).mpr hi
    simp [Socket.isLive, hp] at hlive
  tracked i hi := by
    rw [find?_modify]
    split_ifs with heq
    · exact ⟨{ s with phase := .retryScheduled }, by rw [heq, hs, Option.map_some], hr⟩
    · refine h.tracked i ((List.mem_append.mp hi).resolve_right fun hi => ?_)
      exact heq (List.mem_singleton.mp hi)
  waits i s' hs' := by
    rw [find?_modify] at hs'
    rw [List.mem_append, List.mem_singleton]
    split_ifs at hs' with hi
    · obtain ⟨_, -, rfl⟩ := Option.map_eq_some_iff.mp hs'
      exact iff_of_true rfl (.inr hi)
    · rw [h.waits i s' hs']
      exact (or_iff_left hi).symm
  settled i s' hs' := by
    rw [find?_modify] at hs'
    split_ifs at hs' with hi
    · obtain ⟨_, -, rfl⟩ := Option.map_eq_some_iff.mp hs'
      exact nofun
    · exact h.settled i s' hs'

/-- What is noted waits. -/
theorem phase_of_mem (h : t.Attended noted) {id : SocketId} (hid : id ∈ noted) :
    ∃ s, t.find? id = some s ∧ s.role = .outbound ∧ s.phase = .retryScheduled := by
  obtain ⟨s, hs, hr⟩ := h.tracked id hid
  exact ⟨s, hs, hr, (h.waits id s hs).mpr hid⟩

/-- What is not noted is live. -/
theorem isLive_iff (h : t.Attended noted) {id : SocketId} {s : Socket} (hs : t.find? id = some s) :
    s.isLive = true ↔ id ∉ noted := by
  rw [s.isLive_iff, ← h.waits id s hs]
  have hsettled := h.settled id s hs
  cases hp : s.phase <;> simp_all

/-- An attempt that fails leaves a socket that waits as it was. -/
theorem find?_retried (h : t.Attended noted) {id : SocketId} (hid : id ∈ noted) (i : SocketId) :
    ((t.modify id fun s => { s with phase := .retrying }).modify id
      fun s => { s with phase := .retryScheduled }).find? i = t.find? i := by
  obtain ⟨s, hs, -, hp⟩ := h.phase_of_mem hid
  rw [find?_modify, find?_modify]
  split_ifs with hi
  · rw [hi, hs, Option.map_some, Option.map_some, ← hp]
  · rfl

/-- The socket that is noted in the middle may go. -/
theorem erase_middle {before after : List SocketId} {id : SocketId}
    (h : t.Attended (before ++ id :: after)) : (t.erase id).Attended (before ++ after) := by
  obtain ⟨hnew, -⟩ := List.nodup_cons.mp (List.nodup_middle.mp h.once)
  have hrest : (before ++ id :: after).filter (· != id) = before ++ after := by
    rw [List.filter_append, List.filter_cons_of_neg (by simp), ← List.filter_append]
    refine List.filter_eq_self.mpr fun i hi => ?_
    rw [bne_iff_ne]
    rintro rfl
    exact hnew hi
  exact hrest ▸ h.erase id

end Attended

namespace Fade

variable {next next' : SocketId} {t' t'' : Sockets}

theorem refl (next : SocketId) (t : Sockets) : Fade next t t :=
  fun _ s hs hlive => .inr ⟨s, hs, hlive⟩

theorem trans (h : Fade next t t') (h' : Fade next' t' t'') (hle : next ≤ next') :
    Fade next t t'' := by
  intro id s hs hlive
  rcases h' id s hs hlive with hnew | ⟨s', hs', hlive'⟩
  · exact .inl (Nat.le_trans hle hnew)
  · exact h id s' hs' hlive'

theorem add (id : SocketId) (s : Socket) (t : Sockets) : Fade id t (t.add id s) := by
  intro i s' hs' hlive
  rw [find?_add] at hs'
  by_cases hi : i = id
  · exact .inl (Nat.le_of_eq hi.symm)
  · rw [if_neg hi, Option.or_none] at hs'
    exact .inr ⟨s', hs', hlive⟩

theorem erase (next id : SocketId) (t : Sockets) : Fade next t (t.erase id) := by
  intro i s hs hlive
  rw [find?_erase] at hs
  split_ifs at hs
  exact .inr ⟨s, hs, hlive⟩

theorem modify (next id : SocketId) {f : Socket → Socket}
    (hf : ∀ s, t.find? id = some s → (f s).isLive = true → s.isLive = true) :
    Fade next t (t.modify id f) := by
  intro i s' hs' hlive
  rw [find?_modify] at hs'
  split_ifs at hs' with hi
  · obtain ⟨s, hs, rfl⟩ := Option.map_eq_some_iff.mp hs'
    exact .inr ⟨s, hs, hf s (hi ▸ hs) hlive⟩
  · exact .inr ⟨s', hs', hlive⟩

end Fade

end Sockets

end Switchboard
