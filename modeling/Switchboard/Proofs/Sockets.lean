import Switchboard.Exchange.Socket
import Mathlib.Data.List.Nodup

/-!
# The table of sockets

What each operation on the table does to a look-up (`find?_add`, `find?_erase`, `find?_modify`) and
to the list of what its sockets are (`natures_add`, `natures_erase`, `natures_modify`), and that the
next free number lies above the one it is searched from (`lt_nextFree`).

The *nature* of a socket is what never changes about it: its role, its medium and its far end.  Its
phase and its interest come and go, and no link depends on them.
-/

namespace Switchboard

open Net

/-- What never changes about a socket. -/
structure Nature where
  role : Role
  medium : Medium
  farEnd : Option Endpoint
  deriving Repr, DecidableEq

/-- The nature of a socket. -/
def Socket.nature (s : Socket) : Nature :=
  ⟨s.role, s.medium, s.farEnd⟩

namespace Sockets

/-- The numbers of a table with the natures of their sockets. -/
def natures (t : Sockets) : List (SocketId × Nature) :=
  t.map fun p => (p.1, p.2.nature)

/-! ### Looking up -/

theorem find?_cons (p : SocketId × Socket) (t : Sockets) (id : SocketId) :
    find? (p :: t) id = if id = p.1 then some p.2 else find? t id := by
  unfold find?
  rw [List.lookup_cons]
  by_cases h : id = p.1
  · simp [h]
  · simp [h, beq_false_of_ne h]

theorem find?_add (t : Sockets) (id : SocketId) (s : Socket) (i : SocketId) :
    (t.add id s).find? i = (t.find? i).or (if i = id then some s else none) := by
  induction t with
  | nil => exact find?_cons (id, s) [] i
  | cons p t ih =>
    rw [add] at ih ⊢
    rw [List.cons_append, find?_cons, find?_cons, ih]
    by_cases h : i = p.1 <;> simp [h]

theorem find?_erase (t : Sockets) (id i : SocketId) :
    (t.erase id).find? i = if i = id then none else t.find? i := by
  induction t with
  | nil => simp [erase, find?]
  | cons p t ih =>
    rw [erase] at ih ⊢
    by_cases hp : p.1 = id
    · rw [List.filter_cons_of_neg (by simp [hp]), ih, find?_cons, hp]
      by_cases h : i = id <;> simp [h]
    · rw [List.filter_cons_of_pos (by simp [hp]), find?_cons, ih, find?_cons]
      by_cases h : i = p.1
      · simp [h, hp]
      · simp [h]

theorem find?_modify (t : Sockets) (id : SocketId) (f : Socket → Socket) (i : SocketId) :
    (t.modify id f).find? i = if i = id then (t.find? i).map f else t.find? i := by
  induction t with
  | nil => simp [modify, find?]
  | cons p t ih =>
    rw [modify] at ih ⊢
    rw [List.map_cons, find?_cons, find?_cons, ih]
    by_cases h : i = p.1
    · by_cases hp : p.1 = id <;> simp [h, hp]
    · by_cases hp : p.1 = id <;> by_cases hi : i = id <;> simp_all

theorem mem_of_find? {t : Sockets} {id : SocketId} {s : Socket} (h : t.find? id = some s) :
    (id, s) ∈ t := by
  induction t with
  | nil => simp [find?] at h
  | cons p t ih =>
    rw [find?_cons] at h
    split_ifs at h with hp
    · obtain rfl := Option.some.inj h
      rw [hp]
      exact List.mem_cons_self
    · exact List.mem_cons_of_mem _ (ih h)

theorem find?_isSome_of_mem {t : Sockets} {p : SocketId × Socket} (h : p ∈ t) :
    (t.find? p.1).isSome := by
  induction t with
  | nil => simp at h
  | cons q t ih =>
    rw [find?_cons]
    split_ifs with hq
    · rfl
    · exact ih ((List.mem_cons.mp h).resolve_left fun he => hq (by rw [he]))

/-- Where the numbers are distinct, a look-up finds every member. -/
theorem find?_of_mem {t : Sockets} (hd : (t.map Prod.fst).Nodup) {id : SocketId} {s : Socket}
    (h : (id, s) ∈ t) : t.find? id = some s := by
  obtain ⟨s', hs'⟩ := Option.isSome_iff_exists.mp (find?_isSome_of_mem h)
  have heq := List.inj_on_of_nodup_map hd h (mem_of_find? hs') rfl
  rw [hs', ← (Prod.mk.inj heq).2]

theorem has_iff {t : Sockets} {id : SocketId} : t.has id = true ↔ ∃ s, (id, s) ∈ t := by
  simp [has, List.any_eq_true]

theorem mem_idsWhere {t : Sockets} {p : SocketId → Socket → Bool} {id : SocketId} :
    id ∈ t.idsWhere p ↔ ∃ s, (id, s) ∈ t ∧ p id s = true := by
  simp [idsWhere]

theorem erase_eq_self {t : Sockets} {id : SocketId} (h : t.has id = false) : t.erase id = t := by
  refine List.filter_eq_self.mpr fun p hp => ?_
  simp only [bne_iff_ne]
  rintro rfl
  rw [← Bool.not_eq_true, has_iff] at h
  exact h ⟨p.2, hp⟩

/-! ### Natures -/

theorem map_fst_natures (t : Sockets) : t.natures.map Prod.fst = t.map Prod.fst := by
  simp [natures, Function.comp_def]

theorem mem_natures {t : Sockets} {id : SocketId} {n : Nature} :
    (id, n) ∈ t.natures ↔ ∃ s, (id, s) ∈ t ∧ s.nature = n := by
  simp only [natures, List.mem_map, Prod.mk.injEq, Prod.exists]
  constructor
  · rintro ⟨i, s, hs, rfl, rfl⟩
    exact ⟨s, hs, rfl⟩
  · rintro ⟨s, hs, rfl⟩
    exact ⟨id, s, hs, rfl, rfl⟩

theorem natures_add (t : Sockets) (id : SocketId) (s : Socket) :
    (t.add id s).natures = t.natures ++ [(id, s.nature)] := by
  simp [natures, add]

theorem natures_erase (t : Sockets) (id : SocketId) :
    (t.erase id).natures = t.natures.filter (·.1 != id) := by
  simp [natures, erase, List.filter_map, Function.comp_def]

theorem natures_modify (t : Sockets) (id : SocketId) {f : Socket → Socket}
    (hf : ∀ s, (f s).nature = s.nature) : (t.modify id f).natures = t.natures := by
  simp only [natures, modify, List.map_map]
  refine List.map_congr_left fun p _ => ?_
  by_cases h : p.1 = id <;> simp [h, hf]

/-! ### Fresh numbers -/

/-- The next free number lies above the one that it is searched from. -/
theorem lt_nextFree (t : Sockets) (id : SocketId) : id < t.nextFree id := by
  unfold nextFree
  cases h : (((List.range (t.length + 1)).map (id + 1 + ·)).find? fun i => !t.has i) with
  | none => exact Nat.lt_succ_self id
  | some i =>
    obtain ⟨k, -, rfl⟩ := List.mem_map.mp (List.mem_of_find?_eq_some h)
    rw [Option.getD_some]
    exact Nat.lt_of_lt_of_le (Nat.lt_succ_self id) (Nat.le_add_right (id + 1) k)

end Sockets

end Switchboard
