import Switchboard.Proofs.Supervision.Flags
import Mathlib.Data.List.Pairwise

/-!
# Outcomes of attempts

What some attempts to replace sockets come to is told by their *outcomes*: for each of them the new
socket with its number, or none (`Outcome`).  A channel of the old socket is on the new one from then
on, so the outcomes are a renaming of the sockets (`Outcome.rename`).

Here is what the outcomes say about the directory (`Directory.Renewed`), where the links are renamed
and the channels that are moved lose their calls, and about the network (`Asked`), which was asked for
each of them once.  Two lists of outcomes follow one another as long as the later ones are for sockets
that were there before the first (`Outcome.Apart`).
-/

namespace Switchboard

open Net Settings Directory

/-- Where the entries of a list have different marks, one entry has the mark that it has. -/
theorem filter_eq_singleton {α β : Type} [DecidableEq β] {f : α → β} {as : List α}
    (hd : (as.map f).Nodup) {a : α} (ha : a ∈ as) : as.filter (fun b => f b == f a) = [a] := by
  induction as with
  | nil => exact absurd ha List.not_mem_nil
  | cons b as ih =>
    obtain ⟨hfirst, hrest⟩ := List.nodup_cons.mp hd
    rcases List.mem_cons.mp ha with rfl | ha
    · have hnone : as.filter (fun b => f b == f a) = [] :=
        List.filter_eq_nil_iff.mpr fun c hc heq =>
          hfirst (beq_iff_eq.mp heq ▸ List.mem_map_of_mem hc)
      rw [List.filter_cons_of_pos (p := fun b => f b == f a) (beq_self_eq_true _), hnone]
    · have hne : ¬ (f b == f a) = true := fun heq =>
        hfirst (beq_iff_eq.mp heq ▸ List.mem_map_of_mem ha)
      rw [List.filter_cons_of_neg (p := fun b => f b == f a) hne, ih hrest ha]

/-- **What an attempt to replace a socket came to:** the new socket with its number, or none. -/
structure Outcome where
  retry : Retry
  fresh : Option (SocketId × Socket)
  deriving Repr, DecidableEq

namespace Outcome

/-- What took the place of a socket. -/
def successor? (os : List Outcome) (id : SocketId) : Option (SocketId × Socket) :=
  (os.find? (·.retry.socket == id)).bind (·.fresh)

/-- **The number by which a socket goes** after some attempts. -/
def rename (os : List Outcome) (id : SocketId) : SocketId :=
  (successor? os id).elim id Prod.fst

theorem successor?_cons (o : Outcome) (os : List Outcome) (id : SocketId) :
    successor? (o :: os) id = if o.retry.socket = id then o.fresh else successor? os id := by
  unfold successor?
  rw [List.find?_cons]
  by_cases h : o.retry.socket = id
  · rw [if_pos h, beq_iff_eq.mpr h]
    rfl
  · rw [if_neg h, beq_false_of_ne h]

/-- One outcome that brought a new socket replaces one socket. -/
theorem isSome_successor?_singleton (r : Retry) (p : SocketId × Socket) (id : SocketId) :
    (successor? [⟨r, some p⟩] id).isSome = decide (r.socket = id) := by
  rw [successor?_cons]
  by_cases h : r.socket = id
  · rw [if_pos h, decide_eq_true h]
    rfl
  · rw [if_neg h, decide_eq_false h]
    rfl

theorem rename_singleton (r : Retry) (p : SocketId × Socket) :
    rename [⟨r, some p⟩] = fun id => if r.socket = id then p.1 else id := by
  funext id
  rw [rename, successor?_cons]
  split_ifs <;> rfl

theorem successor?_of_ne {os : List Outcome} {id : SocketId}
    (h : ∀ o ∈ os, o.retry.socket ≠ id) : successor? os id = none := by
  unfold successor?
  rw [List.find?_eq_none.mpr fun o ho => by simpa using h o ho]
  rfl

theorem exists_of_successor? {os : List Outcome} {id : SocketId} {p : SocketId × Socket}
    (h : successor? os id = some p) : ∃ o ∈ os, o.retry.socket = id ∧ o.fresh = some p := by
  obtain ⟨o, ho, hfresh⟩ := Option.bind_eq_some_iff.mp h
  exact ⟨o, List.mem_of_find?_eq_some ho, by simpa using List.find?_some ho, hfresh⟩

/-- Where each attempt was for a socket of its own, a socket has the successor that its own outcome
tells. -/
theorem successor?_of_mem {os : List Outcome} (hdistinct : (os.map (·.retry.socket)).Nodup)
    {o : Outcome} (ho : o ∈ os) : successor? os o.retry.socket = o.fresh := by
  induction os with
  | nil => exact absurd ho List.not_mem_nil
  | cons o' os ih =>
    obtain ⟨hfirst, hrest⟩ := List.nodup_cons.mp hdistinct
    rw [successor?_cons]
    rcases List.mem_cons.mp ho with rfl | ho
    · rw [if_pos rfl]
    · have hmem : o.retry.socket ∈ os.map (·.retry.socket) := List.mem_map_of_mem ho
      rw [if_neg (ne_of_mem_of_not_mem hmem hfirst).symm, ih hrest ho]

/-- The later outcomes are for other sockets than the first one, and than the one it brought. -/
def Apart (o : Outcome) (os : List Outcome) : Prop :=
  ∀ o' ∈ os, o'.retry.socket ≠ o.retry.socket ∧ ∀ p ∈ o.fresh, o'.retry.socket ≠ p.1

section

variable {o : Outcome} {os : List Outcome} (h : o.Apart os)

include h

/-- **Renamings follow one another.** -/
theorem rename_rename (id : SocketId) : rename os (rename [o] id) = rename (o :: os) id := by
  unfold rename
  rw [successor?_cons, successor?_cons]
  by_cases hid : o.retry.socket = id
  · subst hid
    rw [if_pos rfl, if_pos rfl]
    cases hfresh : o.fresh with
    | none =>
      have hnone := successor?_of_ne fun o' ho' => (h o' ho').1
      rw [Option.elim_none, hnone]
      rfl
    | some p =>
      have hnone := successor?_of_ne fun o' ho' => (h o' ho').2 p hfresh
      rw [Option.elim_some, hnone]
      rfl
  · rw [if_neg hid, if_neg hid]
    rfl

/-- Who is replaced later was not replaced first. -/
theorem isSome_successor?_cons (id : SocketId) : (successor? (o :: os) id).isSome =
    ((successor? [o] id).isSome || (successor? os (rename [o] id)).isSome) := by
  unfold rename
  rw [successor?_cons, successor?_cons]
  by_cases hid : o.retry.socket = id
  · subst hid
    rw [if_pos rfl, if_pos rfl]
    cases hfresh : o.fresh with
    | none => rw [Option.elim_none, successor?_of_ne fun o' ho' => (h o' ho').1]; rfl
    | some p => rfl
  · rw [if_neg hid, if_neg hid]
    rfl

end

end Outcome

open Outcome

/-! ### The directory -/

/-- An entry whose link was renamed. -/
def Entry.rename (f : SocketId → SocketId) (e : Entry) : Entry :=
  { e with socket := e.socket.map f }

/-- The state of a channel that has got another socket: no call, and no flag. -/
def Status.released (s : Status) : Status :=
  { s with call := s.call.cancel, reconnecting := false }

@[simp] theorem Status.released_released (s : Status) : s.released.released = s.released :=
  rfl

namespace Directory

variable {d d' : Directory}

/-- The links of a directory after a renaming. -/
theorem socketOf_rename {f : SocketId → SocketId} (h : d'.entries = d.entries.map (Entry.rename f))
    (id : ChannelId) : d'.socketOf id = (d.socketOf id).map f := by
  unfold socketOf entry?
  rw [h, List.find?_map]
  change ((d.entries.find? (·.channel.id == id)).map (Entry.rename f)).bind (·.socket) = _
  cases d.entries.find? (·.channel.id == id) <;> rfl

/-- Where a change of states is the same a second time, making it for some channels makes it once
for each of them. -/
theorem status_foldl_modifyStatus {f : Status → Status} (hf : ∀ s, f (f s) = f s)
    {cs : List Channel} (hcs : ∀ c ∈ cs, d.Keeps c) (c : Channel) :
    (cs.foldl (fun d c => d.modifyStatus c f) d).status c =
      if ∃ c' ∈ cs, c.home = c'.home ∧ c.id = c'.id then f (d.status c) else d.status c := by
  induction cs generalizing d with
  | nil => simp
  | cons c' cs ih =>
    have hkeeps : ∀ c ∈ cs, (d.modifyStatus c' f).Keeps c := fun c hc =>
      (keeps_modifyStatus c' c f d).mpr (hcs c (List.mem_cons_of_mem _ hc))
    rw [List.foldl_cons, ih hkeeps, status_modifyStatus]
    simp only [List.mem_cons, exists_eq_or_imp]
    by_cases hfirst : c.home = c'.home ∧ c.id = c'.id
    · simp [hfirst, hcs c' List.mem_cons_self, hf]
    · simp [hfirst]

/-- **What a change of the states of the channels of a socket does.** -/
theorem status_foldl_onSocket {f : Status → Status} (hf : ∀ s, f (f s) = f s) (hempty : f {} = {})
    (hn : d.core.Numbered) (socket : SocketId) (c : Channel) :
    ((d.onSocket socket).foldl (fun d c => d.modifyStatus c f) d).status c =
      if d.socketOf c.id = some socket then f (d.status c) else d.status c := by
  have hkeeps : ∀ c ∈ d.onSocket socket, d.Keeps c := fun c hc => by
    obtain ⟨e, he, -, rfl⟩ := mem_onSocket.mp hc
    exact keeps_of_mem hn he
  rw [status_foldl_modifyStatus hf hkeeps]
  by_cases hlink : d.socketOf c.id = some socket
  · rw [if_pos hlink]
    obtain ⟨e, he, hid, hsocket⟩ := exists_of_socketOf hlink
    by_cases hhome : c.home = d.home
    · refine if_pos ⟨e.channel, mem_onSocket.mpr ⟨e, he, hsocket, rfl⟩, ?_, hid.symm⟩
      exact hhome.trans (hn.home e he).symm
    · -- A channel of another directory has no state here.
      have hforeign : d.status c = {} := if_neg hhome
      rw [hforeign, hempty, ite_self]
  · rw [if_neg hlink]
    refine if_neg ?_
    rintro ⟨c', hc', -, hid⟩
    obtain ⟨e, he, hsocket, rfl⟩ := mem_onSocket.mp hc'
    exact hlink (hid ▸ (socketOf_of_mem hn he).trans hsocket)

/-- **The directory after a new socket took the place of an old one:** the links go to the new one, and
the channels that have them are released. -/
structure Renewed (os : List Outcome) (d d' : Directory) : Prop where
  home : d'.home = d.home
  links : d'.entries = d.entries.map (Entry.rename (Outcome.rename os))
  states : ∀ c, d'.status c = if (d.socketOf c.id).any (fun id => (successor? os id).isSome) = true
    then (d.status c).released else d.status c

theorem Renewed.of_none {os : List Outcome} (h : ∀ o ∈ os, o.fresh = none) (d : Directory) :
    d.Renewed os d := by
  have hnone : ∀ id, successor? os id = none := fun id => by
    unfold successor?
    refine Option.bind_eq_none_iff.mpr fun o ho => h o (List.mem_of_find?_eq_some ho)
  have hsame : Entry.rename (Outcome.rename os) = id := by
    funext e
    have hid : Outcome.rename os = id := funext fun i => by rw [Outcome.rename, hnone]; rfl
    rw [Entry.rename, hid, Option.map_id]
    rfl
  refine ⟨rfl, by rw [hsame, List.map_id], fun c => (if_neg ?_).symm⟩
  cases d.socketOf c.id <;> simp [hnone]

/-- To put a new socket in the place of an old one is to rename the links. -/
theorem entries_relink (old new : SocketId) (d : Directory) : (d.relink old new).entries =
    d.entries.map (Entry.rename fun id => if old = id then new else id) := by
  refine List.map_congr_left fun e _ => ?_
  unfold Entry.rename
  cases hs : e.socket with
  | none => rw [if_neg nofun, Option.map_none, ← hs]
  | some id =>
    rw [Option.map_some]
    by_cases hid : old = id
    · rw [if_pos (congrArg some hid.symm), if_pos hid]
    · rw [if_neg fun h => hid (Option.some.inj h).symm, if_neg hid, ← hs]

/-- Who is on the new socket was on the old one. -/
theorem socketOf_relink {old new : SocketId} (hnew : ∀ e ∈ d.entries, e.socket ≠ some new)
    (id : ChannelId) : (d.relink old new).socketOf id = some new ↔ d.socketOf id = some old := by
  rw [socketOf_rename (entries_relink old new d), Option.map_eq_some_iff]
  constructor
  · rintro ⟨i, hi, heq⟩
    split_ifs at heq with hold
    · rw [hi, hold]
    · obtain ⟨e, he, -, hsocket⟩ := exists_of_socketOf hi
      exact absurd (heq ▸ hsocket) (hnew e he)
  · exact fun h => ⟨old, h, if_pos rfl⟩

/-- **A new socket that takes the place of an old one** renews the directory by one outcome. -/
theorem renewed_substitute (hn : d.core.Numbered) {new : SocketId}
    (hnew : ∀ e ∈ d.entries, e.socket ≠ some new) (r : Retry) (fresh : Socket) :
    let d' := (d.relink r.socket new).setReconnecting new false
    d.Renewed [⟨r, some (new, fresh)⟩] (d'.cancelCalls (d'.onSocket new)) := by
  intro d'
  have hnumbered : (d.relink r.socket new).core.Numbered := hn.map (channel_relinkEntry r.socket new)
  have hmarked : d'.entries = (d.relink r.socket new).entries := entries_setReconnecting ..
  refine ⟨?_, ?_, fun c => ?_⟩
  · exact (congrArg Core.home (core_cancelCalls (d'.onSocket new) d')).trans
      (congrArg Core.home (core_setReconnecting new false (d.relink r.socket new)))
  · rw [entries_cancelCalls, hmarked, entries_relink, rename_singleton]
  · have hcancelled := status_foldl_onSocket (d := d')
      (f := fun s => { s with call := s.call.cancel }) (fun _ => rfl) rfl
      (by rw [core_setReconnecting]; exact hnumbered) new c
    have hlowered := status_foldl_onSocket (d := d.relink r.socket new)
      (f := fun s => { s with reconnecting := false }) (fun _ => rfl) rfl hnumbered new c
    have hsame : d'.socketOf c.id = (d.relink r.socket new).socketOf c.id := by
      unfold socketOf entry?
      rw [hmarked]
    have hmoved : ((d.socketOf c.id).any fun id =>
        (successor? [⟨r, some (new, fresh)⟩] id).isSome) = true ↔ d.socketOf c.id = some r.socket := by
      cases d.socketOf c.id with
      | none => simp
      | some id =>
        rw [Option.any_some, isSome_successor?_singleton, decide_eq_true_iff, Option.some_inj, eq_comm]
    change (d'.cancelCalls (d'.onSocket new)).status c = _ at hcancelled
    change d'.status c = _ at hlowered
    rw [hcancelled, hlowered, hsame]
    simp only [socketOf_relink hnew, hmoved]
    split_ifs <;> rfl

/-- **Renewals follow one another.** -/
theorem Renewed.cons {d'' : Directory} {o : Outcome} {os : List Outcome} (hapart : o.Apart os)
    (h : d.Renewed [o] d') (h' : d'.Renewed os d'') : d.Renewed (o :: os) d'' := by
  refine ⟨h'.home.trans h.home, ?_, fun c => ?_⟩
  · rw [h'.links, h.links, List.map_map]
    refine List.map_congr_left fun e _ => ?_
    simp only [Function.comp_apply, Entry.rename, Option.map_map]
    rw [show Outcome.rename os ∘ Outcome.rename [o] = Outcome.rename (o :: os) from
      funext fun id => rename_rename hapart id]
  · have hmoved : ((d.socketOf c.id).any fun id => (successor? (o :: os) id).isSome) =
        (((d.socketOf c.id).any fun id => (successor? [o] id).isSome) ||
          (d'.socketOf c.id).any fun id => (successor? os id).isSome) := by
      rw [socketOf_rename h.links]
      cases d.socketOf c.id with
      | none => rfl
      | some id => exact isSome_successor?_cons hapart id
    rw [h'.states, h.states, hmoved]
    -- Who is released twice is so once.
    by_cases hfirst : ((d.socketOf c.id).any fun id => (successor? [o] id).isSome) = true <;>
      by_cases hsecond : ((d'.socketOf c.id).any fun id => (successor? os id).isSome) = true <;>
        simp [hfirst, hsecond]

end Directory

/-! ### The network -/

/-- **What the network was asked, and what it answered:** for each outcome one call to connect to the
far end of the socket, and for a new socket one more to close the old one.  New sockets are numbered
one after the other. -/
inductive Asked {ν : Type} [Network ν] (transport : Transport) (farEnd : SocketId → Option Endpoint) :
    List Outcome → SocketId → ν → SocketId → ν → Prop
  | nil (next : SocketId) (network : ν) : Asked transport farEnd [] next network next network
  | failed {r : Retry} {os : List Outcome} {next last : SocketId} {network tried after : ν}
      {remote : Endpoint} {cause : SocketError} (hfar : farEnd r.socket = some remote)
      (hanswer : Network.connect transport next remote network = (.error cause, tried))
      (h : Asked transport farEnd os next tried last after) :
      Asked transport farEnd (⟨r, none⟩ :: os) next network last after
  | replaced {r : Retry} {os : List Outcome} {next last : SocketId} {network tried after : ν}
      {remote ownEnd : Endpoint} (hfar : farEnd r.socket = some remote)
      (hanswer : Network.connect transport next remote network = (.ok ownEnd, tried))
      (h : Asked transport farEnd os (next + 1) (Network.close r.socket tried) last after) :
      Asked transport farEnd
        (⟨r, some (next, Socket.outgoing transport ownEnd remote)⟩ :: os) next network last after

namespace Asked

variable {ν : Type} [Network ν] {transport : Transport} {farEnd farEnd' : SocketId → Option Endpoint}
  {os os' : List Outcome} {next mid last : SocketId} {network between after : ν}

/-- What is asked once and then again is asked in one go. -/
theorem append (h : Asked transport farEnd os next network mid between)
    (h' : Asked transport farEnd os' mid between last after) :
    Asked transport farEnd (os ++ os') next network last after := by
  induction h with
  | nil => exact h'
  | failed hfar hanswer _ ih => exact .failed hfar hanswer (ih h')
  | replaced hfar hanswer _ ih => exact .replaced hfar hanswer (ih h')

/-- Only the far ends of the old sockets count. -/
theorem congr (h : Asked transport farEnd os next network last after)
    (heq : ∀ o ∈ os, farEnd' o.retry.socket = farEnd o.retry.socket) :
    Asked transport farEnd' os next network last after := by
  induction h with
  | nil => exact .nil _ _
  | failed hfar hanswer _ ih =>
    exact .failed ((heq _ List.mem_cons_self).trans hfar) hanswer
      (ih fun o ho => heq o (List.mem_cons_of_mem _ ho))
  | replaced hfar hanswer _ ih =>
    exact .replaced ((heq _ List.mem_cons_self).trans hfar) hanswer
      (ih fun o ho => heq o (List.mem_cons_of_mem _ ho))

/-- **A new socket** has a new number, the transport that was asked for, and the far end of the old
one. -/
theorem fresh_spec (h : Asked transport farEnd os next network last after) {o : Outcome} (ho : o ∈ os)
    {p : SocketId × Socket} (hfresh : o.fresh = some p) :
    next ≤ p.1 ∧ ∃ remote ownEnd, farEnd o.retry.socket = some remote ∧
      p.2 = Socket.outgoing transport ownEnd remote := by
  induction h with
  | nil => exact absurd ho List.not_mem_nil
  | failed hfar hanswer _ ih =>
    rcases List.mem_cons.mp ho with rfl | ho
    · exact nomatch hfresh
    · exact ih ho
  | replaced hfar hanswer _ ih =>
    rcases List.mem_cons.mp ho with rfl | ho
    · obtain rfl := Option.some.inj hfresh
      exact ⟨Nat.le_refl _, _, _, hfar, rfl⟩
    · exact (ih ho).imp_left Nat.le_of_succ_le

/-- New sockets have numbers of their own. -/
theorem distinct (h : Asked transport farEnd os next network last after) :
    os.Pairwise fun o o' => ∀ p ∈ o.fresh, ∀ p' ∈ o'.fresh, p.1 ≠ p'.1 := by
  induction h with
  | nil => exact .nil
  | failed _ _ _ ih => exact .cons (fun _ _ _ hp => nomatch hp) ih
  | replaced _ _ h ih =>
    refine .cons (fun o' ho' p hp p' hp' => ?_) ih
    rw [← Option.some.inj hp]
    exact Nat.ne_of_lt (h.fresh_spec ho' hp').1

end Asked

/-- A socket that has not been asked to tell when it can be written. -/
def Socket.unarmed (s : Socket) : Socket :=
  { s with interest := { s.interest with write := false } }

namespace Sockets

/-- A table where nobody has asked to be told when a socket can be written. -/
def unarmed (t : Sockets) : Sockets :=
  t.map fun p => (p.1, p.2.unarmed)

theorem find?_unarmed (t : Sockets) (id : SocketId) :
    t.unarmed.find? id = (t.find? id).map Socket.unarmed := by
  induction t with
  | nil => rfl
  | cons p t ih =>
    rw [unarmed, List.map_cons, find?_cons, ← unarmed, ih, find?_cons]
    split_ifs <;> rfl

/-- The far end of a socket. -/
def farEnd? (t : Sockets) (id : SocketId) : Option Endpoint :=
  (t.find? id).bind (·.farEnd)

theorem find?_filter (t : Sockets) (p : SocketId → Bool) (id : SocketId) :
    find? (t.filter fun q => p q.1) id = if p id = true then t.find? id else none := by
  induction t with
  | nil => simp [find?]
  | cons q t ih =>
    by_cases hq : p q.1 = true
    · rw [List.filter_cons_of_pos (p := fun q : SocketId × Socket => p q.1) hq, find?_cons, ih, find?_cons]
      by_cases hid : id = q.1
      · rw [if_pos hid, if_pos hid, hid, if_pos hq]
      · rw [if_neg hid, if_neg hid]
    · rw [List.filter_cons_of_neg (p := fun q : SocketId × Socket => p q.1) hq, ih, find?_cons]
      by_cases hid : id = q.1
      · rw [hid, if_neg hq, if_neg hq]
      · rw [if_neg hid]

theorem modify_eq_self {t : Sockets} {id : SocketId} {f : Socket → Socket}
    (h : ∀ s, (id, s) ∈ t → f s = s) : t.modify id f = t := by
  refine (List.map_congr_left fun p hp => ?_).trans (List.map_id t)
  obtain ⟨i, s⟩ := p
  dsimp only
  split_ifs with hi
  · rw [h s (hi ▸ hp)]
    rfl
  · rfl

theorem modify_modify (t : Sockets) (id : SocketId) (f g : Socket → Socket) :
    (t.modify id f).modify id g = t.modify id fun s => g (f s) := by
  unfold modify
  rw [List.map_map]
  refine List.map_congr_left fun p _ => ?_
  by_cases hp : p.1 = id <;> simp [hp]

theorem erase_modify (t : Sockets) (id : SocketId) (f : Socket → Socket) :
    (t.modify id f).erase id = t.erase id := by
  induction t with
  | nil => rfl
  | cons p t ih =>
    unfold erase modify at ih ⊢
    by_cases hp : p.1 = id <;> simp [hp, ih]

theorem has_modify (t : Sockets) (id : SocketId) (f : Socket → Socket) (i : SocketId) :
    (t.modify id f).has i = t.has i := by
  unfold has modify
  rw [List.any_map]
  refine congrArg (List.any t) (funext fun p => ?_)
  by_cases hp : p.1 = id <;> simp [hp]

/-- Where the number after a number is free, it is the next one. -/
theorem nextFree_of_below {t : Sockets} {id : SocketId} (h : ∀ p ∈ t, p.1 ≤ id) :
    t.nextFree id = id + 1 := by
  have hfree : t.has (id + 1) = false := by
    rw [has, List.any_eq_false]
    intro p hp heq
    exact Nat.not_succ_le_self id (Nat.le_trans (Nat.le_of_eq (beq_iff_eq.mp heq).symm) (h p hp))
  unfold nextFree
  rw [List.range_succ_eq_map, List.map_cons, List.find?_cons_of_pos (by simpa using hfree)]
  rfl

end Sockets

/-- The attempt after one that failed. -/
def Retry.again (now : Nat) (r : Retry) : Retry :=
  ⟨r.socket, now + 1000 * r.delay, r.delay⟩

end Switchboard
