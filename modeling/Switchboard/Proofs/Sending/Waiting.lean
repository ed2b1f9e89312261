import Switchboard.Proofs.Outline.Order
import Switchboard.Proofs.Outline.Targets
import Switchboard.Proofs.Runs
import Switchboard.Proofs.Step.Basic

/-!
# What waits at a socket

The writes that go through a socket, the oldest first, each with the address it goes to, are what
*waits* there (`Exchange.waiting`).  An attempt to send is about the first of them
(`attempt_of_waiting`), and when bytes of it have gone it stands first with the rest of them, or the
others move up (`waiting_sendBytes`).  Where a write goes depends on links, last senders and the
natures of the sockets only (`target?_congr`), so the order in which writes wait survives whatever else
happens.
-/

namespace Switchboard

open Net Directory

namespace Sockets

theorem lookup_natures (t : Sockets) (id : SocketId) :
    t.natures.lookup id = (t.find? id).map Socket.nature := by
  induction t with
  | nil => rfl
  | cons p t ih =>
    rw [find?_cons, natures, List.map_cons, List.lookup_cons, ← natures, ih]
    by_cases h : id = p.1
    · simp [h]
    · simp [h, beq_false_of_ne h]

theorem idsWhere_natures (t : Sockets) (p : Nature → Bool) :
    t.idsWhere (fun _ s => p s.nature) = (t.natures.filter fun n => p n.2).map Prod.fst := by
  simp [idsWhere, natures, List.filter_map, Function.comp_def]

end Sockets

/-- What there is to do for some writes and then some others. -/
theorem Outbox.work_append (ws ws' : List Write) :
    Outbox.work { writes := ws ++ ws' } = Outbox.work { writes := ws } + Outbox.work { writes := ws' } := by
  induction ws with
  | nil => exact (Nat.zero_add _).symm
  | cons w ws ih =>
    have hcons : ∀ vs : List Write, Outbox.work { writes := w :: vs } =
        w.remaining.length + 1 + Outbox.work { writes := vs } := fun _ => rfl
    rw [List.cons_append, hcons, hcons, ih]
    omega

/-- The directory after the call of a write, if it has one, was told that the write has gone. -/
def Directory.told (d : Directory) (w : Write) : Directory :=
  w.call.elim d fun g => d.modifyCall w.channel (·.markSent g)

namespace Exchange

variable {ν : Type} {x y : Exchange ν}

/-! ### Targets -/

/-- **Where the writes of a channel go** depends on the listener, the natures of the sockets, the
links and the last senders. -/
theorem target?_congr (hl : y.listener = x.listener) (hs : y.sockets.natures = x.sockets.natures)
    (hd : y.directory.core = x.directory.core) (c : Channel) : y.target? c = x.target? c := by
  have hlink : y.directory.socketOf c.id = x.directory.socketOf c.id := by
    unfold socketOf entry?
    rw [show y.directory.entries = x.directory.entries from congrArg Core.entries hd]
  have hsender : (y.directory.status c).lastSender = (x.directory.status c).lastSender := by
    rw [lastSender_status, lastSender_status, hd]
  have hmedium : ∀ id, (y.sockets.find? id).map Socket.medium =
      (x.sockets.find? id).map Socket.medium := by
    intro id
    have h := congrArg (Option.map Nature.medium ∘ List.lookup id) hs
    simpa [Function.comp_def, Sockets.lookup_natures, Socket.nature] using h
  have hconnection : ∀ far, y.connectionTo? far = x.connectionTo? far := by
    intro far
    unfold connectionTo?
    have h := congrArg (fun n => (n.filter fun n => n.2.role == .accepted && n.2.farEnd == some far)) hs
    have hids := fun t : Sockets =>
      t.idsWhere_natures fun n => n.role == .accepted && n.farEnd == some far
    simp only [Socket.nature] at hids
    rw [hids, hids]
    exact congrArg (fun n => (n.map Prod.fst).head?) h
  unfold target? isListener
  rw [hlink, hl, hsender]
  simp only [hmedium, hconnection]

/-- Whether a socket is held depends on the listener, the natures of the sockets, and the
directory. -/
theorem isHeld_congr (hl : y.listener = x.listener) (hs : y.sockets.natures = x.sockets.natures)
    (hd : y.directory = x.directory) (id : SocketId) : y.isHeld id = x.isHeld id := by
  have hrole : (y.sockets.find? id).map Socket.role = (x.sockets.find? id).map Socket.role := by
    have h := congrArg (Option.map Nature.role ∘ List.lookup id) hs
    simpa [Function.comp_def, Sockets.lookup_natures, Socket.nature] using h
  have howner : y.owner? id = x.owner? id := by
    unfold owner?
    rw [hl]
    cases hy : y.sockets.find? id <;> cases hx : x.sockets.find? id <;> simp_all
  unfold isHeld
  rw [howner, hd]

/-! ### Writes in line -/

/-- The write with the address it goes to, if it goes through the socket. -/
def through? (id : SocketId) (x : Exchange ν) (w : Write) : Option (Write × Option Endpoint) :=
  (x.target? w.channel).bind fun t => if t.1 = id then some (w, t.2) else none

/-- **What waits at a socket:** the writes that go through it, the oldest first, each with the
address it goes to. -/
def waiting (id : SocketId) (x : Exchange ν) : List (Write × Option Endpoint) :=
  x.outbox.writes.filterMap (x.through? id)

theorem through?_eq_some {id : SocketId} {w : Write} {p : Write × Option Endpoint} :
    x.through? id w = some p ↔ p.1 = w ∧ x.target? w.channel = some (id, p.2) := by
  unfold through?
  constructor
  · intro h
    obtain ⟨⟨i, t⟩, ht, heq⟩ := Option.bind_eq_some_iff.mp h
    split_ifs at heq with hid
    obtain rfl := Option.some.inj heq
    exact ⟨rfl, hid ▸ ht⟩
  · rintro ⟨rfl, ht⟩
    rw [ht]
    simp

theorem mem_waiting {id : SocketId} {p : Write × Option Endpoint} :
    p ∈ x.waiting id ↔ p.1 ∈ x.outbox.writes ∧ x.target? p.1.channel = some (id, p.2) := by
  unfold waiting
  rw [List.mem_filterMap]
  constructor
  · rintro ⟨w, hw, hp⟩
    obtain ⟨rfl, ht⟩ := through?_eq_some.mp hp
    exact ⟨hw, ht⟩
  · rintro ⟨hw, ht⟩
    exact ⟨p.1, hw, through?_eq_some.mpr ⟨rfl, ht⟩⟩

/-- Where the targets are the same, a write goes through the same socket. -/
theorem through?_congr (ht : ∀ c, y.target? c = x.target? c) (id : SocketId) :
    y.through? id = x.through? id := by
  funext w
  rw [through?, through?, ht]

/-- The same writes wait where the outbox and the targets are the same. -/
theorem waiting_congr (ho : y.outbox = x.outbox) (ht : ∀ c, y.target? c = x.target? c)
    (id : SocketId) : y.waiting id = x.waiting id := by
  unfold waiting
  rw [through?_congr ht, ho]

theorem natures_disarm (id : SocketId) (x : Exchange ν) :
    (x.disarm id).sockets.natures = x.sockets.natures := by
  have hkeeps : ∀ s : Socket,
      (if s.isLive = true then { s with interest := ⟨true, false⟩ } else s).nature = s.nature :=
    fun s => by split_ifs <;> rfl
  exact Sockets.natures_modify x.sockets id hkeeps

/-- Asking no longer to be told changes nothing about what waits. -/
theorem waiting_disarm (id : SocketId) (x : Exchange ν) (i : SocketId) :
    (x.disarm id).waiting i = x.waiting i :=
  waiting_congr (y := x.disarm id) (x := x) rfl (target?_congr rfl (natures_disarm id x) rfl) i

theorem isHeld_disarm (id : SocketId) (x : Exchange ν) (i : SocketId) :
    (x.disarm id).isHeld i = x.isHeld i :=
  isHeld_congr (y := x.disarm id) (x := x) rfl (natures_disarm id x) rfl i

/-- Nothing waits where there is no next write. -/
theorem waiting_of_none {id : SocketId} (h : x.nextWrite? id = none) : x.waiting id = [] := by
  unfold nextWrite? Outbox.position? at h
  refine List.filterMap_eq_nil_iff.mpr fun w hw => Option.eq_none_iff_forall_ne_some.mpr fun p hp => ?_
  obtain ⟨-, ht⟩ := through?_eq_some.mp hp
  cases hi : x.outbox.writes.findIdx? fun w => (x.target? w.channel).any (·.1 == id) with
  | none =>
    have hno := List.findIdx?_eq_none_iff.mp hi w hw
    rw [ht] at hno
    simp at hno
  | some i =>
    obtain ⟨hlt, -⟩ := List.findIdx?_eq_some_iff_getElem.mp hi
    rw [hi, Option.bind_some, List.getElem?_eq_getElem hlt] at h
    exact nomatch h

/-- The next write of a socket is the first that waits there. -/
theorem waiting_of_nextWrite? {id : SocketId} {i : Nat} {w : Write} {target : Option Endpoint}
    (h : x.nextWrite? id = some (i, w, target)) :
    x.waiting id = (w, target) :: (x.outbox.writes.drop (i + 1)).filterMap (x.through? id) := by
  obtain ⟨hget, ht, hbefore⟩ := nextWrite?_spec h
  have hnone : (x.outbox.writes.take i).filterMap (x.through? id) = [] :=
    List.filterMap_eq_nil_iff.mpr fun v hv => Option.eq_none_iff_forall_ne_some.mpr fun p hp =>
      hbefore v hv p.2 (through?_eq_some.mp hp).2
  have hfirst : x.through? id w = some (w, target) := through?_eq_some.mpr ⟨rfl, ht⟩
  have hsplit := congrArg (List.filterMap (x.through? id)) (eq_take_cons_drop hget)
  rw [List.filterMap_append, hnone, List.nil_append, List.filterMap_cons_some hfirst] at hsplit
  exact hsplit

/-- What waits first is the next write. -/
theorem nextWrite?_of_waiting {id : SocketId} {w : Write} {target : Option Endpoint}
    {rest : List (Write × Option Endpoint)} (h : x.waiting id = (w, target) :: rest) :
    ∃ i, x.nextWrite? id = some (i, w, target) ∧
      (x.outbox.writes.drop (i + 1)).filterMap (x.through? id) = rest := by
  cases hnext : x.nextWrite? id with
  | none => exact nomatch (waiting_of_none hnext).symm.trans h
  | some next =>
    obtain ⟨i, w', target'⟩ := next
    obtain ⟨hfirst, hrest⟩ := List.cons.inj ((waiting_of_nextWrite? hnext).symm.trans h)
    obtain ⟨rfl, rfl⟩ := Prod.mk.inj hfirst
    exact ⟨i, rfl, hrest⟩

/-! ### After a piece has gone -/

theorem target?_sendBytes (id : SocketId) (s : Socket) (i : Nat) (w : Write)
    (target : Option Endpoint) (count : Nat) (x : Exchange ν) (c : Channel) :
    (x.sendBytes id s i w target count).target? c = x.target? c := by
  obtain ⟨_, _, hcore, heq⟩ := sendBytes_eq id s i w target count x
  rw [heq]
  refine target?_congr ?_ ?_ ?_ c
  · rfl
  · rfl
  · exact hcore

/-- A write of which nothing is left, or a datagram, leaves the outbox. -/
theorem outbox_sendBytes (id : SocketId) (s : Socket) (i : Nat) (w : Write)
    (target : Option Endpoint) (count : Nat) (x : Exchange ν) :
    (x.sendBytes id s i w target count).outbox =
      if (w.advance count).remaining = [] ∨ s.medium ≠ .connection then x.outbox.remove i
      else x.outbox.advance i count := by
  unfold sendBytes settle
  dsimp only
  split_ifs
  · cases w.call <;> rfl
  · rfl

/-- **A write goes out whole:** it leaves the outbox, and its call is told. -/
theorem sendBytes_last (id : SocketId) (s : Socket) (i : Nat) (w : Write) (target : Option Endpoint)
    (x : Exchange ν) : x.sendBytes id s i w target w.remaining.length =
      { x with
        outbox := x.outbox.remove i
        directory := x.directory.told w
        journal := .sent id (target <|> s.farEnd) w w.remaining.length :: x.journal } := by
  have hlast : (w.advance w.remaining.length).remaining = [] := by
    rw [w.remaining_advance, List.drop_length]
  unfold sendBytes settle
  dsimp only
  rw [if_pos (.inl hlast), Nat.min_self]
  cases hcall : w.call <;> rw [told, hcall] <;> rfl

theorem modify_advance {ws : List Write} {i : Nat} {w : Write} (h : ws[i]? = some w)
    (count : Nat) :
    ws.modify i (·.advance count) = ws.take i ++ w.advance count :: ws.drop (i + 1) := by
  obtain ⟨hlt, rfl⟩ := List.getElem?_eq_some_iff.mp h
  rw [List.modify_eq_take_cons_drop hlt]

/-- **What waits after a piece has gone:** the rest of the write before the others, or the others
alone. -/
theorem waiting_sendBytes {id : SocketId} (s : Socket) {i : Nat} {w : Write}
    {target : Option Endpoint} (h : x.nextWrite? id = some (i, w, target)) (count : Nat) :
    (x.sendBytes id s i w target count).waiting id =
      (if (w.advance count).remaining = [] ∨ s.medium ≠ .connection then []
        else [(w.advance count, target)]) ++
          (x.outbox.writes.drop (i + 1)).filterMap (x.through? id) := by
  obtain ⟨hget, ht, hbefore⟩ := nextWrite?_spec h
  have hnone : (x.outbox.writes.take i).filterMap (x.through? id) = [] :=
    List.filterMap_eq_nil_iff.mpr fun v hv => Option.eq_none_iff_forall_ne_some.mpr fun p hp =>
      hbefore v hv p.2 (through?_eq_some.mp hp).2
  have hfirst : x.through? id (w.advance count) = some (w.advance count, target) :=
    through?_eq_some.mpr ⟨rfl, ht⟩
  unfold waiting
  rw [through?_congr (target?_sendBytes id s i w target count x) id, outbox_sendBytes]
  split_ifs with hgone
  · rw [Outbox.remove, List.eraseIdx_eq_take_drop_succ, List.filterMap_append, hnone]
  · rw [Outbox.advance, modify_advance hget, List.filterMap_append, hnone, List.nil_append,
      List.filterMap_cons_some hfirst]
    rfl

/-- What goes out through one socket does not wait at another. -/
theorem waiting_sendBytes_of_ne {id i : SocketId} (hi : i ≠ id) (s : Socket) {k : Nat} {w : Write}
    {target : Option Endpoint} (h : x.nextWrite? i = some (k, w, target)) (count : Nat) :
    (x.sendBytes i s k w target count).waiting id = x.waiting id := by
  obtain ⟨hget, ht, -⟩ := nextWrite?_spec h
  have hnone : ∀ v : Write, v.channel = w.channel → x.through? id v = none := fun v hv =>
    Option.eq_none_iff_forall_ne_some.mpr fun p hp => by
      have hp := (through?_eq_some.mp hp).2
      rw [hv, ht] at hp
      exact hi (Prod.mk.inj (Option.some.inj hp)).1
  have hwaiting : x.waiting id = (x.outbox.writes.take k).filterMap (x.through? id) ++
      (x.outbox.writes.drop (k + 1)).filterMap (x.through? id) := by
    have hsplit := congrArg (List.filterMap (x.through? id)) (eq_take_cons_drop hget)
    rw [List.filterMap_append, List.filterMap_cons_none (hnone w rfl)] at hsplit
    exact hsplit
  rw [hwaiting, waiting, through?_congr (target?_sendBytes i s k w target count x) id,
    outbox_sendBytes]
  split_ifs
  · rw [Outbox.remove, List.eraseIdx_eq_take_drop_succ, List.filterMap_append]
  · rw [Outbox.advance, modify_advance hget, List.filterMap_append,
      List.filterMap_cons_none (hnone (w.advance count) rfl)]

/-- **A piece that has gone leaves less to do,** unless it was none. -/
theorem work_sendBytes_lt {id : SocketId} (s : Socket) {i : Nat} {w : Write}
    {target : Option Endpoint} (h : x.nextWrite? id = some (i, w, target)) {count : Nat}
    (hcount : count = 0 → w.remaining = []) :
    (x.sendBytes id s i w target count).outbox.work < x.outbox.work := by
  have hget := (nextWrite?_spec h).1
  have hwork : x.outbox.work = Outbox.work { writes := x.outbox.writes.take i } +
      (w.remaining.length + 1 + Outbox.work { writes := x.outbox.writes.drop (i + 1) }) := by
    have hsplit := congrArg (fun ws => Outbox.work { writes := ws }) (eq_take_cons_drop hget)
    rw [Outbox.work_append] at hsplit
    exact hsplit
  rw [outbox_sendBytes, hwork]
  split_ifs with hgone
  · have hremoved : (x.outbox.remove i).work = Outbox.work { writes := x.outbox.writes.take i } +
        Outbox.work { writes := x.outbox.writes.drop (i + 1) } := by
      rw [← Outbox.work_append, ← List.eraseIdx_eq_take_drop_succ]
      rfl
    omega
  · have hadvanced : (x.outbox.advance i count).work =
        Outbox.work { writes := x.outbox.writes.take i } + ((w.advance count).remaining.length + 1 +
          Outbox.work { writes := x.outbox.writes.drop (i + 1) }) := by
      have hmodify := Outbox.work_append (x.outbox.writes.take i)
        (w.advance count :: x.outbox.writes.drop (i + 1))
      rw [← modify_advance hget] at hmodify
      exact hmodify
    have hleft := congrArg List.length (w.remaining_advance count)
    rw [List.length_drop] at hleft
    have hsome : 0 < w.remaining.length := by
      rw [List.length_pos_iff]
      rintro hnil
      exact hgone (.inl (by rw [w.remaining_advance, hnil, List.drop_nil]))
    have hpos : count ≠ 0 := fun hzero => by simp [hcount hzero] at hsome
    omega

/-! ### Attempts -/

variable [Network ν]

theorem attempt_of_held {id : SocketId} (h : x.isHeld id = true) : x.attempt id = .rest x :=
  if_pos h

theorem attempt_of_none {id : SocketId} (h : x.waiting id = []) : x.attempt id = .rest x := by
  have hnone : x.nextWrite? id = none := by
    cases hnext : x.nextWrite? id with
    | none => rfl
    | some next => exact nomatch h.symm.trans (waiting_of_nextWrite? hnext)
  unfold attempt
  rw [hnone]
  exact ite_self _

/-- **An attempt is about the first write that waits.** -/
theorem attempt_of_waiting {id : SocketId} {s : Socket} {i : Nat} {w : Write}
    {target : Option Endpoint} (hheld : x.isHeld id = false) (hs : x.sockets.find? id = some s)
    (hm : s.medium ≠ .acceptor) (hnext : x.nextWrite? id = some (i, w, target)) :
    x.attempt id =
      match Network.send id (if s.medium = .datagram then target else none) w.remaining x.network with
      | (.wouldBlock, network) => .stop { x with network }
      | (.failed _, network) => .stop (reportFault id { x with network }).2
      | (.took count, network) =>
        if count = 0 ∧ w.remaining ≠ [] then .stop { x with network }
        else .again (sendBytes id s i w target count { x with network }) := by
  unfold attempt
  rw [if_neg (by simp [hheld]), hnext]
  dsimp only
  rw [hs]
  dsimp only
  rw [if_neg hm]
  rfl

end Exchange

end Switchboard
