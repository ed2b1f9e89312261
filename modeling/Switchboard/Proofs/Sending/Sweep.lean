import Switchboard.Proofs.Sending.Stranded

/-!
# A pass over the writes of a socket

`writeSocket` looks for the next write anew after every attempt.  What it comes to can be told from
the outbox alone, where the network takes all that it is given: it *sweeps* the outbox
(`Exchange.swept`) from the oldest write up to the first one through the socket whose blocking call
has not been told that its write has gone.  Of the writes on the way, those through the socket go
out, each to its own address, and the others stay where they are (`Reachable.writeSocket_sweeps`).

The proof takes one write after the other (`sendBytes_last`).  One whose call is over changes no
call, so the sweep goes on beyond it as if it had not been there (`swept_sendBytes`); one that is
expected makes its own call await the reply, which holds the socket (`isHeld_of_marked`).  That the
attempts come to an end does not depend on the network (`endsIn_sendAll`).
-/

namespace Switchboard

open Net Directory

/-! ### Up to the first -/

section

variable {α β : Type} {p : α → Bool}

/-- What stands in a list up to the first entry that passes a test, with that entry. -/
def upTo (p : α → Bool) (as : List α) : List α :=
  as.take (as.findIdx p + 1)

/-- What stands beyond the first entry that passes a test. -/
def beyond (p : α → Bool) (as : List α) : List α :=
  as.drop (as.findIdx p + 1)

theorem upTo_append {as bs : List α} (h : ∀ a ∈ as, p a = false) :
    upTo p (as ++ bs) = as ++ upTo p bs := by
  have hindex : (as ++ bs).findIdx p = as.length + bs.findIdx p := by
    rw [List.findIdx_append, List.findIdx_eq_length_of_false h, if_neg (Nat.lt_irrefl _),
      Nat.add_comm]
  rw [upTo, hindex, Nat.add_assoc, List.take_length_add_append]
  rfl

theorem beyond_append {as bs : List α} (h : ∀ a ∈ as, p a = false) :
    beyond p (as ++ bs) = beyond p bs := by
  have hindex : (as ++ bs).findIdx p = as.length + bs.findIdx p := by
    rw [List.findIdx_append, List.findIdx_eq_length_of_false h, if_neg (Nat.lt_irrefl _),
      Nat.add_comm]
  rw [beyond, hindex, Nat.add_assoc, List.drop_length_add_append]
  rfl

theorem upTo_nil : upTo p [] = [] :=
  rfl

theorem beyond_nil : beyond p [] = [] :=
  rfl

theorem upTo_cons_of_pos {a : α} {as : List α} (h : p a = true) : upTo p (a :: as) = [a] := by
  simp [upTo, List.findIdx_cons, h]

theorem beyond_cons_of_pos {a : α} {as : List α} (h : p a = true) : beyond p (a :: as) = as := by
  simp [beyond, List.findIdx_cons, h]

end

namespace Exchange

variable {ν : Type} {x y : Exchange ν} {id : SocketId}

/-! ### What a sweep comes to -/

instance (w : Write) : Decidable (x.Expects w) :=
  decidable_of_iff
    (w.call.any (fun g => (x.directory.call w.channel).pending == .queued g) = true)
    (by simp [Expects, Option.any_eq_true])

/-- **Where a sweep ends:** the write goes through the socket, and its blocking call has not been told
that it has gone. -/
def halts (id : SocketId) (x : Exchange ν) (w : Write) : Bool :=
  (x.through? id w).isSome && decide (x.Expects w)

/-- The write at which a sweep ends. -/
def halting? (id : SocketId) (x : Exchange ν) : Option Write :=
  x.outbox.writes.find? (x.halts id)

/-- The writes that go out in a sweep, in their order, each with the address it goes to. -/
def leaving (id : SocketId) (x : Exchange ν) : List (Write × Option Endpoint) :=
  (upTo (x.halts id) x.outbox.writes).filterMap (x.through? id)

/-- The writes that a sweep leaves where they are. -/
def staying (id : SocketId) (x : Exchange ν) : List Write :=
  ((upTo (x.halts id) x.outbox.writes).filter fun w => (x.through? id w).isNone) ++
    beyond (x.halts id) x.outbox.writes

/-- A network after it was given what remains of a write.  Only a socket for datagrams is told where
it goes. -/
def transmit [Network ν] (id : SocketId) (s : Socket) (network : ν) (p : Write × Option Endpoint) : ν :=
  (Network.send id (if s.medium = .datagram then p.2 else none) p.1.remaining network).2

/-- **The exchange after a sweep.** -/
def swept [Network ν] (id : SocketId) (s : Socket) (x : Exchange ν) : Exchange ν :=
  { x with
    outbox := { x.outbox with writes := x.staying id }
    directory := (x.halting? id).elim x.directory x.directory.told
    network := (x.leaving id).foldl (transmit id s) x.network
    journal := ((x.leaving id).map fun p =>
      .sent id (p.2 <|> s.farEnd) p.1 p.1.remaining.length).reverse ++ x.journal }

/-- What does not go through the socket does not end a sweep of it. -/
theorem halts_of_none {w : Write} (h : x.through? id w = none) : x.halts id w = false := by
  rw [halts, h]
  rfl

theorem halts_iff {w : Write} {target : Option Endpoint}
    (ht : x.target? w.channel = some (id, target)) : x.halts id w = true ↔ x.Expects w := by
  rw [halts, through?_eq_some.mpr (⟨rfl, ht⟩ : (w, target).1 = w ∧ _), Option.isSome_some,
    Bool.true_and, decide_eq_true_eq]

theorem halts_congr (ht : ∀ c, y.target? c = x.target? c)
    (hd : ∀ c, y.directory.call c = x.directory.call c) : y.halts id = x.halts id := by
  funext w
  rw [halts, halts, through?_congr ht, decide_eq_decide.mpr (expects_congr (hd w.channel))]

/-- A sweep passes over the writes of other sockets. -/
theorem passes_over {before after : List Write} (hw : x.outbox.writes = before ++ after)
    (hbefore : ∀ v ∈ before, x.through? id v = none) :
    x.leaving id = (upTo (x.halts id) after).filterMap (x.through? id) ∧
      x.staying id = before ++ (((upTo (x.halts id) after).filter fun w => (x.through? id w).isNone) ++
        beyond (x.halts id) after) ∧
      x.halting? id = after.find? (x.halts id) := by
  have hquiet : ∀ v ∈ before, x.halts id v = false := fun v hv => halts_of_none (hbefore v hv)
  refine ⟨?_, ?_, ?_⟩
  · rw [leaving, hw, upTo_append hquiet, List.filterMap_append,
      List.filterMap_eq_nil_iff.mpr hbefore, List.nil_append]
  · have hkept : (before.filter fun w => (x.through? id w).isNone) = before :=
      List.filter_eq_self.mpr fun v hv => by rw [hbefore v hv]; rfl
    rw [staying, hw, upTo_append hquiet, beyond_append hquiet, List.filter_append, hkept,
      List.append_assoc]
  · have hnone : before.find? (x.halts id) = none :=
      List.find?_eq_none.mpr fun v hv => by rw [hquiet v hv]; exact Bool.false_ne_true
    rw [halting?, hw, List.find?_append, hnone, Option.none_or]

variable [Network ν]

/-- Where nothing waits, a sweep changes nothing. -/
theorem swept_of_none (s : Socket) (h : x.waiting id = []) : x.swept id s = x := by
  have hnone : ∀ w ∈ x.outbox.writes, x.through? id w = none := List.filterMap_eq_nil_iff.mp h
  obtain ⟨hleaving, hstaying, hhalting⟩ := passes_over (List.append_nil x.outbox.writes).symm hnone
  rw [upTo_nil, List.filterMap_nil] at hleaving
  rw [upTo_nil, beyond_nil, List.filter_nil, List.append_nil, List.append_nil] at hstaying
  rw [List.find?_nil] at hhalting
  rw [swept, hleaving, hstaying, hhalting]
  rfl

/-! ### One write of it -/

/-- The exchange after the network has taken a write whole. -/
def handOver (id : SocketId) (s : Socket) (i : Nat) (w : Write) (target : Option Endpoint)
    (x : Exchange ν) : Exchange ν :=
  sendBytes id s i w target w.remaining.length
    { x with network := transmit id s x.network (w, target) }

/-- Only the outbox, the directory, the network and the journal change. -/
theorem handOver_eq (s : Socket) (i : Nat) (w : Write) (target : Option Endpoint) (x : Exchange ν) :
    x.handOver id s i w target =
      { x with
        outbox := x.outbox.remove i
        directory := x.directory.told w
        network := transmit id s x.network (w, target)
        journal := .sent id (target <|> s.farEnd) w w.remaining.length :: x.journal } :=
  sendBytes_last id s i w target { x with network := transmit id s x.network (w, target) }

theorem target?_handOver (s : Socket) (i : Nat) (w : Write) (target : Option Endpoint)
    (x : Exchange ν) (c : Channel) : (x.handOver id s i w target).target? c = x.target? c :=
  (target?_sendBytes id s i w target w.remaining.length _ c).trans (target?_congr rfl rfl rfl c)

section

variable {s : Socket} {i : Nat} {w : Write} {target : Option Endpoint}

omit [Network ν] in
/-- What stands before the next write of a socket goes elsewhere. -/
theorem before_nextWrite? (h : x.nextWrite? id = some (i, w, target)) :
    ∀ v ∈ x.outbox.writes.take i, x.through? id v = none := fun v hv =>
  Option.eq_none_iff_forall_ne_some.mpr fun p hp =>
    (nextWrite?_spec h).2.2 v hv p.2 (through?_eq_some.mp hp).2

/-- **The sweep ends** with a write whose call is expected. -/
theorem swept_of_expects (h : x.nextWrite? id = some (i, w, target)) (hexpects : x.Expects w) :
    x.swept id s = x.handOver id s i w target := by
  obtain ⟨hget, ht, -⟩ := nextWrite?_spec h
  have hthrough : x.through? id w = some (w, target) := through?_eq_some.mpr ⟨rfl, ht⟩
  have hhalts : x.halts id w = true := (halts_iff ht).mpr hexpects
  obtain ⟨hleaving, hstaying, hhalting⟩ := passes_over (eq_take_cons_drop hget) (before_nextWrite? h)
  rw [upTo_cons_of_pos hhalts, List.filterMap_cons_some hthrough, List.filterMap_nil] at hleaving
  rw [upTo_cons_of_pos hhalts, beyond_cons_of_pos hhalts, List.filter_singleton, hthrough] at hstaying
  rw [List.find?_cons_of_pos hhalts] at hhalting
  have hremoved : (x.outbox.remove i) = { x.outbox with writes := x.staying id } := by
    rw [hstaying, Outbox.remove, List.eraseIdx_eq_take_drop_succ]
    rfl
  rw [handOver_eq, swept, hleaving, hhalting]
  dsimp only
  rw [hremoved]
  rfl

/-- **The sweep goes on** beyond a write whose call is not expected, as if it had not been there. -/
theorem swept_sendBytes (h : x.nextWrite? id = some (i, w, target)) (hexpects : ¬ x.Expects w) :
    x.swept id s = (x.handOver id s i w target).swept id s := by
  obtain ⟨hget, ht, -⟩ := nextWrite?_spec h
  have hbefore := before_nextWrite? h
  have hthrough : x.through? id w = some (w, target) := through?_eq_some.mpr ⟨rfl, ht⟩
  have hgoes : ∀ v ∈ [w], x.halts id v = false := fun v hv =>
    List.mem_singleton.mp hv ▸ Bool.eq_false_iff.mpr fun hh => hexpects ((halts_iff ht).mp hh)
  have htold : x.directory.told w = x.directory := told_of_not_expects hexpects
  obtain ⟨hleaving, hstaying, hhalting⟩ := passes_over (eq_take_cons_drop hget) hbefore
  rw [← List.singleton_append, upTo_append hgoes, List.filterMap_append,
    List.filterMap_cons_some hthrough, List.filterMap_nil] at hleaving
  rw [← List.singleton_append, upTo_append hgoes, beyond_append hgoes, List.filter_append,
    List.filter_singleton, hthrough] at hstaying
  rw [List.find?_cons_of_neg (by simp [hgoes w])] at hhalting
  -- Behind the write the sweep sees the same targets and the same calls.
  rw [handOver_eq, htold]
  generalize hy : ({ x with
    network := transmit id s x.network (w, target)
    outbox := x.outbox.remove i
    directory := x.directory
    journal := .sent id (target <|> s.farEnd) w w.remaining.length :: x.journal } : Exchange ν) = y
  have htarget : ∀ c, y.target? c = x.target? c := fun c => by
    rw [← hy]
    exact target?_congr rfl rfl rfl c
  have hhalts : y.halts id = x.halts id := halts_congr htarget fun c => by rw [← hy]
  have hwrites : y.outbox.writes = x.outbox.writes.take i ++ x.outbox.writes.drop (i + 1) := by
    rw [← hy]
    exact List.eraseIdx_eq_take_drop_succ ..
  have hbefore' : ∀ v ∈ x.outbox.writes.take i, y.through? id v = none := fun v hv => by
    rw [through?_congr htarget]
    exact hbefore v hv
  obtain ⟨hleaving', hstaying', hhalting'⟩ := passes_over hwrites hbefore'
  rw [through?_congr htarget, hhalts] at hleaving' hstaying'
  rw [hhalts] at hhalting'
  have hleft : x.leaving id = (w, target) :: y.leaving id := by rw [hleaving, hleaving']; rfl
  have hkept : x.staying id = y.staying id := by rw [hstaying, hstaying']; rfl
  rw [swept, swept, hleft, hkept, hhalting, ← hhalting', List.foldl_cons, List.map_cons,
    List.reverse_cons, List.append_assoc]
  rw [← hy]
  rfl

end

/-! ### Who owns a socket -/

omit [Network ν] in
/-- **Who sends through a socket is linked to its owner,** which is the listener for a connection
that was taken in, and else the socket itself. -/
theorem owner?_of_target? (h : x.outline.Sound) {c : Channel} {target : Option Endpoint}
    (ht : x.target? c = some (id, target)) :
    ∃ owner, x.owner? id = some owner ∧ x.directory.socketOf c.id = some owner := by
  rcases links_of_target? h ht with ⟨hlink, -⟩ | ⟨l, n, hl, hlink, hn, hr, -⟩
  · refine ⟨id, ?_, (links_iff h).mp hlink⟩
    obtain ⟨e, he, -, hsocket⟩ := hlink
    obtain ⟨n, hn, hfits⟩ := h.linked e he id hsocket
    obtain ⟨s, hs, rfl⟩ := find?_of_mem_natures h hn
    have hrole : s.role ≠ .accepted := by
      rcases hfits with ⟨hr, -⟩ | ⟨hr, -⟩ <;> rw [show s.role = s.nature.role from rfl, hr] <;> decide
    unfold owner?
    rw [hs]
    exact if_neg hrole
  · obtain ⟨s, hs, rfl⟩ := find?_of_mem_natures h hn
    refine ⟨l, ?_, (links_iff h).mp hlink⟩
    unfold owner?
    rw [hs]
    exact (if_pos hr).trans hl

/-! ### Whole passes -/

/-- **All that is sent through the socket is taken,** in the states of the network that some property
singles out and that sending does not leave. -/
structure Willing (good : ν → Prop) (id : SocketId) : Prop where
  send : ∀ target data m, good m → good (Network.send id target data m).2
  takes : ∀ target data m, good m → (Network.send id target data m).1 = .took data.length

/-- **What holds throughout a pass** over the writes of a socket. -/
structure Handles (good : ν → Prop) (id : SocketId) (s : Socket) (x : Exchange ν) : Prop where
  found : x.sockets.find? id = some s
  numbered : x.directory.core.Numbered
  owned : ∀ c target, x.target? c = some (id, target) →
    ∃ owner, x.owner? id = some owner ∧ x.directory.socketOf c.id = some owner
  calm : good x.network

section

variable {good : ν → Prop} {s : Socket} {i : Nat} {w : Write} {target : Option Endpoint}
  (hgood : Willing good id) (hm : s.medium ≠ .acceptor) (h : Handles good id s x)

include hgood h

theorem handles_handOver (i : Nat) (w : Write) (target : Option Endpoint) :
    Handles good id s (x.handOver id s i w target) := by
  obtain ⟨_, _, hcore, heq⟩ := sendBytes_eq id s i w target w.remaining.length
    { x with network := transmit id s x.network (w, target) }
  have htarget : ∀ c, (x.handOver id s i w target).target? c = x.target? c :=
    target?_handOver s i w target x
  rw [handOver, heq] at htarget ⊢
  refine ⟨h.found, hcore.symm ▸ h.numbered, fun c t ht => ?_, hgood.send _ _ _ h.calm⟩
  obtain ⟨owner, howner, hlink⟩ := h.owned c t ((htarget c).symm.trans ht)
  exact ⟨owner, howner, (socketOf_of_core hcore c.id).trans hlink⟩

include hm

/-- A willing network takes the first write that waits, whole. -/
theorem attempt_of_willing (hheld : x.isHeld id = false)
    (hnext : x.nextWrite? id = some (i, w, target)) :
    x.attempt id = .again (x.handOver id s i w target) := by
  have htakes := hgood.takes (if s.medium = .datagram then target else none) w.remaining x.network
    h.calm
  have hpair : Network.send id (if s.medium = .datagram then target else none) w.remaining x.network =
      (.took w.remaining.length, transmit id s x.network (w, target)) := Prod.ext htakes rfl
  rw [attempt_of_waiting hheld h.found hm hnext, hpair]
  dsimp only
  rw [if_neg fun h => h.2 (List.eq_nil_of_length_eq_zero h.1)]
  rfl

/-- **The attempts sweep the outbox,** if no call awaits its reply, and then nothing is asked for any
more. -/
theorem sendAll_sweeps (hheld : x.isHeld id = false) {fuel : Nat} (hfuel : x.outbox.work < fuel) :
    sendAll id fuel x = (x.swept id s).disarm id := by
  induction fuel generalizing x with
  | zero => exact absurd hfuel (Nat.not_lt_zero _)
  | succ fuel ih =>
    unfold sendAll
    cases hw : x.waiting id with
    | nil => rw [attempt_of_none hw, swept_of_none s hw]
    | cons p rest =>
      obtain ⟨w, target⟩ := p
      obtain ⟨i, hnext, -⟩ := nextWrite?_of_waiting hw
      rw [attempt_of_willing hgood hm h hheld hnext]
      dsimp only
      have hhandles := handles_handOver hgood h i w target
      have hless : (x.handOver id s i w target).outbox.work < x.outbox.work :=
        work_sendBytes_lt (x := { x with network := transmit id s x.network (w, target) }) s hnext
          (List.eq_nil_of_length_eq_zero (l := w.remaining))
      by_cases hexpects : x.Expects w
      · -- The call that awaits its reply holds back what is left.
        have hholds : (x.handOver id s i w target).isHeld id = true := by
          obtain ⟨owner, howner, hlink⟩ := hhandles.owned w.channel target
            ((target?_handOver s i w target x w.channel).trans (nextWrite?_spec hnext).2.1)
          exact isHeld_of_owner hhandles.numbered howner hlink
            (awaits_of_told hexpects (by rw [handOver_eq]))
        obtain ⟨fuel, rfl⟩ := Nat.exists_eq_succ_of_ne_zero (show fuel ≠ 0 by omega)
        unfold sendAll
        rw [attempt_of_held hholds, swept_of_expects hnext hexpects]
      · have hfree : (x.handOver id s i w target).isHeld id = false := by
          rw [handOver_eq, told_of_not_expects hexpects]
          exact (isHeld_congr rfl rfl rfl id).trans hheld
        rw [swept_sendBytes hnext hexpects]
        exact ih hhandles hfree (by omega)

end

/-! ### The attempts come to an end -/

/-- **Attempt after attempt,** for as long as there may be more to send. -/
inductive EndsIn (id : SocketId) : Exchange ν → Exchange ν → Prop
  | rest {x y : Exchange ν} (h : x.attempt id = .rest y) : EndsIn id x (y.disarm id)
  | stop {x y : Exchange ν} (h : x.attempt id = .stop y) : EndsIn id x y
  | again {x y z : Exchange ν} (h : x.attempt id = .again y) (h' : EndsIn id y z) : EndsIn id x z

/-- **An attempt that is followed by another leaves less to do.** -/
theorem work_of_again (h : x.attempt id = .again y) : y.outbox.work < x.outbox.work := by
  unfold attempt at h
  split_ifs at h with hheld
  split at h
  · exact nomatch h
  · rename_i i w target hnext
    split at h
    · exact nomatch h
    · rename_i s hs
      by_cases hm : s.medium = .acceptor
      · rw [if_pos hm] at h
        exact nomatch h
      rw [if_neg hm] at h
      split at h
      · exact nomatch h
      · exact nomatch h
      · rename_i count network hanswer
        split_ifs at h with hzero
        obtain rfl := Attempt.again.inj h
        exact work_sendBytes_lt (x := { x with network }) s hnext fun hcount =>
          not_not.mp fun hsome => hzero ⟨hcount, hsome⟩

/-- So they come to an end, whatever the network answers, and as many as there is work are enough. -/
theorem endsIn_sendAll {fuel : Nat} (hfuel : x.outbox.work < fuel) :
    EndsIn id x (sendAll id fuel x) := by
  induction fuel generalizing x with
  | zero => exact absurd hfuel (Nat.not_lt_zero _)
  | succ fuel ih =>
    unfold sendAll
    split
    · rename_i y hy
      exact .again hy (ih (Nat.lt_of_lt_of_le (work_of_again hy) (Nat.le_of_lt_succ hfuel)))
    · rename_i y hy
      exact .rest hy
    · rename_i y hy
      exact .stop hy

/-- They end in one way only. -/
theorem EndsIn.eq {z : Exchange ν} (h : EndsIn id x y) (h' : EndsIn id x z) : y = z := by
  induction h with
  | rest h =>
    cases h' with
    | rest h' => rw [Attempt.rest.inj (h.symm.trans h')]
    | stop h' => exact nomatch h.symm.trans h'
    | again h' => exact nomatch h.symm.trans h'
  | stop h =>
    cases h' with
    | rest h' => exact nomatch h.symm.trans h'
    | stop h' => exact Attempt.stop.inj (h.symm.trans h')
    | again h' => exact nomatch h.symm.trans h'
  | again h _ ih =>
    cases h' with
    | rest h' => exact nomatch h.symm.trans h'
    | stop h' => exact nomatch h.symm.trans h'
    | again h' hrest => exact ih (Attempt.again.inj (h.symm.trans h') ▸ hrest)

/-! ### Passes in every state -/

/-- **What a pass over the writes of a socket comes to,** in every state and for every outbox, where
the network takes all that it is given.  The attempts come to an end.  While a channel of the owner
of the socket awaits a reply, nothing is sent.  Else the pass sweeps the outbox: the writes that go
through the socket go out whole, in their order and each to its own address, up to the first one
whose call has not been told, and all others stay as they are.  That call awaits its reply from then
on, and no other call changes. -/
theorem Reachable.writeSocket_sweeps (h : x.Reachable) (outbox : Outbox) {s : Socket}
    (hs : x.sockets.find? id = some s) (hm : s.medium ≠ .acceptor) {good : ν → Prop}
    (hgood : Willing good id) (hcalm : good x.network) :
    let z := { x with outbox }
    (∀ y, EndsIn id z y ↔ y = z.writeSocket id) ∧
      ((∃ owner, z.owner? id = some owner ∧
          ∃ c ∈ z.directory.onSocket owner, z.directory.isAwaiting c = true) →
        z.writeSocket id = z.disarm id) ∧
      ((∀ owner, z.owner? id = some owner →
          ∀ c ∈ z.directory.onSocket owner, z.directory.isAwaiting c = false) →
        z.writeSocket id = (z.swept id s).disarm id ∧
          (∀ w, z.halting? id = some w → (z.writeSocket id).Awaits w) ∧
          ∀ c, (∀ w, z.halting? id = some w → ¬ (c.home = w.channel.home ∧ c.id = w.channel.id)) →
            (z.writeSocket id).directory.call c = z.directory.call c) := by
  intro z
  have htarget : ∀ c, z.target? c = x.target? c := target?_congr rfl rfl rfl
  have hhandles : Handles good id s z :=
    ⟨hs, h.sound.numbered, fun c t ht => owner?_of_target? h.sound ((htarget c).symm.trans ht), hcalm⟩
  have hends : EndsIn id z (z.writeSocket id) := endsIn_sendAll (Nat.lt_succ_self _)
  refine ⟨fun y => ⟨fun hy => hy.eq hends, fun hy => hy ▸ hends⟩, fun hawaiting => ?_, fun hnone => ?_⟩
  · unfold writeSocket sendAll
    rw [attempt_of_held (isHeld_iff_owner.mpr hawaiting)]
  · have hheld : z.isHeld id = false := Bool.eq_false_iff.mpr fun hheld => by
      obtain ⟨owner, howner, c, hc, hawaits⟩ := isHeld_iff_owner.mp hheld
      exact Bool.false_ne_true ((hnone owner howner c hc).symm.trans hawaits)
    have hswept : z.writeSocket id = (z.swept id s).disarm id :=
      sendAll_sweeps hgood hm hhandles hheld (Nat.lt_succ_self _)
    have hdirectory : (z.writeSocket id).directory =
        (z.halting? id).elim z.directory z.directory.told := by rw [hswept]; rfl
    refine ⟨hswept, fun w hw => ?_, fun c hc => ?_⟩
    · rw [hw] at hdirectory
      refine awaits_of_told ?_ hdirectory
      have hhalts := List.find?_some hw
      rw [halts, Bool.and_eq_true, decide_eq_true_eq] at hhalts
      exact hhalts.2
    · cases hw : z.halting? id with
      | none => rw [hdirectory, hw]; rfl
      | some w =>
        rw [hdirectory, hw]
        exact call_told_of_ne _ (hc w hw)

/-! ### A mill -/

/-- A second outbound channel, to another remote than the crate. -/
def barrel : Channel :=
  ⟨0, 1, ⟨"barrel", "*", .outbound⟩, .endpoint (.of (.v4 .unspecified) 10)⟩

/-- An exchange where four writes wait: one of a call that is over, one of the other socket, one of a
call that is outstanding, and one behind it. -/
def mill : Exchange Roomy :=
  run { name := "mill", profile := { transport := .datagram }, network := {} } [
    .bind crate.subject crate.remote,
    .bind barrel.subject barrel.remote,
    .openUp,
    .ensureSocket crate,
    .ensureSocket barrel,
    .beginCall crate,
    .enqueue crate [1] (some 1),
    .finishCall crate 1,
    .enqueue barrel [2] none,
    .beginCall crate,
    .enqueue crate [3] (some 2),
    .enqueue crate [4] none]

theorem reachable_mill : mill.Reachable :=
  ⟨"mill", { transport := .datagram }, {}, _, _, rfl, rfl⟩

/-- The socket of the crate, which is to tell when it can be written. -/
def chute : Socket :=
  { Socket.outgoing .datagram (.of (.v4 .unspecified) 9) (.of (.v4 .unspecified) 9) with
    interest := ⟨true, true⟩ }

/-- **The write of the call that is over goes, and stops nothing;** that of the other call goes, too,
and holds back the one behind it.  What goes elsewhere stays where it is. -/
theorem sweeps_mill :
    mill.writeSocket 1001 = (mill.swept 1001 chute).disarm 1001 ∧
      mill.leaving 1001 = [(⟨0, crate, [1], 0, some 1⟩, none), (⟨2, crate, [3], 0, some 2⟩, none)] ∧
      mill.staying 1001 = [⟨1, barrel, [2], 0, none⟩, ⟨3, crate, [4], 0, none⟩] ∧
      (mill.writeSocket 1001).Awaits ⟨2, crate, [3], 0, some 2⟩ := by
  have hfound : mill.sockets.find? 1001 = some chute := by decide +kernel
  have hwilling : Willing (fun _ : Roomy => True) 1001 :=
    ⟨fun _ _ _ _ => trivial, fun _ _ _ _ => rfl⟩
  have hsweeps := reachable_mill.writeSocket_sweeps mill.outbox hfound nofun hwilling trivial
  have hsame : ({ mill with outbox := mill.outbox } : Exchange Roomy) = mill := rfl
  rw [hsame] at hsweeps
  obtain ⟨hswept, hawaits, -⟩ := hsweeps.2.2 (by decide +kernel)
  have hhalting : mill.halting? 1001 = some ⟨2, crate, [3], 0, some 2⟩ := by decide +kernel
  refine ⟨hswept, ?_, ?_, hawaits _ hhalting⟩
  · decide +kernel
  · decide +kernel

end Exchange

end Switchboard
