import Switchboard.Proofs.Changes
import Switchboard.Proofs.Links
import Mathlib.Data.List.Nodup

/-!
# Fresh numbers

No number of a socket is given twice (`Reachable.freshly_numbered`).  Four parts of the exchange draw
numbers: the listener, the outbound connections, the connections taken in, and the replacements of
failed sockets.  Each puts the socket into the table in the same step in which the next number is
drawn, and where opening a socket fails, the number is not given yet.

The `Numbers` of an exchange are the next number, the numbers in the table, and what the journal says
was opened and closed.  Whatever an exchange does to them is to give the next number to a new socket
and to take a socket out of the table (`Numbers.Step`, `steps_change`).  So what was opened has
ascending numbers, and in the table is what was opened and was not closed (`Numbers.Fresh`).

What was closed never comes back under its number.  An event on such a number, a report of its failure
and an attempt to replace it find nothing in the table, and change nothing.
-/

namespace Switchboard

open Net Settings Relation

/-- The socket that an event opened. -/
def Traffic.opened? : Traffic → Option SocketId
  | .opened socket => some socket
  | _ => none

/-- The socket that an event closed. -/
def Traffic.closed? : Traffic → Option SocketId
  | .closed socket => some socket
  | _ => none

/-! ### Numbers -/

/-- **The numbers of sockets:** the next one, those in the table, and those of the sockets that were
opened and that were closed, the earliest first. -/
structure Numbers where
  next : SocketId
  tracked : List SocketId
  opened : List SocketId
  closed : List SocketId

namespace Numbers

/-- **What happens to numbers.** -/
inductive Step : Numbers → Numbers → Prop
  /-- A new socket got the next number. -/
  | drawn (n : Numbers) {next : SocketId} (h : n.next < next) :
      Step n ⟨next, n.tracked ++ [n.next], n.opened ++ [n.next], n.closed⟩
  /-- A socket was closed. -/
  | dropped (n : Numbers) {id : SocketId} (h : id ∈ n.tracked) :
      Step n { n with tracked := n.tracked.filter (· != id), closed := n.closed ++ [id] }

/-- What happens to numbers, one thing after the other. -/
abbrev Steps : Numbers → Numbers → Prop :=
  ReflTransGen Step

/-- **Each number was given once,** in ascending order, and has not come back. -/
structure Fresh (n : Numbers) : Prop where
  first : 1000 ≤ n.next
  ascending : n.opened.Pairwise (· < ·)
  given : ∀ id ∈ n.opened, 1000 ≤ id ∧ id < n.next
  known : ∀ id ∈ n.closed, id ∈ n.opened
  tracked : n.tracked = n.opened.filter (· ∉ n.closed)

/-- **The second numbers come after the first.** -/
structure Later (n m : Numbers) : Prop where
  next : n.next ≤ m.next
  opened : ∃ more, m.opened = n.opened ++ more ∧ ∀ id ∈ more, n.next ≤ id
  closed : n.closed <+: m.closed

theorem Later.refl (n : Numbers) : Later n n :=
  ⟨Nat.le_refl _, ⟨[], (List.append_nil _).symm, nofun⟩, List.prefix_refl _⟩

theorem Later.trans {n m k : Numbers} (h : Later n m) (h' : Later m k) : Later n k := by
  obtain ⟨more, hm, hmore⟩ := h.opened
  obtain ⟨more', hk, hmore'⟩ := h'.opened
  refine ⟨Nat.le_trans h.next h'.next, ⟨more ++ more', ?_, fun id hid => ?_⟩,
    h.closed.trans h'.closed⟩
  · rw [hk, hm, List.append_assoc]
  · exact (List.mem_append.mp hid).elim (hmore id) fun hid => Nat.le_trans h.next (hmore' id hid)

variable {n m : Numbers}

theorem Later.step (h : Step n m) : Later n m := by
  cases h with
  | drawn h =>
    refine ⟨Nat.le_of_lt h, ⟨[n.next], rfl, fun id hid => ?_⟩, List.prefix_refl _⟩
    exact Nat.le_of_eq (List.mem_singleton.mp hid).symm
  | dropped h =>
    exact ⟨Nat.le_refl _, ⟨[], (List.append_nil _).symm, nofun⟩, List.prefix_append _ _⟩

theorem Later.steps (h : Steps n m) : Later n m := by
  induction h with
  | refl => exact .refl n
  | tail _ hstep ih => exact ih.trans (.step hstep)

/-- The next number was never given. -/
theorem Fresh.next_notMem (h : n.Fresh) : n.next ∉ n.opened :=
  fun hid => Nat.lt_irrefl _ (h.given _ hid).2

theorem Fresh.step (h : n.Fresh) (hs : Step n m) : m.Fresh := by
  cases hs with
  | @drawn next hnext =>
    refine ⟨Nat.le_trans h.first (Nat.le_of_lt hnext), ?_, fun id hid => ?_, fun id hid => ?_, ?_⟩
    · refine List.pairwise_append.mpr ⟨h.ascending, List.pairwise_singleton _ _, fun id hid j hj => ?_⟩
      rw [List.mem_singleton.mp hj]
      exact (h.given id hid).2
    · rcases List.mem_append.mp hid with hid | hid
      · exact ⟨(h.given id hid).1, Nat.lt_trans (h.given id hid).2 hnext⟩
      · rw [List.mem_singleton.mp hid]
        exact ⟨h.first, hnext⟩
    · exact List.mem_append_left _ (h.known id hid)
    · -- The next number was not given before, so it is not among the closed ones.
      have hnew : n.next ∉ n.closed := mt (h.known _) h.next_notMem
      have hone : [n.next].filter (· ∉ n.closed) = [n.next] := by simp [hnew]
      rw [List.filter_append, hone, ← h.tracked]
  | @dropped id hid =>
    refine ⟨h.first, h.ascending, h.given, fun i hi => ?_, ?_⟩
    · rcases List.mem_append.mp hi with hi | hi
      · exact h.known i hi
      · rw [List.mem_singleton.mp hi]
        rw [h.tracked] at hid
        exact List.mem_of_mem_filter hid
    · dsimp only
      rw [h.tracked, List.filter_filter]
      refine List.filter_congr fun i _ => ?_
      by_cases hi : i = id <;> simp [hi]

theorem Fresh.steps (h : n.Fresh) (hs : Steps n m) : m.Fresh := by
  induction hs with
  | refl => exact h
  | tail _ hstep ih => exact ih.step hstep

/-- What was closed is no longer in the table. -/
theorem Fresh.notMem_tracked (h : n.Fresh) {id : SocketId} (hid : id ∈ n.closed) :
    id ∉ n.tracked := by
  rw [h.tracked]
  intro hmem
  exact of_decide_eq_true (List.mem_filter.mp hmem).2 hid

theorem Fresh.of_mem_tracked (h : n.Fresh) {id : SocketId} (hid : id ∈ n.tracked) :
    1000 ≤ id ∧ id < n.next := by
  rw [h.tracked] at hid
  exact h.given id (List.mem_of_mem_filter hid)

end Numbers

/-! ### The first number -/

namespace Outline

variable {o o' : Outline} {k : SocketId}

theorem retries_rebind (t : Transport) (next : SocketId) :
    (o.rebind t next).retries = o.retries := by
  unfold rebind
  split <;> rfl

/-- **No number is below a bound:** not the next one, nor one of a socket, nor one of a socket that is
to be replaced. -/
structure AtLeast (k : SocketId) (o : Outline) : Prop where
  next : k ≤ o.nextSocket
  sockets : ∀ s ∈ o.sockets, k ≤ s.1
  retries : ∀ id ∈ o.retries, k ≤ id

namespace AtLeast

/-- New sockets have new numbers, so only the schedule is to be looked at. -/
theorem of_grows (h : o.AtLeast k) (hg : Grows o o') (hr : ∀ id ∈ o'.retries, k ≤ id) :
    o'.AtLeast k where
  next := Nat.le_trans h.next hg.next
  sockets s hs := (hg.sockets s hs).elim (h.sockets s) (Nat.le_trans h.next)
  retries := hr

theorem event (h : o.AtLeast k) (he : Event o o') : o'.AtLeast k := by
  have hg := grows_event he
  cases he with
  | rescheduled retries hr =>
    refine h.of_grows hg fun id hid => ?_
    rcases hr id hid with hold | ⟨n, hn, -⟩
    · exact h.retries id hold
    · exact h.sockets _ hn
  | _ => exact h.of_grows hg h.retries

theorem passMoves (h : o.AtLeast k) (hp : PassMoves o o') : o'.AtLeast k := by
  induction hp with
  | refl => exact h
  | tail _ hstep ih =>
    cases hstep with
    | event he => exact ih.event he
    | sent count => exact ⟨ih.next, ih.sockets, ih.retries⟩

theorem move (h : o.AtLeast k) (hm : Move o o') : o'.AtLeast k := by
  have hg := grows_move hm
  cases hm with
  | event he => exact h.event he
  | passed p hpass hp hstay =>
    have hpassed := h.passMoves hpass
    exact ⟨hpassed.next, hpassed.sockets, hpassed.retries⟩
  | closed ho => exact h.of_grows hg nofun
  | moved t next ho hnext =>
    refine h.of_grows hg fun id hid => h.retries id ?_
    rw [← retries_rebind t next]
    split at hid
    · exact List.mem_of_mem_filter hid
    · exact hid
  | retained p => exact h.of_grows hg fun id hid => h.retries id (List.mem_of_mem_filter hid)
  | _ => exact h.of_grows hg h.retries

theorem moves (h : o.AtLeast k) (hm : Moves o o') : o'.AtLeast k := by
  induction hm with
  | refl => exact h
  | tail _ hstep ih => exact ih.move hstep

end AtLeast

end Outline

namespace Exchange

variable {ν : Type} {x y z : Exchange ν}

/-- The sockets that were opened, the earliest first. -/
def openings (x : Exchange ν) : List SocketId :=
  x.journal.reverse.filterMap Traffic.opened?

/-- The sockets that were closed, the earliest first. -/
def closings (x : Exchange ν) : List SocketId :=
  x.journal.reverse.filterMap Traffic.closed?

/-- The numbers of an exchange. -/
def numbers (x : Exchange ν) : Numbers where
  next := x.nextSocket
  tracked := x.sockets.map Prod.fst
  opened := x.openings
  closed := x.closings

/-! ### What leaves numbers alone -/

theorem numbers_congr (hnext : y.nextSocket = x.nextSocket)
    (htracked : y.sockets.map Prod.fst = x.sockets.map Prod.fst) (hjournal : y.journal = x.journal) :
    y.numbers = x.numbers := by
  unfold numbers openings closings
  rw [hnext, htracked, hjournal]

/-- An event that opens and closes nothing. -/
theorem numbers_record {t : Traffic} (ho : t.opened? = none) (hc : t.closed? = none)
    (x : Exchange ν) : (x.record t).numbers = x.numbers := by
  simp [numbers, openings, closings, record, ho, hc]

theorem numbers_announceAll (id : SocketId) (cs : List Channel) (x : Exchange ν) :
    (x.announceAll id cs).numbers = x.numbers := by
  unfold announceAll
  induction cs generalizing x with
  | nil => rfl
  | cons c cs ih =>
    rw [List.foldl_cons, ih]
    exact numbers_record rfl rfl _

theorem numbers_join (c : Channel) (id : SocketId) (x : Exchange ν) :
    (x.join c id).numbers = x.numbers := by
  obtain ⟨newcomers, h⟩ := join_eq c id x
  rw [h, numbers_announceAll]
  rfl

theorem numbers_modifySocket (id : SocketId) (f : Socket → Socket) (x : Exchange ν) :
    (x.modifySocket id f).numbers = x.numbers := by
  refine numbers_congr rfl ?_ rfl
  simp only [modifySocket, Sockets.modify, List.map_map]
  refine List.map_congr_left fun p _ => ?_
  by_cases h : p.1 = id <;> simp [h]

theorem numbers_armPending (x : Exchange ν) : x.armPending.numbers = x.numbers := by
  have hsockets := congrArg (·.sockets.map Prod.fst) (outline_armPending x)
  obtain ⟨_, _, heq⟩ := armPending_eq x
  refine numbers_congr (by rw [heq]) ?_ (by rw [heq])
  rw [← Sockets.map_fst_natures, ← Sockets.map_fst_natures]
  exact hsockets

theorem numbers_scheduleRetry (id : SocketId) (delay : Nat) (x : Exchange ν) :
    (x.scheduleRetry id delay).numbers = x.numbers := by
  obtain ⟨_, _, heq⟩ := scheduleRetry_eq id delay x
  rw [heq]
  rfl

theorem numbers_route (id : SocketId) (role : Role) (sender : Option Endpoint) (data : Bytes)
    (x : Exchange ν) : (x.route id role sender data).numbers = x.numbers := by
  unfold route
  dsimp only
  split
  · exact numbers_record rfl rfl _
  · obtain ⟨_, heq⟩ := foldl_deliver_eq sender data (x.audience id role sender) x
    rw [numbers_record rfl rfl, heq]
    rfl

theorem numbers_establish (id : SocketId) (x : Exchange ν) :
    (x.establish id).numbers = x.numbers := by
  unfold establish
  dsimp only
  rw [numbers_announceAll, numbers_modifySocket]

theorem numbers_sendBytes (id : SocketId) (s : Socket) (i : Nat) (w : Write)
    (target : Option Endpoint) (count : Nat) (x : Exchange ν) :
    (x.sendBytes id s i w target count).numbers = x.numbers := by
  obtain ⟨_, _, -, heq⟩ := settle_eq s i w count x
  unfold sendBytes
  rw [numbers_record rfl rfl, heq]
  rfl

/-! ### What draws and drops numbers -/

/-- A new socket gets the next number. -/
theorem steps_track (s : Socket) (x : Exchange ν) :
    Numbers.Steps x.numbers (track s x).numbers := by
  have heq : (track s x).numbers =
      ⟨(x.sockets.add x.nextSocket s).nextFree x.nextSocket, x.numbers.tracked ++ [x.nextSocket],
        x.numbers.opened ++ [x.nextSocket], x.numbers.closed⟩ := by
    simp [numbers, openings, closings, track, record, Sockets.add, Traffic.opened?, Traffic.closed?]
  rw [heq]
  exact .single (.drawn x.numbers (Sockets.lt_nextFree _ _))

theorem steps_raiseListener (p : Profile) (ownEnd : Endpoint) (x : Exchange ν) :
    Numbers.Steps x.numbers (x.raiseListener p ownEnd).numbers :=
  steps_track (Socket.listening p.transport ownEnd) { x with profile := p }

variable [Network ν]

theorem steps_closeSocket (id : SocketId) (x : Exchange ν) :
    Numbers.Steps x.numbers (x.closeSocket id).numbers := by
  unfold closeSocket
  split_ifs with hhas
  · have hid : id ∈ x.numbers.tracked := by
      obtain ⟨s, hs⟩ := Sockets.has_iff.mp hhas
      exact List.mem_map_of_mem hs
    refine .single ?_
    convert Numbers.Step.dropped x.numbers hid using 1
    simp [numbers, openings, closings, record, Sockets.erase, Traffic.opened?, Traffic.closed?,
      List.filter_map, Function.comp_def]
  · exact .refl

theorem steps_discard (ids : List SocketId) (x : Exchange ν) :
    Numbers.Steps x.numbers (x.discard ids).numbers := by
  unfold discard
  induction ids generalizing x with
  | nil => exact .refl
  | cons id ids ih =>
    exact (steps_closeSocket id { x with schedule := x.schedule.cancel id }).trans (ih _)

theorem steps_reportFault (id : SocketId) (x : Exchange ν) :
    Numbers.Steps x.numbers (reportFault id x).2.numbers := by
  unfold reportFault
  split
  · exact .refl
  · split
    · exact .refl
    · exact steps_closeSocket id x
    · split_ifs
      · exact .refl
      · change Numbers.Steps x.numbers (scheduleRetry id x.profile.retryInterval
          (x.modifySocket id fun s => { s with phase := .retryScheduled })).numbers
        rw [numbers_scheduleRetry, numbers_modifySocket]

theorem steps_closeOutbound (x : Exchange ν) :
    Numbers.Steps x.numbers x.closeOutbound.numbers := by
  unfold closeOutbound
  dsimp only
  rw [foldl_onDirectory fun id d => Directory.unlink id d]
  exact steps_discard _ (x.onDirectory _)

theorem steps_moveListener (p : Profile) (ownEnd : Endpoint) (x : Exchange ν) :
    Numbers.Steps x.numbers (x.moveListener p ownEnd).numbers := by
  have hraise := steps_raiseListener p ownEnd x
  unfold moveListener
  dsimp only
  cases x.listener with
  | none =>
    split_ifs
    · exact hraise.trans (steps_closeOutbound _)
    · exact hraise
  | some old =>
    have hmove : Numbers.Steps x.numbers (((x.raiseListener p ownEnd).closeSocket old).onDirectory
        (·.relink old x.nextSocket)).numbers := hraise.trans (steps_closeSocket old _)
    dsimp only
    split_ifs
    · exact hmove.trans (steps_closeOutbound _)
    · exact hmove

theorem steps_substitute (old : SocketId) (fresh : Socket) (x : Exchange ν) :
    Numbers.Steps x.numbers (x.substitute old fresh).numbers := by
  have hsteps := (steps_closeSocket old x).trans (steps_track fresh (x.closeSocket old))
  unfold substitute
  dsimp only
  split_ifs
  · rw [numbers_announceAll]
    exact hsteps
  · exact hsteps

theorem steps_retry (r : Retry) (x : Exchange ν) :
    Numbers.Steps x.numbers (retry r x).numbers := by
  have hphase : ∀ network, ({ x.modifySocket r.socket fun s => { s with phase := .retrying } with
      network } : Exchange ν).numbers = x.numbers := fun _ =>
    numbers_modifySocket r.socket (fun s => { s with phase := .retrying }) x
  unfold retry
  split_ifs
  · exact .refl
  · split
    · exact .refl
    · split
      · exact .refl
      · -- Only where the new socket was opened is a number given.
        dsimp only
        split
        · rw [numbers_scheduleRetry, numbers_modifySocket, hphase]
        · rename_i ownEnd network _
          rw [← hphase network]
          exact steps_substitute _ _ _

theorem steps_retain (kept : List Channel) (x : Exchange ν) :
    Numbers.Steps x.numbers (x.retain kept).numbers :=
  steps_discard _ { x with directory := (x.directory.keepOnly fun c => kept.any (·.id == c.id)).2 }

theorem steps_deactivate (x : Exchange ν) : Numbers.Steps x.numbers x.deactivate.numbers := by
  unfold deactivate close
  dsimp only
  split_ifs
  · exact .refl
  · exact steps_discard _ x

/-! ### Changes -/

theorem steps_passStep (h : PassStep x y) : Numbers.Steps x.numbers y.numbers := by
  cases h with
  | answered network => exact .refl
  | exceeded l => exact .refl
  | admitted ownEnd remote hs hm => exact steps_track _ x
  | established hs hm hp => rw [numbers_establish]
  | faulted id => exact steps_reportFault id x
  | routed sender data hs hp hm hsender => rw [numbers_route]
  | sent count hs hp hm hheld hnext hcount => rw [numbers_sendBytes]
  | disarmed id => rw [disarm, numbers_modifySocket]

theorem steps_singleStep (h : SingleStep x y) : Numbers.Steps x.numbers y.numbers := by
  cases h with
  | answered network => exact .refl
  | elapsed ms => exact .refl
  | opened ownEnd ho => exact steps_raiseListener x.profile ownEnd { x with isOpen := true }
  | adopted p hs hm ht => exact .refl
  | moved p ownEnd hs hm ho => exact steps_moveListener p ownEnd x
  | enrolled s r hv hb => exact .refl
  | joined ho hc hu hid => rw [numbers_join]
  | connected ownEnd ho hc hu hd hr hn =>
    rw [numbers_join]
    exact steps_track _ x
  | retained kept => exact steps_retain kept x
  | queued data call ho hc ht => exact .refl
  | armed id => rw [arm, numbers_modifySocket]
  | rearmed => rw [numbers_armPending]
  | began c hb => exact .refl
  | collected c g => exact .refl
  | finished c g => exact .refl
  | faulted id => exact steps_reportFault id x

/-- **A change draws next numbers and drops tracked ones,** and does nothing else to numbers. -/
theorem steps_change (h : Change x y) : Numbers.Steps x.numbers y.numbers := by
  cases h with
  | plain h =>
    cases h with
    | single hstep => exact steps_singleStep hstep
    | inPass hstep => exact steps_passStep hstep
    | given => exact .refl
    | due => exact .refl
    | @attempted r s hs hr hp => exact steps_retry r x
  | deactivated => exact steps_deactivate x
  | told => exact .refl

theorem steps_course (h : Course x y) : Numbers.Steps x.numbers y.numbers := by
  induction h with
  | refl => exact .refl
  | tail _ hstep ih => exact ih.trans (steps_change hstep)

theorem atLeast_course {k : SocketId} (h : x.outline.Sound) (hk : x.outline.AtLeast k)
    (hc : Course x y) : y.outline.AtLeast k := by
  induction hc with
  | refl => exact hk
  | tail hbefore hstep ih =>
    exact (moves_or_passMoves (sound_course h hbefore) hstep).elim ih.moves ih.passMoves

/-- A run is a chain of changes. -/
theorem course_run (h : x.outline.Sound) (ha : x.sockets.Attended x.outline.retries)
    (ops : List (Operation ν)) : Course x (x.run ops) := by
  obtain ⟨states, hstates, -⟩ := exists_history h ha ops
  exact (hstates.course_of_mem hstates.mem_last).1

/-- So is a part of a pass. -/
theorem course_foldl_serve (x : Exchange ν) (network : ν) (ready : List Readiness) :
    Course x (ready.foldl serve { x with network }) := by
  have hpass := (ReflTransGen.single (PassStep.answered x network)).trans
    (passSteps_foldl_serve ready { x with network })
  exact PlainCourse.course (ReflTransGen.mono (fun _ _ => PlainChange.inPass) _ _ hpass)

/-! ### What nobody has the number of -/

omit [Network ν] in
theorem has_eq_false_of_notMem {id : SocketId} (h : id ∉ x.numbers.tracked) :
    x.sockets.has id = false := by
  rw [← Bool.not_eq_true, Sockets.has_iff]
  rintro ⟨s, hs⟩
  exact h (List.mem_map_of_mem hs)

omit [Network ν] in
theorem find?_eq_none_of_notMem {id : SocketId} (h : id ∉ x.numbers.tracked) :
    x.sockets.find? id = none := by
  by_contra hne
  obtain ⟨s, hs⟩ := Option.ne_none_iff_exists'.mp hne
  exact h (List.mem_map_of_mem (Sockets.mem_of_find? hs))

/-- **Nothing happens on a number that no socket has:** not on an event, nor on a report of a failure,
nor when the socket is to be replaced. -/
theorem unchanged_of_find?_eq_none {id : SocketId} (h : x.sockets.find? id = none) :
    (∀ readable writable, x.serve ⟨id, readable, writable⟩ = x) ∧ reportFault id x = (false, x) ∧
      ∀ r : Retry, r.socket = id → retry r x = x := by
  refine ⟨fun readable writable => ?_, ?_, fun r hr => ?_⟩
  · unfold serve
    dsimp only
    rw [h]
  · unfold reportFault
    rw [h]
  · subst hr
    unfold retry
    rw [h]
    exact ite_self x

/-! ### Exchanges -/

/-- **Every number is fresh.** -/
structure FreshlyNumbered (x : Exchange ν) : Prop where
  first : 1000 ≤ x.nextSocket
  table : ∀ s ∈ x.sockets, 1000 ≤ s.1 ∧ s.1 < x.nextSocket
  links : ∀ e ∈ x.directory.entries, ∀ id, e.socket = some id → 1000 ≤ id ∧ id < x.nextSocket
  schedule : ∀ r ∈ x.schedule, 1000 ≤ r.socket ∧ r.socket < x.nextSocket
  listener : ∀ id, x.listener = some id → 1000 ≤ id ∧ id < x.nextSocket
  /-- The next number is no socket's. -/
  free : x.sockets.has x.nextSocket = false
  /-- Each socket that was opened got a greater number than all before it. -/
  ascending : x.openings.Pairwise (· < ·)
  given : ∀ id ∈ x.openings, 1000 ≤ id ∧ id < x.nextSocket
  /-- In the table is what was opened and was not closed. -/
  tracked : x.sockets.map Prod.fst = x.openings.filter (· ∉ x.closings)

omit [Network ν] in
theorem freshlyNumbered_of_sound (h : x.outline.Sound) (hk : x.outline.AtLeast 1000)
    (hn : x.numbers.Fresh) : x.FreshlyNumbered where
  first := hn.first
  table s hs := hn.of_mem_tracked (List.mem_map_of_mem hs)
  links e he id hid := by
    obtain ⟨n, hs, -⟩ := h.linked e he id hid
    exact ⟨hk.sockets _ hs, h.below _ hs⟩
  schedule r hr := by
    have hmem : r.socket ∈ x.outline.retries := List.mem_map_of_mem hr
    exact ⟨hk.retries _ hmem, (h.retries _ hmem).1⟩
  listener id hid := by
    obtain ⟨n, hs, -⟩ := h.listener id hid
    exact ⟨hk.sockets _ hs, h.below _ hs⟩
  free := has_eq_false_of_notMem fun hid => Nat.lt_irrefl _ (hn.of_mem_tracked hid).2
  ascending := hn.ascending
  given := hn.given
  tracked := hn.tracked

/-- In a state that there is, no number is below the first one, and each was given once. -/
theorem Reachable.fresh (h : x.Reachable) : x.outline.AtLeast 1000 ∧ x.numbers.Fresh := by
  obtain ⟨name, profile, network, start, ops, hc, rfl⟩ := h
  have hstart : start.Reachable := ⟨name, profile, network, start, [], hc, rfl⟩
  have hcourse := course_run hstart.sound hstart.attended ops
  have hnumbers : start.numbers = ⟨1000, [], [], []⟩ := by
    unfold create at hc
    split at hc
    · exact nomatch hc
    · rw [← Except.ok.inj hc]
      rfl
  constructor
  · refine atLeast_course hstart.sound ?_ hcourse
    rw [outline_create hc]
    exact ⟨Nat.le_refl _, nofun, nofun⟩
  · refine Numbers.Fresh.steps ?_ (steps_course hcourse)
    rw [hnumbers]
    exact ⟨Nat.le_refl _, .nil, nofun, nofun, rfl⟩

/-- **Numbers are fresh in every state,** between two operations as well as in the middle of one, and
whatever comes later only adds to them.  The next number never goes back, a socket that is opened gets
one that was not given before, and on the number of a socket that was closed nothing happens any
more. -/
theorem Reachable.freshly_numbered (h : x.Reachable) :
    (∀ ops, Course x (x.run ops)) ∧ ∀ y, Course x y →
      y.FreshlyNumbered ∧
      (∀ (network : ν) (ready : List Readiness),
        Course y (ready.foldl serve { y with network })) ∧
      ∀ z, Course y z →
        y.nextSocket ≤ z.nextSocket ∧
        (∃ more, z.openings = y.openings ++ more ∧ ∀ id ∈ more, y.nextSocket ≤ id) ∧
        y.closings <+: z.closings ∧
        ∀ id ∈ y.closings, z.sockets.has id = false ∧
          (∀ readable writable, z.serve ⟨id, readable, writable⟩ = z) ∧
          reportFault id z = (false, z) ∧ ∀ r : Retry, r.socket = id → retry r z = z := by
  obtain ⟨hatLeast, hfresh⟩ := h.fresh
  refine ⟨course_run h.sound h.attended, fun y hy => ⟨?_, course_foldl_serve y, fun z hz => ?_⟩⟩
  · exact freshlyNumbered_of_sound (sound_course h.sound hy) (atLeast_course h.sound hatLeast hy)
      (hfresh.steps (steps_course hy))
  · have hlater := Numbers.Later.steps (steps_course hz)
    refine ⟨hlater.next, hlater.opened, hlater.closed, fun id hid => ?_⟩
    -- What was closed remains closed, and what is closed is not in the table.
    have hz' : z.numbers.Fresh := hfresh.steps (steps_course (hy.trans hz))
    have hgone : id ∉ z.numbers.tracked := hz'.notMem_tracked (hlater.closed.subset hid)
    exact ⟨has_eq_false_of_notMem hgone,
      unchanged_of_find?_eq_none (find?_eq_none_of_notMem hgone)⟩

/-- In the laboratory the outbound socket was replaced; whatever is done next, a report about the old
one changes nothing. -/
theorem freshly_numbered_lab : lab.openings = [1000, 1001, 1002] ∧ lab.closings = [1001] ∧
    ∀ ops, reportFault 1001 (lab.run ops) = (false, lab.run ops) := by
  obtain ⟨hrun, hcourse⟩ := Reachable.freshly_numbered reachable_lab
  have hclosed : lab.closings = [1001] := by decide +kernel
  refine ⟨by decide +kernel, hclosed, fun ops => ?_⟩
  obtain ⟨-, -, hlater⟩ := hcourse lab .refl
  obtain ⟨-, -, -, hgone⟩ := hlater _ (hrun ops)
  exact (hgone 1001 (by rw [hclosed]; exact List.mem_singleton_self 1001)).2.2.1

end Exchange

end Switchboard
