import Switchboard.Proofs.Outline.Targets
import Switchboard.Proofs.Runs
import Switchboard.Proofs.Step.Basic

/-!
# A pass in moves

What the small steps of an exchange do to its outline, and that every step of a pass is a chain of
moves of a pass (`passMoves_passStep`).  Phases, interest, calls and the network are no part of an
outline, so much of what an exchange does leaves it as it is.
-/

namespace Switchboard.Exchange

open Net Settings Relation Outline Directory

variable {ν : Type}

/-! ### Small steps -/

theorem sendings_record (t : Traffic) (x : Exchange ν) :
    (x.record t).sendings = x.sendings ++ t.piece?.toList := by
  unfold sendings record
  rw [List.reverse_cons, List.filterMap_append]
  cases h : t.piece? <;> simp [h]

/-- An event that sends nothing leaves the outline as it is. -/
theorem outline_record {t : Traffic} (ht : t.piece? = none) (x : Exchange ν) :
    (x.record t).outline = x.outline := by
  have h := sendings_record t x
  rw [ht, Option.toList_none, List.append_nil] at h
  rw [outline, h]
  rfl

theorem outline_modifySocket (id : SocketId) {f : Socket → Socket}
    (hf : ∀ s, (f s).nature = s.nature) (x : Exchange ν) :
    (x.modifySocket id f).outline = x.outline := by
  have h := Sockets.natures_modify x.sockets id hf
  rw [outline, modifySocket, h]
  rfl

/-- The phase of a socket is no part of the outline. -/
theorem outline_setPhase (id : SocketId) (phase : Phase) (x : Exchange ν) :
    (x.modifySocket id fun s => { s with phase }).outline = x.outline := by
  apply outline_modifySocket
  intro s
  rfl

theorem outline_onDirectory (f : Directory → Directory) (x : Exchange ν) :
    (x.onDirectory f).outline = { x.outline with directory := (f x.directory).core } :=
  rfl

/-- Changing calls and flags leaves the outline as it is. -/
theorem outline_onDirectory_of_core {f : Directory → Directory} {x : Exchange ν}
    (hf : (f x.directory).core = x.directory.core) : (x.onDirectory f).outline = x.outline := by
  rw [outline_onDirectory, hf]
  rfl

theorem outline_track (s : Socket) (x : Exchange ν) : ∃ next, x.nextSocket < next ∧
    (track s x).outline = x.outline.add s.nature next := by
  refine ⟨_, Sockets.lt_nextFree (x.sockets.add x.nextSocket s) x.nextSocket, ?_⟩
  unfold track
  rw [outline_record rfl]
  simp only [outline, Outline.add, Sockets.natures_add]
  rfl

theorem outline_announceAll (id : SocketId) (cs : List Channel) (x : Exchange ν) :
    (x.announceAll id cs).outline =
      { x.outline with announcements := x.announcements ++ cs } := by
  have hnone : ((cs.map fun c => Traffic.announced c id).filterMap Traffic.piece?) = [] := by
    simp [Traffic.piece?]
  rw [announceAll_eq]
  simp [outline, sendings, List.filterMap_append, hnone]

variable [Network ν]

theorem outline_closeSocket (id : SocketId) (x : Exchange ν) :
    (x.closeSocket id).outline = x.outline.erase id := by
  unfold closeSocket
  split_ifs with h
  · rw [outline_record rfl]
    simp only [outline, Outline.erase, Sockets.natures_erase]
    rfl
  · have := Sockets.natures_erase x.sockets id
    rw [Sockets.erase_eq_self (Bool.not_eq_true _ ▸ h)] at this
    rw [outline, Outline.erase, ← this]

/-! ### Reading -/

theorem passMoves_of_events {o o' : Outline} (he : Events o o') : PassMoves o o' :=
  ReflTransGen.mono (fun _ _ => PassMove.event) _ _ he

theorem moves_of_events {o o' : Outline} (he : Events o o') : Moves o o' :=
  ReflTransGen.mono (fun _ _ => Move.event) _ _ he

omit [Network ν] in
/-- Handing a buffer to a channel that it is for is an event at most, and leaves the entries. -/
theorem events_deliver {x : Exchange ν} (h : x.outline.Sound) {sender : Option Endpoint}
    (data : Bytes) {c : Channel} (hc : ∃ e ∈ x.directory.entries, e.channel = c)
    (hmask : c.remote.isMask = true →
      c.direction = .inbound ∧ ∃ far, sender = some far ∧ c.remote.tier? far ≠ none) :
    Events x.outline (deliver sender data x c).outline ∧
      (deliver sender data x c).directory.entries = x.directory.entries := by
  unfold deliver
  dsimp only
  split
  · rename_i sender
    split_ifs with hm
    · obtain ⟨e, he, rfl⟩ := hc
      obtain ⟨hd, far, hfar, hmatches⟩ := hmask hm
      obtain rfl := Option.some.inj hfar
      have hset := core_setLastSender (h.numbered.home e he) sender
      refine ⟨.single ?_, congrArg Core.entries hset⟩
      have hremembered := Event.remembered x.outline sender he hm hd hmatches
      have heq : (x.onDirectory (·.modifyStatus e.channel fun s =>
          { s with lastSender := some sender })).outline = { x.outline with directory :=
            { x.outline.directory with
              senders := x.outline.directory.senders.set e.channel.id (some sender) } } := by
        rw [outline_onDirectory, hset]
        rfl
      rw [← heq] at hremembered
      exact hremembered
    · exact ⟨.refl, rfl⟩
  · exact ⟨.refl, rfl⟩

omit [Network ν] in
theorem events_foldl_deliver {sender : Option Endpoint} (data : Bytes) (cs : List Channel)
    {x : Exchange ν} (h : x.outline.Sound)
    (hcs : ∀ c ∈ cs, (∃ e ∈ x.directory.entries, e.channel = c) ∧ (c.remote.isMask = true →
      c.direction = .inbound ∧ ∃ far, sender = some far ∧ c.remote.tier? far ≠ none)) :
    Events x.outline (cs.foldl (deliver sender data) x).outline := by
  induction cs generalizing x with
  | nil => exact .refl
  | cons c cs ih =>
    obtain ⟨hc, hmask⟩ := hcs c List.mem_cons_self
    obtain ⟨hfirst, hsame⟩ := events_deliver h data hc hmask
    refine hfirst.trans (ih (h.events hfirst) fun c' hc' => ?_)
    rw [hsame]
    exact hcs c' (List.mem_cons_of_mem c hc')

omit [Network ν] in
/-- Who is in the audience of a buffer is in the directory, and where masked, matches the sender. -/
theorem exists_of_mem_audience {x : Exchange ν} (h : x.outline.Sound) {id : SocketId} {s : Socket}
    (hs : x.sockets.find? id = some s) {sender : Option Endpoint} {c : Channel}
    (hc : c ∈ x.audience id s.role sender) :
    (∃ e ∈ x.directory.entries, e.channel = c) ∧ (c.remote.isMask = true →
      c.direction = .inbound ∧ ∃ far, sender = some far ∧ c.remote.tier? far ≠ none) := by
  unfold audience at hc
  split at hc
  · rename_i hr
    obtain ⟨e, he, hlink, rfl⟩ := mem_onSocket.mp hc
    refine ⟨⟨e, he, rfl⟩, fun hm => ?_⟩
    -- An outbound socket serves no masked channel.
    have hn := Sockets.mem_natures.mpr ⟨s, Sockets.mem_of_find? hs, rfl⟩
    rcases h.nature_of_link he hlink hn with ⟨hl, -⟩ | ⟨-, remote, -, hremote⟩
    · exact absurd (hr.symm.trans hl) (by decide)
    · rw [hremote] at hm
      exact nomatch hm
  · split at hc
    · obtain ⟨e, he, -, hch, hd, ht⟩ := exists_of_mem_recipients hc
      exact ⟨⟨e, he, hch⟩, fun _ => ⟨hd, _, rfl, ht⟩⟩
    · exact nomatch hc

omit [Network ν] in
theorem events_route {x : Exchange ν} (h : x.outline.Sound) {id : SocketId} {s : Socket}
    (hs : x.sockets.find? id = some s) (sender : Option Endpoint) (data : Bytes) :
    Events x.outline (x.route id s.role sender data).outline := by
  unfold route
  dsimp only
  split
  · rw [outline_record rfl, outline_onDirectory_of_core (core_modifyCall _ _ _)]
  · rw [outline_record rfl]
    exact events_foldl_deliver data _ h fun c hc => exists_of_mem_audience h hs hc

/-! ### Faults -/

omit [Network ν] in
theorem outline_scheduleRetry (id : SocketId) (delay : Nat) (x : Exchange ν) :
    ∃ retries, (∀ i ∈ retries, i ∈ x.outline.retries ∨ i = id) ∧
      (x.scheduleRetry id delay).outline = { x.outline with retries } := by
  unfold scheduleRetry
  split_ifs with hthere
  · exact ⟨x.outline.retries, fun i hi => .inl hi, rfl⟩
  all_goals
    refine ⟨_, ?_, rfl⟩
    intro i hi
    change i ∈ (x.schedule.add id x.clock delay).map (·.socket) at hi
    unfold Schedule.add at hi
    rw [if_neg hthere, List.map_append, List.mem_append] at hi
    exact hi.imp_right fun hi => by simpa using hi

/-- Noting a failure is an event at most. -/
theorem events_reportFault (x : Exchange ν) (id : SocketId) :
    Events x.outline (reportFault id x).2.outline := by
  unfold reportFault
  split
  · exact .refl
  · rename_i s hs
    have hn := Sockets.mem_natures.mpr ⟨s, Sockets.mem_of_find? hs, rfl⟩
    split
    · exact .refl
    · rename_i hr
      rw [outline_closeSocket]
      exact .single (.dropped x.outline hn hr)
    · rename_i hr
      split_ifs
      · exact .refl
      · rw [outline_onDirectory_of_core (core_setReconnecting _ _ _)]
        obtain ⟨retries, hret, heq⟩ := outline_scheduleRetry id x.profile.retryInterval
          (x.modifySocket id fun s => { s with phase := .retryScheduled })
        rw [outline_setPhase] at hret heq
        rw [heq]
        refine .single (.rescheduled x.outline retries fun i hi => ?_)
        rcases hret i hi with hold | rfl
        · exact .inl hold
        · exact .inr ⟨s.nature, hn, hr⟩

/-! ### Sending -/

omit [Network ν] in
theorem outline_sendBytes {id : SocketId} (s : Socket) {i : Nat} {w : Write}
    (target : Option Endpoint) (count : Nat) {x : Exchange ν}
    (hw : x.outbox.writes[i]? = some w) :
    (x.sendBytes id s i w target count).outline =
      x.outline.send id s.nature (x.outbox.writes.take i) w (x.outbox.writes.drop (i + 1))
        (min count w.remaining.length) := by
  have hadvance : w.advance (min count w.remaining.length) = w.advance count := by
    simp [Write.advance]
  have hsent : ∀ y : Exchange ν, y.journal = x.journal →
      (y.record (.sent id (target <|> s.farEnd) w (min count w.remaining.length))).outline =
        { y.outline with sendings := x.sendings ++ [⟨id, w, min count w.remaining.length⟩] } := by
    intro y hy
    rw [outline, sendings_record]
    simp only [sendings, hy]
    rfl
  unfold sendBytes settle Outline.send
  dsimp only
  rw [hadvance]
  by_cases hgone : (w.advance count).remaining = [] ∨ s.medium ≠ .connection
  · -- The write leaves its place,
    have hremove : (x.outbox.remove i).writes =
        x.outbox.writes.take i ++ [] ++ x.outbox.writes.drop (i + 1) := by
      rw [List.append_nil]
      exact List.eraseIdx_eq_take_drop_succ _ _
    rw [if_pos hgone, if_pos (show _ ∨ s.nature.medium ≠ .connection from hgone)]
    rw [← hremove]
    cases w.call with
    | none => exact hsent _ rfl
    | some g =>
      dsimp only
      rw [hsent, outline_onDirectory_of_core (core_modifyCall _ _ _)]
      · rfl
      · rfl
  · -- or its rest stays there.
    have hstays : (x.outbox.advance i count).writes =
        x.outbox.writes.take i ++ [w.advance count] ++ x.outbox.writes.drop (i + 1) := by
      obtain ⟨hlt, hget⟩ := List.getElem?_eq_some_iff.mp hw
      rw [Outbox.advance, List.modify_eq_take_cons_drop hlt, hget, List.append_assoc]
      rfl
    rw [if_neg hgone, if_neg (show ¬ (_ ∨ s.nature.medium ≠ .connection) from hgone)]
    rw [← hstays]
    exact hsent _ rfl

omit [Network ν] in
theorem passMove_sendBytes {x : Exchange ν} (h : x.outline.Sound) {id : SocketId} {s : Socket}
    {i : Nat} {w : Write} {target : Option Endpoint} (count : Nat)
    (hs : x.sockets.find? id = some s) (hm : s.medium ≠ .acceptor)
    (hnext : x.nextWrite? id = some (i, w, target)) :
    PassMove x.outline (x.sendBytes id s i w target count).outline := by
  obtain ⟨hw, ht, hbefore⟩ := nextWrite?_spec hnext
  have hn : (id, s.nature) ∈ x.outline.sockets :=
    Sockets.mem_natures.mpr ⟨s, Sockets.mem_of_find? hs, rfl⟩
  rw [outline_sendBytes s target count hw]
  refine .sent x.outline _ hn hm (eq_take_cons_drop hw) ?_ ?_ ?_ (Nat.min_le_right _ _)
  · rcases links_of_target? h ht with ⟨hlink, -⟩ | ⟨l, n, hl, hlink, hn', hr, -⟩
    · exact .inl hlink
    · exact .inr ⟨h.nature_eq hn hn' ▸ hr, l, hl, hlink⟩
  · -- A write of the same channel has the same target, so the first of them was found.
    intro w' hw' heq
    exact hbefore w' hw' target (heq ▸ ht)
  · -- What is linked to the socket has it for a target, or has nobody to go to.
    intro hr w' hw' hlink
    by_contra hmask
    obtain ⟨t', ht'⟩ := target?_of_links h hlink hn hm hmask
    exact hbefore w' hw' t' ht'

/-! ### Passes -/

/-- **A step of a pass is a chain of moves of a pass.** -/
theorem passMoves_passStep {x y : Exchange ν} (h : x.outline.Sound) (hstep : PassStep x y) :
    PassMoves x.outline y.outline := by
  cases hstep with
  | answered network => exact .refl
  | exceeded l => exact .refl
  | @admitted id s ownEnd remote hs hm =>
    obtain ⟨next, hnext, heq⟩ := outline_track (Socket.taken ownEnd remote) x
    rw [heq]
    have hn := Sockets.mem_natures.mpr ⟨s, Sockets.mem_of_find? hs, rfl⟩
    exact .single (.event (.admitted x.outline next remote hn hm hnext))
  | @established id s hs hm hp =>
    have hn := Sockets.mem_natures.mpr ⟨s, Sockets.mem_of_find? hs, rfl⟩
    unfold establish
    dsimp only
    rw [outline_announceAll]
    have hphase : (x.modifySocket id fun s =>
        { s with phase := .active, interest := ⟨true, true⟩ }).outline = x.outline := by
      apply outline_modifySocket
      intro s
      rfl
    rw [hphase]
    exact .single (.event (.announced x.outline _ (.inr (List.ne_nil_of_mem hn))))
  | faulted id => exact passMoves_of_events (events_reportFault x id)
  | routed sender data hs hp hm hsender => exact passMoves_of_events (events_route h hs sender data)
  | sent count hs hp hm hheld hnext hcount => exact .single (passMove_sendBytes h count hs hm hnext)
  | disarmed id =>
    unfold disarm
    rw [outline_modifySocket id fun s => by split_ifs <;> rfl]

theorem passMoves_passSteps {x y : Exchange ν} (h : x.outline.Sound) (hsteps : PassSteps x y) :
    PassMoves x.outline y.outline := by
  induction hsteps with
  | refl => exact .refl
  | tail _ hstep ih => exact ih.trans (passMoves_passStep (h.passMoves ih) hstep)

end Switchboard.Exchange
