import Switchboard.Proofs.Calls.Calmer
import Switchboard.Proofs.Holding
import Switchboard.Proofs.Serving

/-!
# Turns

Whatever happens to an exchange is, as far as blocking calls are concerned, a chain of *turns*, of
which there are three kinds.

* In a `Shift` no call gets farther, whatever else becomes of sockets, links and channels.
* A call is *marked* when the last of its write has gone out, and then no other call waits on the
  socket of its channel.
* A call is *answered* by a buffer that came through a socket which serves its channel.

A step of a pass is one turn (`turn_passStep`).  Any other step is one shift, except that a pass and
a round of retries are chains of turns, in which the settings stay (`turns_plainStep`).  So an operation
is one shift, or a chain of turns in which the settings stay (`turns_apply`).
-/

namespace Switchboard.Exchange

open Net Settings Relation Directory Outline

variable {ν : Type} {x y : Exchange ν}

/-! ### Shifts -/

/-- **No call has got farther.**  Who still awaits a reply stays, with its outbound socket where the
transport stays, and an exchange that was closed has ended all calls. -/
structure Shift (x y : Exchange ν) : Prop extends Calmer x y where
  grows : Grows x.outline y.outline
  links : LinksKept x.outline y.outline
  holds : ∀ e ∈ x.directory.entries, y.directory.isAwaiting e.channel = true →
    Holds x.outline y.outline e
  shut : x.isOpen = true → y.isOpen = false →
    ∀ e ∈ x.directory.entries, y.directory.isAwaiting e.channel = false

theorem Shift.of_passMoves (h : x.outline.Sound) (hm : PassMoves x.outline y.outline)
    (hc : Calmer x y) : Shift x y := by
  obtain ⟨he, hl, ho⟩ := entries_passMoves hm
  refine { hc with
    grows := grows_passMoves hm
    links := .of_subset h.numbered (fun l h => hl.trans h) fun e' he' => .inl (he ▸ he')
    holds := fun e hmem _ => .of_mem (he ▸ hmem)
    shut := fun hopen hclosed => ?_ }
  exact nomatch hclosed.symm.trans (ho.trans hopen)

theorem Shift.of_outline (h : x.outline.Sound) (ho : y.outline = x.outline) (hc : Calmer x y) :
    Shift x y :=
  .of_passMoves h (by rw [ho]) hc

theorem Shift.of_move (h : x.outline.Sound) (hm : Move x.outline y.outline) (hc : Calmer x y)
    (hh : ∀ e ∈ x.directory.entries, y.directory.isAwaiting e.channel = true →
      Holds x.outline y.outline e)
    (ho : x.isOpen = true → y.isOpen = true) : Shift x y where
  toCalmer := hc
  grows := grows_move hm
  links := linksKept_move h hm
  holds := hh
  shut hopen hclosed := nomatch hclosed.symm.trans (ho hopen)

theorem Shift.of_moveTold (h : x.outline.Sound) (hm : MoveTold x.outline y.outline)
    (hc : Calmer x y) (hh : ∀ e ∈ x.directory.entries, y.directory.isAwaiting e.channel = true →
      Holds x.outline y.outline e) : Shift x y := by
  obtain ⟨o, cs, hmove, hopen, heq⟩ := hm
  have hlinks := linksKept_move h hmove
  refine { hc with grows := ?_, links := ?_, holds := hh, shut := fun _ hclosed => ?_ }
  · rw [heq]
    exact { grows_move hmove with }
  · rw [heq]
    exact ⟨hlinks.kept, hlinks.home, hlinks.apart, hlinks.anchored⟩
  · have hstill : y.isOpen = o.isOpen := congrArg Outline.isOpen heq
    exact nomatch hclosed.symm.trans (hstill.trans hopen)

/-! ### Turns -/

/-- **One thing that happens to calls.** -/
inductive Turn : Exchange ν → Exchange ν → Prop
  | shift {x y : Exchange ν} (h : Shift x y) : Turn x y
  /-- The last of the write of a call went out, while no other call waited on the socket. -/
  | marked (x : Exchange ν) (outbox : Outbox) {e : Entry} {id : SocketId} {n : Nature}
      {far : Endpoint} {w : Write} {g count : Nat} (hreach : x.outline.Reaches e (id, n) far)
      (hfree : ∀ e' ∈ x.directory.entries, e'.socket = e.socket →
        x.directory.isAwaiting e'.channel = false)
      (hw : w.channel = e.channel) (hg : w.call = some g)
      (hlast : count = w.remaining.length ∨ n.medium = .datagram) :
      Turn x { x with
        outbox
        directory := x.directory.modifyCall e.channel (·.markSent g)
        journal := .sent id (some far) w count :: x.journal }
  /-- A buffer came for a call that awaited its reply. -/
  | answered (x : Exchange ν) {e : Entry} {id : SocketId} {n : Nature} {far : Endpoint} {g : Nat}
      (data : Bytes) (hreach : x.outline.Reaches e (id, n) far)
      (hawaiting : (x.directory.call e.channel).pending = .awaiting g) :
      Turn x { x with
        directory := x.directory.modifyCall e.channel fun b => (b.fulfil data).2
        journal := .received id (some far) data (.caller e.channel) :: x.journal }

/-- A turn that leaves the settings alone and the outline regular. -/
structure SteadyTurn (x y : Exchange ν) : Prop where
  turn : Turn x y
  regular : y.outline.Regular
  profile : y.profile = x.profile

/-! ### A pass -/

/-- Where a socket is not held, nobody waits on the socket of the channels that it serves. -/
theorem free_of_not_held {id : SocketId} {s : Socket} (hs : x.sockets.find? id = some s)
    {e : Entry} (hserves : x.outline.Serves (id, s.nature) e) (hheld : x.isHeld id = false) :
    ∀ e' ∈ x.directory.entries, e'.socket = e.socket →
      x.directory.isAwaiting e'.channel = false := by
  have howner : x.owner? id = e.socket := by
    unfold owner?
    rw [hs]
    dsimp only
    rcases hserves with ⟨hr, hlink⟩ | ⟨hr, l, hl, hlink⟩
    · exact (if_neg hr).trans hlink.symm
    · exact (if_pos hr).trans (hl.trans hlink.symm)
  obtain ⟨o, ho⟩ : ∃ o, e.socket = some o := by
    rcases hserves with ⟨-, hlink⟩ | ⟨-, l, -, hlink⟩
    · exact ⟨id, hlink⟩
    · exact ⟨l, hlink⟩
  unfold isHeld at hheld
  rw [howner, ho] at hheld
  dsimp only [awaiting?] at hheld
  intro e' he' hsame
  have hnone := List.find?_eq_none.mp (Option.not_isSome_iff_eq_none.mp (by rw [hheld]; decide))
  simpa using hnone e'.channel (mem_onSocket.mpr ⟨e', he', hsame.trans ho, rfl⟩)

/-- What leaves the queue has gone out to the last byte, or was a datagram. -/
theorem last_of_gone {s : Socket} {w : Write} {count : Nat} (hm : s.medium ≠ .acceptor)
    (hgone : (w.advance count).remaining = [] ∨ s.medium ≠ .connection) :
    min count w.remaining.length = w.remaining.length ∨ s.nature.medium = .datagram := by
  rcases hgone with hgone | hc
  · rw [Write.remaining_advance, List.drop_eq_nil_iff] at hgone
    exact .inl (Nat.min_eq_right hgone)
  · refine .inr ?_
    show s.medium = .datagram
    cases hmedium : s.medium with
    | datagram => rfl
    | connection => exact absurd hmedium hc
    | acceptor => exact absurd hmedium hm

variable [Network ν]

/-- **A step of a pass is a turn.** -/
theorem turn_passStep (h : x.outline.Regular) (hstep : PassStep x y) : Turn x y := by
  have hmoves := passMoves_passStep h.sound hstep
  have hshift : Calmer x y → Turn x y := fun hc => .shift (.of_passMoves h.sound hmoves hc)
  cases hstep with
  | answered network => exact hshift (.of_same (fun _ => rfl) rfl rfl)
  | exceeded l => exact hshift (.of_same (fun _ => rfl) rfl rfl)
  | admitted ownEnd remote hs hm => exact hshift (.track _ x)
  | @established id s hs hm hp =>
    have hphase : Calmer x (x.modifySocket id fun s =>
        { s with phase := .active, interest := ⟨true, true⟩ }) :=
      .modifySocket id (f := fun s => { s with phase := .active, interest := ⟨true, true⟩ })
        (fun _ => rfl) x
    exact hshift (hphase.trans (.announceAll ..))
  | faulted id => exact hshift (.reportFault id x)
  | @routed id s sender data hs hp hm hsender =>
    unfold route at hshift ⊢
    dsimp only at hshift ⊢
    split at hshift <;> rename_i hfind
    · -- Someone waits for the buffer.
      rename_i c
      obtain ⟨e, far, hreach, rfl, rfl⟩ :=
        reaches_of_mem_audience h hs hm hsender (List.mem_of_find?_eq_some hfind)
      obtain ⟨g, hg⟩ := isAwaiting_iff.mp (List.find?_some hfind)
      exact .answered x data hreach hg
    · exact hshift ((Calmer.foldl_deliver sender data _ x).trans (.record rfl _))
  | @sent id s i w target count hs hp hm hheld hnext hcount =>
    obtain ⟨e, far, hreach, hc, hfar⟩ := reaches_of_nextWrite? h hs hm hnext
    have hsent : ∀ outbox, Calmer x (({ x with outbox } : Exchange ν).record
        (.sent id (target <|> s.farEnd) w (min count w.remaining.length))) := by
      intro outbox
      have hqueue : Calmer x { x with outbox } := .of_same (fun _ => rfl) rfl rfl
      exact hqueue.trans (.record rfl _)
    unfold sendBytes settle at hshift ⊢
    dsimp only at hshift ⊢
    split_ifs at hshift ⊢ with hgone
    · cases hcall : w.call with
      | none =>
        rw [hcall] at hshift
        exact hshift (hsent _)
      | some g =>
        -- The call of the write begins to await its reply.
        have hmarked := Turn.marked x (x.outbox.remove i) hreach
          (free_of_not_held hs hreach.serves hheld) hc.symm hcall (last_of_gone hm hgone)
        rw [← hfar, hc] at hmarked
        exact hmarked
    · exact hshift (hsent _)
  | disarmed id =>
    exact hshift (.modifySocket id (fun s => by split_ifs <;> rfl) x)

theorem turns_passSteps (h : x.outline.Regular) (hsteps : PassSteps x y) :
    ReflTransGen SteadyTurn x y := by
  induction hsteps with
  | refl => exact .refl
  | tail hbefore hstep ih =>
    have hregular := h.passMoves (passMoves_passSteps h.sound hbefore)
    refine ih.tail ⟨turn_passStep hregular hstep, ?_, profile_passStep hstep⟩
    exact hregular.passMoves (passMoves_passStep hregular.sound hstep)

/-! ### Retries -/

/-- The calls of those on a socket end when another one takes its place. -/
theorem isAwaiting_substitute (h : x.outline.Sound) {old : SocketId} (fresh : Socket) {e : Entry}
    (he : e ∈ x.directory.entries) (hlink : e.socket = some old) :
    (x.substitute old fresh).directory.isAwaiting e.channel = false := by
  -- The directory in which the calls on the new socket end.
  set d := ((x.closeSocket old).directory.relink old x.nextSocket).setReconnecting x.nextSocket
    false with hd
  have hdirectory : (x.substitute old fresh).directory =
      d.cancelCalls (d.onSocket x.nextSocket) := by
    unfold substitute
    dsimp only
    split_ifs
    · rw [announceAll_eq]
      rfl
    · rfl
  have hcore : d.core = (x.directory.relink old x.nextSocket).core := by
    obtain ⟨_, _, _, hclose⟩ := closeSocket_eq old x
    rw [hd, core_setReconnecting, hclose]
  have hmem : relinkEntry old x.nextSocket e ∈ d.entries := by
    have hrelinked : d.entries = x.directory.entries.map (relinkEntry old x.nextSocket) :=
      congrArg Core.entries (hcore.trans (core_relink old x.nextSocket x.directory))
    exact hrelinked ▸ List.mem_map_of_mem he
  have hon : e.channel ∈ d.onSocket x.nextSocket := by
    refine mem_onSocket.mpr ⟨_, hmem, ?_, channel_relinkEntry ..⟩
    rw [socket_relinkEntry, if_pos hlink]
  have hnumbered : d.core.Numbered := by
    rw [hcore, core_relink]
    exact h.numbered.map (channel_relinkEntry old x.nextSocket)
  have hkeeps := keeps_of_mem hnumbered hmem
  rw [channel_relinkEntry] at hkeeps
  rw [hdirectory]
  exact isAwaiting_cancelCalls hon hkeeps

/-- So whoever awaits a reply after that is on another socket, and stays there. -/
theorem holds_substitute (h : x.outline.Sound) (old : SocketId) (fresh : Socket) {e : Entry}
    (he : e ∈ x.directory.entries)
    (ha : (x.substitute old fresh).directory.isAwaiting e.channel = true) :
    Holds x.outline (x.substitute old fresh).outline e := by
  obtain ⟨next, cs, -, heq⟩ := outline_substitute old fresh x
  refine .relinked (congrArg Outline.entries heq) he (.inr fun hlink => ?_)
  rw [isAwaiting_substitute h fresh he hlink] at ha
  exact nomatch ha

/-- An attempt to replace an outbound socket is a shift. -/
theorem shift_retry (h : x.outline.Sound) {r : Retry}
    (hr : ∀ n, (r.socket, n) ∈ x.outline.sockets → n.role = .outbound) : Shift x (retry r x) := by
  have hsame : Shift x x := .of_outline h rfl (.refl x)
  unfold retry
  split
  · exact hsame
  · rename_i ho
    rw [Bool.not_eq_false] at ho
    split
    · exact hsame
    · rename_i s hs
      have hn := Sockets.mem_natures.mpr ⟨s, Sockets.mem_of_find? hs, rfl⟩
      split
      · exact hsame
      · rename_i remote hfar
        have hphase := outline_setPhase r.socket .retrying x
        have hprofile : (x.modifySocket r.socket fun s => { s with phase := .retrying }).profile =
            x.profile := rfl
        have hcalm := Calmer.setPhase r.socket .retrying x
        dsimp only
        generalize (x.modifySocket r.socket fun s => { s with phase := .retrying }) = y
          at hphase hprofile hcalm ⊢
        have hopen : y.isOpen = true := (congrArg Outline.isOpen hphase).trans ho
        have hasked : ∀ network, Calmer x { y with network } := fun network =>
          hcalm.trans (.of_same (fun _ => rfl) rfl rfl)
        split
        · rename_i network _
          have hnoted := ((hasked network).trans (.setPhase r.socket .retryScheduled _)).trans
            (.scheduleRetry r.socket r.delay _)
          have hfailed := move_retryFailed (y := { y with network }) hn (hr _ hn) hphase
          obtain ⟨_, _, heq⟩ := scheduleRetry_eq r.socket r.delay
            (({ y with network } : Exchange ν).modifySocket r.socket
              fun s => { s with phase := .retryScheduled })
          rw [heq] at hfailed hnoted ⊢
          have hentries : y.outline.entries = x.outline.entries := congrArg Outline.entries hphase
          exact .of_move h hfailed hnoted (fun e he _ => .of_mem (hentries ▸ he)) fun _ => hopen
        · rename_i ownEnd network _
          have hsubstituted := moveTold_substitute (y := { y with network }) ownEnd ho hn
            (hr _ hn) hfar hphase hprofile
          refine .of_moveTold h hsubstituted ((hasked network).trans (.substitute ..))
            fun e he ha => ?_
          replace he : e ∈ x.outline.entries := he
          rw [← hphase] at h he ⊢
          exact holds_substitute (x := { y with network }) h _ _ he ha

theorem turns_foldl_retry (due : List Retry) (h : x.outline.Regular) (hset : x.outline.Settled)
    (hdue : ∀ r ∈ due, r.socket < x.nextSocket ∧
      ∀ n, (r.socket, n) ∈ x.outline.sockets → n.role = .outbound) :
    ReflTransGen SteadyTurn x (due.foldl (fun x r => retry r x) x) := by
  induction due generalizing x with
  | nil => exact .refl
  | cons r due ih =>
    have hout := (hdue r List.mem_cons_self).2
    have hmoves := moves_retry hout
    obtain ⟨hregular, hsettled⟩ := h.moves hset hmoves
    have hfirst : SteadyTurn x (retry r x) :=
      ⟨.shift (shift_retry h.sound hout), hregular, profile_retry r x⟩
    have hgrows := grows_moves hmoves
    refine .head hfirst (ih hregular hsettled fun r' hr' => ?_)
    obtain ⟨hlt, hout'⟩ := hdue r' (List.mem_cons_of_mem r hr')
    refine ⟨Nat.lt_of_lt_of_le hlt hgrows.next, fun n hn => ?_⟩
    rcases hgrows.sockets _ hn with hold | hnew
    · exact hout' n hold
    · exact absurd hlt (Nat.not_lt.mpr hnew)

theorem turns_retryDue (h : x.outline.Regular) (hset : x.outline.Settled) :
    ReflTransGen SteadyTurn x x.retryDue := by
  have htaken := event_takeDue x
  obtain ⟨hregular, hsettled⟩ := h.moves hset (.single (.event htaken))
  have hshift : Shift x { x with schedule := (x.schedule.takeDue x.clock).2 } :=
    .of_move h.sound (.event htaken) (.of_same (fun _ => rfl) rfl rfl) (fun e he _ => .of_mem he) id
  refine .head ⟨.shift hshift, hregular, rfl⟩ (turns_foldl_retry _ hregular hsettled fun r hr => ?_)
  rw [Schedule.takeDue, List.partition_eq_filter_filter] at hr
  exact h.sound.retries r.socket (List.mem_map_of_mem (List.mem_filter.mp hr).1)

/-! ### Steps -/

omit [Network ν] in
theorem shift_armPending (h : x.outline.Sound) : Shift x x.armPending := by
  have hmove := move_armPending h .refl
  have hcalm := Calmer.armPending x
  obtain ⟨_, _, heq⟩ := armPending_eq x
  rw [heq] at hmove hcalm ⊢
  exact .of_move h hmove hcalm (fun e he _ => .of_mem he) id

/-- Closing ends every call. -/
theorem pending_deactivate (h : x.outline.Sound) (ho : x.isOpen = true) {e : Entry}
    (he : e ∈ x.directory.entries) : (x.deactivate.directory.call e.channel).pending = .idle := by
  have hdirectory : x.deactivate.directory =
      (x.directory.cancelCalls x.directory.channels).unlinkAll := by
    obtain ⟨_, _, _, _, hdiscard⟩ := discard_eq (x.sockets.map (·.1)) x
    unfold deactivate close
    dsimp only
    rw [if_neg (by rw [ho]; decide), hdiscard]
  rw [hdirectory, call_unlinkAll]
  exact pending_cancelCalls (List.mem_map_of_mem he) (keeps_of_mem h.numbered he)

theorem isAwaiting_deactivate (h : x.outline.Sound) (ho : x.isOpen = true) {e : Entry}
    (he : e ∈ x.directory.entries) : x.deactivate.directory.isAwaiting e.channel = false :=
  isAwaiting_of_idle (pending_deactivate h ho he)

theorem shift_deactivate (h : x.outline.Sound) : Shift x x.deactivate where
  toCalmer := .deactivate x
  grows := grows_move (move_deactivate x)
  links := linksKept_move h (move_deactivate x)
  holds e he ha := by
    cases ho : x.isOpen with
    | true =>
      rw [isAwaiting_deactivate h ho he] at ha
      exact nomatch ha
    | false =>
      have hdirectory : x.deactivate.directory = x.directory := by
        unfold deactivate close
        dsimp only
        rw [if_pos ho]
      refine .of_mem ?_
      show e ∈ x.deactivate.directory.entries
      rwa [hdirectory]
  shut ho _ _ he := isAwaiting_deactivate h ho he

/-- Letting a channel go ends its call. -/
theorem isAwaiting_retain (h : x.outline.Sound) {kept : List Channel} {e : Entry}
    (he : e ∈ x.directory.entries) (hgone : kept.any (·.id == e.channel.id) = false) :
    (x.retain kept).directory.isAwaiting e.channel = false := by
  set p : Channel → Bool := fun c => kept.any (·.id == c.id) with hp
  have hdirectory : (x.retain kept).directory =
      (x.directory.keepOnly p).2.cancelCalls (x.directory.keepOnly p).1 := by
    obtain ⟨_, _, _, _, hdiscard⟩ := discard_eq (ν := ν)
      (x.sockets.idsWhere fun id s => s.role == .outbound &&
        !(x.directory.keepOnly p).2.linkedSockets.contains id)
      { x with directory := (x.directory.keepOnly p).2 }
    unfold Exchange.retain closeOrphans
    dsimp only
    rw [hdiscard]
  have hremoved : e.channel ∈ (x.directory.keepOnly p).1 :=
    List.mem_map_of_mem (List.mem_filter.mpr ⟨he, by simp [hp, hgone]⟩)
  have hkeeps : (x.directory.keepOnly p).2.Keeps e.channel := keeps_of_mem h.numbered he
  rw [hdirectory]
  exact isAwaiting_cancelCalls hremoved hkeeps

theorem isOpen_moveListener (p : Profile) (ownEnd : Endpoint) (x : Exchange ν) :
    (x.moveListener p ownEnd).isOpen = x.isOpen := by
  obtain ⟨_, _, _, _, _, _, _, heq⟩ := moveListener_eq p ownEnd x
  rw [heq]

/-- A step outside of a pass is a shift. -/
theorem shift_singleStep (h : x.outline.Regular) (hstep : SingleStep x y) : Shift x y := by
  have hsame : y.outline = x.outline → Calmer x y → Shift x y := .of_outline h.sound
  have hholds : ∀ e ∈ x.directory.entries, y.directory.isAwaiting e.channel = true →
      Holds x.outline y.outline e := by
    intro e he ha
    rcases holds_singleStep h.sound hstep he with hholds | ⟨kept, rfl, hgone⟩
    · exact hholds
    · exact nomatch (isAwaiting_retain h.sound he hgone).symm.trans ha
  cases hstep with
  | answered network => exact hsame rfl (.of_same (fun _ => rfl) rfl rfl)
  | elapsed ms => exact hsame rfl (.of_same (fun _ => rfl) rfl rfl)
  | opened ownEnd ho =>
    have hunlocked : Calmer x { x with isOpen := true } := .of_same (fun _ => rfl) rfl rfl
    exact .of_move h.sound (move_opened ownEnd ho)
      (hunlocked.trans (.raiseListener x.profile ownEnd _)) hholds fun _ => rfl
  | adopted p hs hm ht =>
    exact .of_move h.sound (.adopted x.outline p.transport ht) (.of_same (fun _ => rfl) rfl rfl)
      hholds id
  | moved p ownEnd hs hm ho =>
    exact .of_move h.sound (move_moveListener p ownEnd ho) (.moveListener p ownEnd x) hholds
      (isOpen_moveListener p ownEnd x).trans
  | enrolled s r hv hb =>
    exact .of_move h.sound (move_enrolled x hv)
      (.of_same (fun c => call_append x.directory s r c) rfl rfl) hholds id
  | joined ho hc hu hid =>
    exact .of_moveTold h.sound (moveTold_joined h.sound ho hc hu hid) (.join _ _ x) hholds
  | connected ownEnd ho hc hu hd hr hn =>
    exact .of_moveTold h.sound (moveTold_connected h.sound ownEnd ho hc hu hr)
      ((Calmer.track _ x).trans (.join _ _ _)) hholds
  | retained kept =>
    have houtline := outline_retain kept x
    refine .of_move h.sound ?_ (.retain kept x) hholds (congrArg Outline.isOpen houtline).trans
    rw [houtline]
    exact .retained x.outline _
  | queued data call ho hc ht =>
    exact .of_move h.sound (move_queued h.sound data call ho hc ht)
      (.of_same (fun _ => rfl) rfl rfl) hholds id
  | armed id => exact hsame (outline_arm id x) (.modifySocket id (fun s => by split <;> rfl) x)
  | rearmed => exact shift_armPending h.sound
  | began c hb =>
    exact hsame (outline_onDirectory_of_core (core_modifyCall _ _ _))
      (.onDirectory (.modifyCall (CallBox.calmer_start? hb)))
  | collected c g =>
    exact hsame (outline_onDirectory_of_core (core_modifyCall _ _ _))
      (.onDirectory (.modifyCall (CallBox.calmer_collect g _)))
  | finished c g =>
    exact hsame (outline_onDirectory_of_core (core_modifyCall _ _ _))
      (.onDirectory (.modifyCall (CallBox.calmer_finish g _)))
  | faulted id =>
    exact .of_passMoves h.sound (passMoves_of_events (events_reportFault x id))
      (.reportFault id x)

omit [Network ν] in
/-- The announcements are taken. -/
theorem shift_takeAnnouncements (h : x.outline.Sound) : Shift x x.takeAnnouncements.2 :=
  .of_move h (.told x.outline) (.of_same (fun _ => rfl) rfl rfl) (fun _ he _ => .of_mem he) id

/-- **A step is a shift, or a chain of turns that leave the settings alone.** -/
theorem turns_plainStep (h : x.outline.Regular) (hset : x.outline.Settled) (hstep : PlainStep x y) :
    Shift x y ∨ ReflTransGen SteadyTurn x y := by
  cases hstep with
  | single hstep => exact .inl (shift_singleStep h hstep)
  | retried => exact .inr (turns_retryDue h hset)
  | @passed y ho hp =>
    -- A pass is over when the writes that can reach nobody are dropped and what was read is given.
    have hpass := passMoves_passSteps h.sound hp
    have hsound := h.sound.passMoves hpass
    obtain ⟨hregular, -⟩ := h.moves hset (.single (move_armPending hsound hpass))
    have harmed : SteadyTurn y y.armPending := by
      refine ⟨.shift (shift_armPending hsound), hregular, ?_⟩
      obtain ⟨_, _, heq⟩ := armPending_eq y
      rw [heq]
    have hread : SteadyTurn y.armPending { y.armPending with inbox := [] } :=
      ⟨.shift (.of_outline hregular.sound rfl (.of_same (fun _ => rfl) rfl rfl)), hregular, rfl⟩
    exact .inr (((turns_passSteps h hp).tail harmed).tail hread)

/-! ### Operations -/

/-- Steps that leave the settings alone are turns. -/
theorem turns_steadySteps (h : x.outline.Regular) (hset : x.outline.Settled)
    (hsteps : SteadySteps x y) : ReflTransGen SteadyTurn x y := by
  induction hsteps with
  | refl => exact .refl
  | tail hbefore hstep ih =>
    have hmoves := moves_steps h.sound (SteadySteps.steps hbefore)
    obtain ⟨hregular, hsettled⟩ := h.moves hset hmoves
    rcases turns_plainStep hregular hsettled hstep.1 with hshift | hturns
    · obtain ⟨hafter, -⟩ := hregular.moves hsettled (moves_plainStep hregular.sound hstep.1)
      exact ih.tail ⟨.shift hshift, hafter, hstep.2⟩
    · exact ih.trans hturns

/-- **An operation is a shift, or a chain of turns that leave the settings alone.** -/
theorem turns_apply (h : x.outline.Regular) (hset : x.outline.Settled) (op : Operation ν) :
    Shift x (x.apply op) ∨ ReflTransGen SteadyTurn x (x.apply op) := by
  rcases apply_cases x op with ⟨c, rfl⟩ | rfl | rfl | hsteady
  · -- The network was asked, and then the settings changed, if they did.
    obtain ⟨network, heq | hstep⟩ := updateProfile_cases c x
    · have hafter : x.apply (.updateProfile c) = { x with network } := heq
      rw [hafter]
      exact .inl (.of_outline h.sound rfl (.of_same (fun _ => rfl) rfl rfl))
    · have hshift := shift_singleStep (x := { x with network }) h hstep
      exact .inl ⟨⟨hshift.calls, hshift.logged⟩, hshift.grows, hshift.links, hshift.holds,
        hshift.shut⟩
  · exact .inl (shift_deactivate h.sound)
  · exact .inl (shift_takeAnnouncements h.sound)
  · exact .inr (turns_steadySteps h hset hsteady)

end Switchboard.Exchange
