import Switchboard.Proofs.Step.Operations
import Switchboard.Proofs.Undisturbed

/-!
# Where nothing is read or sent

Data is read and sent in polls alone.  Whatever else happens to an exchange leaves it *still*
(`Exchange.Still`): its journal says of no buffer that it was read and of no bytes that they were
sent, what was read stays for the protocol, and every channel remembers the sender that it has heard
from last.  Each part of an operation is still by itself, and so is every operation that is not a
poll (`still_apply`).  In a poll, it is reading and sending that are not (`still_passStep`).
-/

namespace Switchboard

open Net Settings Relation Directory

/-- Does the event say that data was read or sent? -/
def Traffic.isTransfer : Traffic → Bool
  | .sent .. | .received .. => true
  | _ => false

namespace Directory

/-- The sender that a channel has heard from last. -/
def lastSender (d : Directory) (c : Channel) : Option Endpoint :=
  (d.status c).lastSender

theorem lastSender_of_core {d d' : Directory} (hh : d'.core.home = d.core.home)
    (hs : d'.core.senders = d.core.senders) (c : Channel) : d'.lastSender c = d.lastSender c := by
  unfold lastSender
  rw [lastSender_status, lastSender_status, hh, hs]

theorem lastSender_of_core_eq {d d' : Directory} (h : d'.core = d.core) (c : Channel) :
    d'.lastSender c = d.lastSender c :=
  lastSender_of_core (congrArg Core.home h) (congrArg Core.senders h) c

end Directory

namespace Exchange

variable {ν : Type} {x y z : Exchange ν}

/-- **Nothing was read or sent,** and no channel has heard from anybody. -/
structure Still (x y : Exchange ν) : Prop where
  inbox : y.inbox = x.inbox
  senders : ∀ c, y.directory.lastSender c = x.directory.lastSender c
  logged : ∃ since, y.journal = since ++ x.journal ∧ ∀ t ∈ since, t.isTransfer = false

namespace Still

/-- Where inbox, directory and journal are the same. -/
theorem of_same (hi : y.inbox = x.inbox) (hd : y.directory = x.directory)
    (hj : y.journal = x.journal) : Still x y where
  inbox := hi
  senders _ := by rw [hd]
  logged := ⟨[], hj, fun _ ht => absurd ht List.not_mem_nil⟩

theorem refl (x : Exchange ν) : Still x x :=
  of_same rfl rfl rfl

theorem trans (h : Still x y) (h' : Still y z) : Still x z where
  inbox := h'.inbox.trans h.inbox
  senders c := (h'.senders c).trans (h.senders c)
  logged := by
    obtain ⟨since, hj, hstill⟩ := h.logged
    obtain ⟨since', hj', hstill'⟩ := h'.logged
    refine ⟨since' ++ since, by rw [hj', hj, List.append_assoc], fun t ht => ?_⟩
    exact (List.mem_append.mp ht).elim (hstill' t) (hstill t)

theorem onDirectory {f : Directory → Directory}
    (hf : ∀ c, (f x.directory).lastSender c = x.directory.lastSender c) :
    Still x (x.onDirectory f) where
  inbox := rfl
  senders := hf
  logged := ⟨[], rfl, fun _ ht => absurd ht List.not_mem_nil⟩

theorem modifyCall (c : Channel) (f : CallBox → CallBox) (x : Exchange ν) :
    Still x (x.onDirectory (·.modifyCall c f)) :=
  onDirectory (lastSender_of_core_eq (core_modifyCall c f _))

theorem track (s : Socket) (x : Exchange ν) : Still x (track s x) :=
  ⟨rfl, fun _ => rfl, [.opened x.nextSocket], rfl, fun _ ht => List.mem_singleton.mp ht ▸ rfl⟩

theorem announceAll (id : SocketId) (cs : List Channel) (x : Exchange ν) :
    Still x (x.announceAll id cs) := by
  rw [announceAll_eq]
  refine ⟨rfl, fun _ => rfl, _, rfl, fun t ht => ?_⟩
  obtain ⟨c, -, rfl⟩ := List.mem_map.mp (List.mem_reverse.mp ht)
  rfl

theorem scheduleRetry (id : SocketId) (delay : Nat) (x : Exchange ν) :
    Still x (x.scheduleRetry id delay) := by
  obtain ⟨_, _, h⟩ := scheduleRetry_eq id delay x
  rw [h]
  exact of_same rfl rfl rfl

theorem armPending (x : Exchange ν) : Still x x.armPending := by
  obtain ⟨_, _, h⟩ := armPending_eq x
  rw [h]
  exact of_same rfl rfl rfl

theorem armUnlessHeld (id : SocketId) (x : Exchange ν) : Still x (x.armUnlessHeld id) := by
  unfold Exchange.armUnlessHeld
  split_ifs
  · exact refl x
  · exact of_same rfl rfl rfl

theorem setReconnecting (socket : SocketId) (value : Bool) (x : Exchange ν) :
    Still x (x.onDirectory (·.setReconnecting socket value)) :=
  onDirectory (lastSender_of_core_eq (core_setReconnecting socket value _))

theorem join (c : Channel) (id : SocketId) (x : Exchange ν) : Still x (x.join c id) := by
  obtain ⟨newcomers, h⟩ := join_eq c id x
  rw [h]
  have hlinked : Still x (x.onDirectory (·.link c.id id x.profile.sharing x.listener)) :=
    onDirectory fun c' => congrArg Status.lastSender (status_link ..)
  exact hlinked.trans (announceAll id newcomers _)

theorem raiseListener (p : Profile) (ownEnd : Endpoint) (x : Exchange ν) :
    Still x (x.raiseListener p ownEnd) := by
  have hopened := track (Socket.listening p.transport ownEnd) { x with profile := p }
  exact ⟨hopened.inbox, hopened.senders, hopened.logged⟩

theorem foldl_unlink (ids : List SocketId) (x : Exchange ν) :
    Still x (ids.foldl (fun x id => x.onDirectory (·.unlink id)) x) := by
  induction ids generalizing x with
  | nil => exact refl x
  | cons id ids ih =>
    have hunlinked : Still x (x.onDirectory (·.unlink id)) :=
      onDirectory (lastSender_of_core (by rw [core_unlink]) (by rw [core_unlink]))
    exact hunlinked.trans (ih _)

variable [Network ν]

/-! ### Closing and moving -/

theorem closeSocket (id : SocketId) (x : Exchange ν) : Still x (x.closeSocket id) := by
  unfold Exchange.closeSocket
  split_ifs
  · exact ⟨rfl, fun _ => rfl, [.closed id], rfl, fun _ ht => List.mem_singleton.mp ht ▸ rfl⟩
  · exact refl x

theorem discard (ids : List SocketId) (x : Exchange ν) : Still x (x.discard ids) := by
  unfold Exchange.discard
  induction ids generalizing x with
  | nil => exact refl x
  | cons id ids ih =>
    have hcancel : Still x { x with schedule := x.schedule.cancel id } := of_same rfl rfl rfl
    exact (hcancel.trans (closeSocket id _)).trans (ih _)

theorem closeOrphans (x : Exchange ν) : Still x x.closeOrphans :=
  discard _ x

theorem moveListener (p : Profile) (ownEnd : Endpoint) (x : Exchange ν) :
    Still x (x.moveListener p ownEnd) := by
  have hmoved : ∀ y, Still x y →
      Still x (if x.profile.transport ≠ p.transport then y.closeOutbound else y) := by
    intro y hy
    split_ifs
    · exact (hy.trans (foldl_unlink _ y)).trans (discard _ _)
    · exact hy
  have hraised := raiseListener p ownEnd x
  refine hmoved _ ?_
  split
  · exact hraised
  · rename_i old _
    exact (hraised.trans (closeSocket old _)).trans (onDirectory fun _ => rfl)

theorem retain (kept : List Channel) (x : Exchange ν) : Still x (x.retain kept) := by
  have hkept : Still x { x with
      directory := (x.directory.keepOnly fun c => kept.any (·.id == c.id)).2 } :=
    ⟨rfl, fun _ => rfl, [], rfl, fun _ ht => absurd ht List.not_mem_nil⟩
  have hclosed := hkept.trans (closeOrphans _)
  exact ⟨hclosed.inbox, fun c => (lastSender_of_core_eq (core_cancelCalls ..) c).trans
    (hclosed.senders c), hclosed.logged⟩

theorem deactivate (x : Exchange ν) : Still x x.deactivate := by
  unfold Exchange.deactivate close
  dsimp only
  split_ifs
  · exact of_same rfl rfl rfl
  · have hclosed := discard (x.sockets.map (·.1)) x
    generalize x.discard (x.sockets.map (·.1)) = y at hclosed ⊢
    have hended := lastSender_of_core_eq (core_cancelCalls y.directory.channels y.directory)
    have hfreed : ∀ d : Directory, ∀ c, d.unlinkAll.lastSender c = d.lastSender c := fun d =>
      lastSender_of_core (by rw [core_unlinkAll]) (by rw [core_unlinkAll])
    exact ⟨hclosed.inbox, fun c => ((hfreed _ c).trans (hended c)).trans (hclosed.senders c),
      hclosed.logged⟩

/-! ### Failures and their repair -/

theorem reportFault (id : SocketId) (x : Exchange ν) : Still x (reportFault id x).2 := by
  unfold Exchange.reportFault
  split
  · exact refl x
  · split
    · exact refl x
    · exact closeSocket id x
    · split_ifs
      · exact refl x
      · have hphase : Still x (x.modifySocket id fun s => { s with phase := .retryScheduled }) :=
          of_same rfl rfl rfl
        exact (hphase.trans (scheduleRetry id x.profile.retryInterval _)).trans
          (setReconnecting id true _)

theorem substitute (old : SocketId) (fresh : Socket) (x : Exchange ν) :
    Still x (x.substitute old fresh) := by
  have hmoved : ∀ y : Exchange ν, Still y (y.onDirectory fun d =>
      let d := (d.relink old x.nextSocket).setReconnecting x.nextSocket false
      d.cancelCalls (d.onSocket x.nextSocket)) := by
    intro y
    refine onDirectory fun c => ?_
    exact (lastSender_of_core_eq (core_cancelCalls ..) c).trans
      (lastSender_of_core_eq (core_setReconnecting ..) c)
  have htaken := ((closeSocket old x).trans (track fresh _)).trans (hmoved _)
  unfold Exchange.substitute
  dsimp only
  split_ifs
  · exact htaken.trans (announceAll _ _ _)
  · exact htaken

theorem retry (r : Retry) (x : Exchange ν) : Still x (retry r x) := by
  unfold Exchange.retry
  split_ifs
  · exact refl x
  · split
    · exact refl x
    · split
      · exact refl x
      · have hasked : ∀ phase network, Still x
            { x.modifySocket r.socket fun s => { s with phase } with network } :=
          fun _ _ => of_same rfl rfl rfl
        have hfailed : ∀ y : Exchange ν, Still y
            (y.modifySocket r.socket fun s => { s with phase := .retryScheduled }) :=
          fun _ => of_same rfl rfl rfl
        dsimp only
        split
        · rename_i network _
          exact ((hasked .retrying network).trans (hfailed _)).trans
            (scheduleRetry r.socket r.delay _)
        · rename_i network _
          exact (hasked .retrying network).trans (substitute r.socket _ _)

theorem retryDue (x : Exchange ν) : Still x x.retryDue := by
  have hfold : ∀ (due : List Retry) (y : Exchange ν),
      Still y (due.foldl (fun x r => Exchange.retry r x) y) := by
    intro due
    induction due with
    | nil => exact refl
    | cons r due ih => exact fun y => (retry r y).trans (ih (Exchange.retry r y))
  have htaken : Still x { x with schedule := (x.schedule.takeDue x.clock).2 } := of_same rfl rfl rfl
  exact htaken.trans (hfold _ _)

/-! ### Channels and their sockets -/

omit [Network ν] in
theorem attachInbound (c : Channel) (x : Exchange ν) : Still x (x.attachInbound c).2 := by
  unfold Exchange.attachInbound
  split
  · exact refl x
  · exact join c _ x

theorem attachOutbound (c : Channel) (x : Exchange ν) : Still x (x.attachOutbound c).2 := by
  unfold Exchange.attachOutbound
  split
  · exact join c _ x
  · split
    · exact refl x
    · split
      · exact of_same rfl rfl rfl
      · rename_i network _
        have hanswered : Still x { x with network } := of_same rfl rfl rfl
        exact (hanswered.trans (track _ _)).trans (join c _ _)

theorem ensureSocket (c : Channel) (x : Exchange ν) : Still x (x.ensureSocket c).2 := by
  unfold Exchange.ensureSocket
  split_ifs
  · exact refl x
  · exact refl x
  · split
    · exact refl x
    · split
      · exact attachInbound c x
      · exact attachOutbound c x

omit [Network ν] in
theorem attachWaiting (cs : List Channel) (x : Exchange ν) : Still x (attachWaiting cs x).2 := by
  induction cs generalizing x with
  | nil => exact refl x
  | cons c cs ih =>
    have hattach := attachInbound c x
    unfold Exchange.attachWaiting
    split_ifs
    · split <;> rename_i heq <;> rw [heq] at hattach
      · exact hattach
      · exact hattach.trans (ih _)
    · exact ih x

theorem openUp (x : Exchange ν) : Still x x.openUp.2 := by
  unfold Exchange.openUp
  split_ifs
  · exact refl x
  · obtain ⟨e, network, heq⟩ | ⟨ownEnd, network, heq⟩ := openListener_cases { x with isOpen := true }
    · rw [heq]
      exact of_same rfl rfl rfl
    · rw [heq]
      have hopened : Still x { x with isOpen := true, network } := of_same rfl rfl rfl
      exact (hopened.trans (raiseListener _ ownEnd _)).trans (attachWaiting _ _)

theorem updateProfile (c : Configuration) (x : Exchange ν) : Still x (x.updateProfile c).2 := by
  obtain ⟨network, heq⟩ | ⟨p, -, -, ⟨-, heq⟩ | ⟨-, ownEnd, network, heq⟩⟩ := updateProfile_eq c x
  · rw [heq]
    exact of_same rfl rfl rfl
  · rw [heq]
    exact of_same rfl rfl rfl
  · rw [heq]
    have hanswered : Still x { x with network } := of_same rfl rfl rfl
    exact hanswered.trans (moveListener p ownEnd _)

omit [Network ν] in
theorem bind (s : Subject) (r : Remote) (x : Exchange ν) : Still x (x.bind s r).2 := by
  unfold Exchange.bind enrol
  cases vet s r x.profile.sharing.masks with
  | error e => exact refl x
  | ok u =>
    cases x.directory.bound? s r with
    | some c => exact refl x
    | none =>
      have hcame : Still x { x with directory := (x.directory.append s r).2 } :=
        ⟨rfl, fun c => congrArg Status.lastSender (status_append x.directory s r c), [], rfl,
          fun _ ht => absurd ht List.not_mem_nil⟩
      have hattach := attachInbound (x.directory.append s r).1
        { x with directory := (x.directory.append s r).2 }
      dsimp only
      split_ifs
      · split <;> rename_i heq <;> rw [heq] at hattach <;> exact hcame.trans hattach
      · exact hcame

omit [Network ν] in
theorem bindAll (bindings : List (Subject × Remote)) (x : Exchange ν) :
    Still x (bindAll bindings x).2 := by
  induction bindings generalizing x with
  | nil => exact refl x
  | cons binding bindings ih =>
    obtain ⟨s, r⟩ := binding
    have hbind := bind s r x
    unfold Exchange.bindAll
    split <;> rename_i y heq <;> rw [heq] at hbind
    · exact hbind
    · have hrest := ih y
      split <;> rename_i hall <;> rw [hall] at hrest <;> exact hbind.trans hrest

theorem reconfigure (bindings : List (Subject × Remote)) (x : Exchange ν) :
    Still x (x.reconfigure bindings).2 := by
  unfold Exchange.reconfigure
  split
  · exact refl x
  · have hbind := bindAll bindings x
    split <;> rename_i y heq <;> rw [heq] at hbind
    · exact hbind
    · exact hbind.trans (retain _ y)

theorem enqueue (c : Channel) (data : Bytes) (call : Option Nat) (x : Exchange ν) :
    Still x (x.enqueue c data call).2 := by
  have hensure := ensureSocket c x
  unfold Exchange.enqueue
  split <;> rename_i y heq <;> rw [heq] at hensure
  · exact hensure
  · split
    · exact hensure
    · have hqueued : Still y { y with outbox := y.outbox.push c data call } := of_same rfl rfl rfl
      exact (hensure.trans hqueued).trans (armUnlessHeld _ _)

end Still

variable [Network ν]

/-- **A step of a pass leaves the exchange still,** or hands a buffer on, or sends something. -/
theorem still_passStep (hstep : PassStep x y) :
    (Still x y ∧ Undisturbed x y) ∨
      (∃ id s sender data, x.sockets.find? id = some s ∧ y = x.route id s.role sender data) ∨
      ∃ id s i w target count, x.sockets.find? id = some s ∧
        x.nextWrite? id = some (i, w, target) ∧ y = x.sendBytes id s i w target count := by
  cases hstep with
  | answered network => exact .inl ⟨.of_same rfl rfl rfl, .of_same rfl rfl rfl⟩
  | exceeded l => exact .inl ⟨.of_same rfl rfl rfl, .of_same rfl rfl rfl⟩
  | admitted ownEnd remote hs hm => exact .inl ⟨.track _ x, .of_same rfl rfl rfl⟩
  | @established id s hs hm hp =>
    let y := x.modifySocket id fun s => { s with phase := .active, interest := ⟨true, true⟩ }
    have hphase : Still x y := .of_same rfl rfl rfl
    have hphase' : Undisturbed x y := .of_same rfl rfl rfl
    exact .inl ⟨hphase.trans (.announceAll id _ y), hphase'.trans (.announceAll id _ y)⟩
  | faulted id => exact .inl ⟨.reportFault id x, .reportFault id x⟩
  | @routed id s sender data hs hp hm hsender => exact .inr (.inl ⟨id, s, sender, data, hs, rfl⟩)
  | @sent id s i w target count hs hp hm hheld hnext hcount =>
    exact .inr (.inr ⟨id, s, i, w, target, count, hs, hnext, rfl⟩)
  | disarmed id => exact .inl ⟨.of_same rfl rfl rfl, .of_same rfl rfl rfl⟩

/-- **Every operation but a poll leaves the exchange still.** -/
theorem still_apply (x : Exchange ν) {op : Operation ν} (hop : op ≠ .poll) :
    Still x (x.apply op) := by
  cases op with
  | openUp => exact .openUp x
  | deactivate => exact .deactivate x
  | updateProfile c => exact .updateProfile c x
  | bind s r => exact .bind s r x
  | reconfigure bindings => exact .reconfigure bindings x
  | ensureSocket c => exact .ensureSocket c x
  | enqueue c data call => exact .enqueue c data call x
  | beginCall c =>
    change Still x (x.beginCall c).2
    unfold beginCall
    split
    · exact .refl x
    · exact .modifyCall c _ x
  | collect c g => exact .modifyCall c _ x
  | finishCall c g => exact .modifyCall c _ x
  | armPending => exact .armPending x
  | takeAnnouncements => exact .of_same rfl rfl rfl
  | poll => exact absurd rfl hop
  | runDueRetries => exact (Still.retryDue x).trans (.armPending _)
  | reportFault id => exact .reportFault id x
  | elapse ms => exact .of_same rfl rfl rfl
  | world network => exact .of_same rfl rfl rfl

/-- A run without polls leaves the exchange still. -/
theorem still_run (x : Exchange ν) {ops : List (Operation ν)}
    (hops : ∀ op ∈ ops, op ≠ .poll) : Still x (x.run ops) := by
  induction ops generalizing x with
  | nil => exact .refl x
  | cons op ops ih =>
    exact (still_apply x (hops op List.mem_cons_self)).trans
      (ih _ fun op' h => hops op' (List.mem_cons_of_mem _ h))

end Exchange

end Switchboard
