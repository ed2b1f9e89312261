import Switchboard.Proofs.Profile
import Switchboard.Proofs.Runs
import Switchboard.Proofs.Step.Pass

/-!
# Operations in steps

Every operation is a chain of steps (`steps_apply`), and so is every run (`steps_run`).  Only
reading other settings changes the settings: any other operation that takes no announcements is a
chain of steps that leave them alone (`apply_cases`), and reading settings is one step, after the
network has answered (`updateProfile_cases`).
-/

namespace Switchboard.Exchange

open Net Settings Relation

variable {ν : Type} [Network ν]

/-! ### Giving a socket to a channel -/

/-- What giving a socket to a channel leaves as it was: the channels, and that it is open. -/
structure Attached (x y : Exchange ν) : Prop where
  steady : SteadySteps x y
  isOpen : y.isOpen = x.isOpen
  channels : y.directory.channels = x.directory.channels

theorem Attached.refl (x : Exchange ν) : Attached x x :=
  ⟨.refl, rfl, rfl⟩

theorem Attached.trans {x y z : Exchange ν} (h : Attached x y) (h' : Attached y z) :
    Attached x z :=
  ⟨h.steady.trans h'.steady, h'.isOpen.trans h.isOpen, h'.channels.trans h.channels⟩

theorem Attached.answered (x : Exchange ν) (network : ν) : Attached x { x with network } :=
  ⟨.single ⟨.single (.answered x network), rfl⟩, rfl, rfl⟩

omit [Network ν] in
theorem profile_join (c : Channel) (id : SocketId) (x : Exchange ν) :
    (x.join c id).profile = x.profile := by
  obtain ⟨newcomers, h⟩ := join_eq c id x
  rw [h, announceAll_eq]
  rfl

theorem attached_attachInbound {x : Exchange ν} {c : Channel} (ho : x.isOpen = true)
    (hc : c ∈ x.directory.channels) (hu : x.directory.Waits c.id)
    (hd : c.direction = .inbound) : Attached x (x.attachInbound c).2 := by
  unfold attachInbound
  split
  · exact .refl x
  · rename_i id hid
    refine ⟨.single ⟨.single (.joined x ho hc hu ?_), profile_join c id x⟩, isOpen_join c id x,
      channels_join c id x⟩
    cases hs : x.directory.sharedSocket? c x.profile.sharing x.listener with
    | none =>
      rw [hs] at hid
      exact .inr ⟨hd, hid⟩
    | some id' =>
      rw [hs] at hid
      exact .inl hid

theorem attached_attachOutbound {x : Exchange ν} {c : Channel} (ho : x.isOpen = true)
    (hc : c ∈ x.directory.channels) (hu : x.directory.Waits c.id)
    (hd : c.direction = .outbound) : Attached x (x.attachOutbound c).2 := by
  unfold attachOutbound
  split
  · rename_i id hid
    exact ⟨.single ⟨.single (.joined x ho hc hu (.inl hid)), profile_join c id x⟩,
      isOpen_join c id x, channels_join c id x⟩
  · rename_i hn
    split
    · exact .refl x
    · rename_i remote hr
      split
      · rename_i network _
        exact .answered x network
      · rename_i ownEnd network _
        refine (Attached.answered x network).trans
          ⟨.single ⟨.single (.connected { x with network } ownEnd ho hc hu hd hr hn),
            profile_join c _ _⟩, ?_, ?_⟩
        · exact isOpen_join c _ _
        · exact channels_join c _ _

theorem attached_ensureSocket (c : Channel) (x : Exchange ν) :
    Attached x (x.ensureSocket c).2 ∧
      (∀ id, (x.ensureSocket c).1 = .ok id → x.isOpen = true ∧ c ∈ x.directory.channels) := by
  unfold ensureSocket
  split
  · exact ⟨.refl x, fun id h => nomatch h⟩
  · rename_i ho
    rw [Bool.not_eq_false] at ho
    split
    · exact ⟨.refl x, fun id h => nomatch h⟩
    · rename_i hk
      have hc : c ∈ x.directory.channels := by
        obtain ⟨e, he, rfl⟩ := Directory.mem_of_knows (Bool.not_eq_false _ ▸ hk)
        exact List.mem_map_of_mem he
      split
      · exact ⟨.refl x, fun _ _ => ⟨ho, hc⟩⟩
      · rename_i hu
        split
        · rename_i hd
          exact ⟨attached_attachInbound ho hc (Directory.waits_of_mem hc hu) hd, fun _ _ => ⟨ho, hc⟩⟩
        · rename_i hd
          exact ⟨attached_attachOutbound ho hc (Directory.waits_of_mem hc hu) hd, fun _ _ => ⟨ho, hc⟩⟩

theorem attached_attachWaiting (cs : List Channel) {x : Exchange ν} (ho : x.isOpen = true)
    (hcs : ∀ c ∈ cs, c ∈ x.directory.channels) : Attached x (attachWaiting cs x).2 := by
  induction cs generalizing x with
  | nil => exact .refl x
  | cons c cs ih =>
    -- Attaching a channel keeps the others in the directory, so they may be attached after it.
    have hrest : ∀ y, Attached x y → Attached y (attachWaiting cs y).2 := fun y hy =>
      ih (hy.isOpen.trans ho) fun c' hc' => hy.channels ▸ hcs c' (List.mem_cons_of_mem c hc')
    unfold attachWaiting
    split
    · rename_i hwait
      have hattach := attached_attachInbound ho (hcs c List.mem_cons_self)
        (Directory.waits_of_mem (hcs c List.mem_cons_self) hwait.2) hwait.1
      split <;> rename_i y heq <;> rw [heq] at hattach
      · exact hattach
      · exact hattach.trans (hrest y hattach)
    · exact hrest x (.refl x)

/-! ### Settings and the listener -/

/-- Opening a listener fails and changes nothing but the network, or raises one. -/
theorem openListener_cases (x : Exchange ν) :
    (∃ e network, x.openListener = (.error e, { x with network })) ∨
      ∃ ownEnd network,
        x.openListener = (.ok x.nextSocket, raiseListener x.profile ownEnd { x with network }) := by
  unfold openListener
  rcases Network.listen x.profile.transport x.nextSocket x.profile.listenerEndpoint x.network with
    ⟨_ | ownEnd, network⟩
  · exact .inl ⟨_, network, rfl⟩
  · exact .inr ⟨ownEnd, network, rfl⟩

theorem steady_openUp (x : Exchange ν) : SteadySteps x x.openUp.2 := by
  unfold openUp
  split
  · exact .refl
  · rename_i ho
    rw [Bool.not_eq_true] at ho
    obtain ⟨e, network, h⟩ | ⟨ownEnd, network, h⟩ := openListener_cases { x with isOpen := true }
    · -- An exchange that could not open its listener is closed again, as it was.
      rw [h]
      have hsame : ({ x with isOpen := false, network } : Exchange ν) = { x with network } := by
        rw [← ho]
      change SteadySteps x ({ x with isOpen := false, network } : Exchange ν)
      rw [hsame]
      exact .single ⟨.single (.answered x network), rfl⟩
    · rw [h]
      refine .head ⟨.single (.answered x network), rfl⟩
        (.head ⟨.single (.opened { x with network } ownEnd ho), rfl⟩ ?_)
      exact (attached_attachWaiting _ rfl fun c hc => hc).steady

/-- Moving the listener fails and changes nothing but the network, or it is what `moveListener`
does before it looks at the transport. -/
theorem rebindListener_cases (x : Exchange ν) (p : Profile) :
    (∃ e network, rebindListener { x with profile := p } =
      (.error e, { x with profile := p, network })) ∨
    ∃ ownEnd network y, rebindListener { x with profile := p } = (.ok (), y) ∧
      moveListener p ownEnd { x with network } =
        if x.profile.transport ≠ p.transport then y.closeOutbound else y := by
  unfold rebindListener
  obtain ⟨e, network, h⟩ | ⟨ownEnd, network, h⟩ := openListener_cases { x with profile := p }
  · rw [h]
    exact .inl ⟨e, network, rfl⟩
  · rw [h]
    refine .inr ⟨ownEnd, network, _, ?_, rfl⟩
    cases x.listener with
    | none => simp [raiseListener]
    | some old => simp [raiseListener]

/-- **Reading other settings** changes nothing but the network, or other settings take effect, by
which the listener stays or moves. -/
theorem updateProfile_eq (c : Configuration) (x : Exchange ν) :
    (∃ network, (x.updateProfile c).2 = { x with network }) ∨
    ∃ p : Profile, p.sharing.check = .ok () ∧
      (p.sharing.masks = true ∨ x.directory.channels.any (·.remote.isMask) = false) ∧
      ((x.isOpen = true → x.profile.transport = p.transport) ∧
          (x.updateProfile c).2 = { x with profile := p } ∨
        x.isOpen = true ∧
          ∃ ownEnd network, (x.updateProfile c).2 = moveListener p ownEnd { x with network }) := by
  unfold updateProfile
  split
  · exact .inl ⟨x.network, rfl⟩
  · rename_i p hread
    have hs := Profile.check_sharing_of_read hread
    split
    · exact .inl ⟨x.network, rfl⟩
    · rename_i hmasks
      have hm : p.sharing.masks = true ∨ x.directory.channels.any (·.remote.isMask) = false := by
        cases hp : p.sharing.masks with
        | true => exact .inl rfl
        | false => exact .inr (by simpa [hp] using hmasks)
      dsimp only
      split
      · rename_i hmove
        obtain ⟨e, network, h⟩ | ⟨ownEnd, network, y, h, hy⟩ := rebindListener_cases x p
        · rw [h]
          exact .inl ⟨network, rfl⟩
        · rw [h]
          exact .inr ⟨p, hs, hm, .inr ⟨hmove.1, ownEnd, network, hy.symm⟩⟩
      · -- An open exchange whose listener stays has the transport that it had.
        rename_i hstay
        refine .inr ⟨p, hs, hm, .inl ⟨fun ho => ?_, rfl⟩⟩
        by_contra hne
        exact hstay ⟨ho, .inl hne⟩

/-- So it changes nothing but the network, or is one step after the network has answered. -/
theorem updateProfile_cases (c : Configuration) (x : Exchange ν) :
    ∃ network, (x.updateProfile c).2 = { x with network } ∨
      SingleStep { x with network } (x.updateProfile c).2 := by
  obtain ⟨network, h⟩ | ⟨p, hs, hm, ⟨ht, h⟩ | ⟨ho, ownEnd, network, h⟩⟩ := updateProfile_eq c x
  · exact ⟨network, .inl h⟩
  · exact ⟨x.network, .inr (h ▸ .adopted x p hs hm ht)⟩
  · exact ⟨network, .inr (h ▸ .moved { x with network } p ownEnd hs hm ho)⟩

/-! ### Channels -/

theorem steady_bind (s : Subject) (r : Remote) (x : Exchange ν) : SteadySteps x (x.bind s r).2 := by
  unfold bind Directory.enrol
  cases hv : Directory.vet s r x.profile.sharing.masks with
  | error e => exact .refl
  | ok u =>
    cases hb : x.directory.bound? s r with
    | some c => exact .refl
    | none =>
      have henrol : SteadyStep x { x with directory := (x.directory.append s r).2 } :=
        ⟨.single (.enrolled x s r hv hb), rfl⟩
      dsimp only
      split
      · -- An inbound channel of an open exchange gets its socket at once.
        rename_i hnew
        have hmem : ({ channel := (x.directory.append s r).1 } : Entry) ∈
            (x.directory.append s r).2.entries := List.mem_append_right _ (List.mem_singleton_self _)
        have hattach := attached_attachInbound (x := { x with directory := (x.directory.append s r).2 })
          (c := (x.directory.append s r).1) hnew.2.2 (List.mem_map_of_mem hmem)
          ⟨_, hmem, rfl, rfl⟩ hnew.2.1
        split <;> rename_i heq <;> rw [heq] at hattach <;> exact .head henrol hattach.steady
      · exact .single henrol

theorem steady_bindAll (bindings : List (Subject × Remote)) (x : Exchange ν) :
    SteadySteps x (bindAll bindings x).2 := by
  induction bindings generalizing x with
  | nil => exact .refl
  | cons binding bindings ih =>
    obtain ⟨s, r⟩ := binding
    have hbind := steady_bind s r x
    unfold bindAll
    split <;> rename_i y heq <;> rw [heq] at hbind
    · exact hbind
    · have hrest := ih y
      split <;> rename_i hall <;> rw [hall] at hrest <;> exact hbind.trans hrest

theorem profile_retain (kept : List Channel) (x : Exchange ν) :
    (x.retain kept).profile = x.profile := by
  unfold retain closeOrphans
  dsimp only
  obtain ⟨_, _, _, _, h⟩ := discard_eq (x.sockets.idsWhere fun id s => s.role == .outbound &&
    !(x.directory.keepOnly fun c => kept.any (·.id == c.id)).2.linkedSockets.contains id)
    { x with directory := (x.directory.keepOnly fun c => kept.any (·.id == c.id)).2 }
  rw [h]

theorem steady_reconfigure (bindings : List (Subject × Remote)) (x : Exchange ν) :
    SteadySteps x (x.reconfigure bindings).2 := by
  unfold reconfigure
  split
  · exact .refl
  · have hbind := steady_bindAll bindings x
    split <;> rename_i y heq <;> rw [heq] at hbind
    · exact hbind
    · exact hbind.tail ⟨.single (.retained y _), profile_retain _ y⟩

/-! ### Writes and calls -/

theorem steady_armUnlessHeld (id : SocketId) (x : Exchange ν) :
    SteadySteps x (x.armUnlessHeld id) := by
  unfold armUnlessHeld
  split
  · exact .refl
  · exact .single ⟨.single (.armed x id), rfl⟩

theorem steady_enqueue (c : Channel) (data : Bytes) (call : Option Nat) (x : Exchange ν) :
    SteadySteps x (x.enqueue c data call).2 := by
  obtain ⟨hensure, hserved⟩ := attached_ensureSocket c x
  unfold enqueue
  split <;> rename_i y heq <;> rw [heq] at hensure hserved
  · exact hensure.steady
  · split
    · exact hensure.steady
    · rename_i id target ht
      obtain ⟨ho, hc⟩ := hserved _ rfl
      exact (hensure.steady.tail ⟨.single (.queued y data call (hensure.isOpen.trans ho)
        (hensure.channels ▸ hc) ht), rfl⟩).trans (steady_armUnlessHeld id _)

theorem steady_beginCall (c : Channel) (x : Exchange ν) : SteadySteps x (x.beginCall c).2 := by
  unfold beginCall
  split
  · exact .refl
  · rename_i g b hb
    exact .single ⟨.single (.began x c hb), rfl⟩

/-! ### Closing and retries -/

theorem profile_deactivate (x : Exchange ν) : x.deactivate.profile = x.profile := by
  unfold deactivate close
  split_ifs
  · rfl
  · obtain ⟨_, _, _, _, h⟩ := discard_eq (x.sockets.map (·.1)) x
    dsimp only
    rw [h]

theorem profile_substitute (old : SocketId) (fresh : Socket) (x : Exchange ν) :
    (x.substitute old fresh).profile = x.profile := by
  obtain ⟨_, _, _, _, _, _, h⟩ := substitute_eq old fresh x
  rw [h]

theorem profile_retry (r : Retry) (x : Exchange ν) : (retry r x).profile = x.profile := by
  unfold retry
  split_ifs
  · rfl
  · split
    · rfl
    · split
      · rfl
      · dsimp only
        split
        · obtain ⟨_, _, h⟩ := scheduleRetry_eq r.socket r.delay
            (({ x.modifySocket r.socket fun s => { s with phase := .retrying } with
              network := _ } : Exchange ν).modifySocket r.socket
                fun s => { s with phase := .retryScheduled })
          rw [h]
          rfl
        · rw [profile_substitute]
          rfl

theorem profile_retryDue (x : Exchange ν) : x.retryDue.profile = x.profile := by
  have hfold : ∀ (due : List Retry) (y : Exchange ν),
      (due.foldl (fun x r => retry r x) y).profile = y.profile := by
    intro due
    induction due with
    | nil => exact fun _ => rfl
    | cons r due ih => exact fun y => (ih (retry r y)).trans (profile_retry r y)
  exact hfold _ _

/-! ### Operations and runs -/

/-- **Every operation but reading other settings is a chain of steps that leave the settings
alone,** unless it takes the announcements. -/
theorem apply_cases (x : Exchange ν) (op : Operation ν) :
    (∃ c, op = .updateProfile c) ∨ op = .deactivate ∨ op = .takeAnnouncements ∨
      SteadySteps x (x.apply op) := by
  have harm : ∀ y : Exchange ν, SteadyStep y y.armPending := by
    intro y
    obtain ⟨_, _, heq⟩ := armPending_eq y
    exact ⟨.single (.rearmed y), by rw [heq]⟩
  by_cases htaking : (∃ c, op = .updateProfile c) ∨ op = .deactivate ∨ op = .takeAnnouncements
  · rcases htaking with hread | hdeactivate | htake
    · exact .inl hread
    · exact .inr (.inl hdeactivate)
    · exact .inr (.inr (.inl htake))
  refine .inr (.inr (.inr ?_))
  cases op with
  | openUp => exact steady_openUp x
  | deactivate => exact absurd (.inr (.inl rfl)) htaking
  | updateProfile c => exact absurd (.inl ⟨c, rfl⟩) htaking
  | bind s r => exact steady_bind s r x
  | reconfigure bindings => exact steady_reconfigure bindings x
  | ensureSocket c => exact (attached_ensureSocket c x).1.steady
  | enqueue c data call => exact steady_enqueue c data call x
  | beginCall c => exact steady_beginCall c x
  | collect c g => exact .single ⟨.single (.collected x c g), rfl⟩
  | finishCall c g => exact .single ⟨.single (.finished x c g), rfl⟩
  | armPending => exact .single (harm x)
  | takeAnnouncements => exact absurd (.inr (.inr rfl)) htaking
  | poll => exact steady_poll x
  | runDueRetries => exact .head ⟨.retried x, profile_retryDue x⟩ (.single (harm x.retryDue))
  | reportFault id =>
    have hprofile : (reportFault id x).2.profile = x.profile := by
      obtain ⟨_, _, _, _, _, _, heq⟩ := reportFault_eq id x
      rw [heq]
    exact .single ⟨.single (.faulted x id), hprofile⟩
  | elapse ms => exact .single ⟨.single (.elapsed x ms), rfl⟩
  | world network => exact .single ⟨.single (.answered x network), rfl⟩

/-- **An operation that takes no announcements is a chain of plain steps.** -/
theorem plainSteps_apply (x : Exchange ν) {op : Operation ν} (hd : op ≠ .deactivate)
    (ht : op ≠ .takeAnnouncements) : PlainSteps x (x.apply op) := by
  rcases apply_cases x op with ⟨c, rfl⟩ | hdeactivate | htake | hsteady
  · obtain ⟨network, heq | hstep⟩ := updateProfile_cases c x
    · change PlainSteps x (x.updateProfile c).2
      rw [heq]
      exact .single (.single (.answered x network))
    · exact .head (.single (.answered x network)) (.single (.single hstep))
  · exact absurd hdeactivate hd
  · exact absurd htake ht
  · exact hsteady.plain

/-- **Every operation is a chain of steps.** -/
theorem steps_apply (x : Exchange ν) (op : Operation ν) : Steps x (x.apply op) := by
  by_cases hd : op = .deactivate
  · subst hd
    exact .single (.deactivated x)
  by_cases ht : op = .takeAnnouncements
  · subst ht
    exact .single (.told x)
  · exact (plainSteps_apply x hd ht).steps

/-- **Every run is a chain of steps.** -/
theorem steps_run (x : Exchange ν) (ops : List (Operation ν)) : Steps x (x.run ops) := by
  induction ops generalizing x with
  | nil => exact .refl
  | cons op ops ih => exact (steps_apply x op).trans (ih _)

end Switchboard.Exchange
