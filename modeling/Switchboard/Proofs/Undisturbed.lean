import Switchboard.Proofs.Calls.Boxes
import Switchboard.Proofs.Outline.Operations

/-!
# What is left alone

Little of what an exchange does takes a socket away from a channel, drops a write, lets a channel go
or begins a call.  `Undisturbed` says of two states that nothing of the kind happened on the way
from the first to the second, except that a call may have come to its end.  Giving sockets to
channels, noting failures and replacing sockets leave an exchange undisturbed, and so does a step of
a pass that sends nothing (`undisturbed_passStep`).

What does more than that is easily named, so laws about links, about writes and about calls are
proved by going through the operations once (`Moorings`, `Losses`, `Calls/Books`).
-/

namespace Switchboard

open Net Settings Relation

/-- **No call of the box began or got farther:** it stands where it stood, or it is over. -/
structure CallBox.Rests (b b' : CallBox) : Prop where
  issued : b'.issued = b.issued
  pending : b'.pending = b.pending ∨ b'.pending = .idle

namespace CallBox

theorem Rests.refl (b : CallBox) : b.Rests b :=
  ⟨rfl, .inl rfl⟩

theorem Rests.trans {b b' b'' : CallBox} (h : b.Rests b') (h' : b'.Rests b'') : b.Rests b'' where
  issued := h'.issued.trans h.issued
  pending := by
    rcases h'.pending with heq | hidle
    · exact heq ▸ h.pending
    · exact .inr hidle

theorem rests_cancel (b : CallBox) : b.Rests b.cancel :=
  ⟨rfl, .inr rfl⟩

theorem rests_finish (g : Nat) (b : CallBox) : b.Rests (b.finish g) := by
  unfold finish
  split_ifs
  · exact b.rests_cancel
  · exact .refl b

theorem rests_collect (g : Nat) (b : CallBox) : b.Rests (b.collect g).2 := by
  unfold collect
  split <;> exact ⟨rfl, .inl rfl⟩

theorem rests_fulfil (data : Bytes) (b : CallBox) : b.Rests (b.fulfil data).2 := by
  unfold fulfil
  split
  · exact ⟨rfl, .inr rfl⟩
  · exact .refl b

end CallBox

namespace Directory

/-- **Who has no socket had none before.** -/
def Moored (d d' : Directory) : Prop :=
  ∀ e ∈ d'.entries, e.socket = none → e ∈ d.entries

/-- No call began or got farther. -/
def Rests (d d' : Directory) : Prop :=
  ∀ c, (d.call c).Rests (d'.call c)

theorem Moored.of_eq {d d' : Directory} (h : d'.entries = d.entries) : d.Moored d' :=
  fun _ he _ => h ▸ he

theorem Rests.of_eq {d d' : Directory} (h : ∀ c, d'.call c = d.call c) : d.Rests d' :=
  fun c => h c ▸ .refl _

theorem Rests.modifyCall {c : Channel} {f : CallBox → CallBox} {d : Directory}
    (hf : (d.call c).Rests (f (d.call c))) : d.Rests (d.modifyCall c f) := by
  intro c'
  rw [call_modifyCall]
  split_ifs with h
  · rw [d.call_congr h.2.1 h.2.2]
    exact hf
  · exact .refl _

theorem moored_link (id : ChannelId) (socket : SocketId) (sharing : Sharing)
    (listener : Option SocketId) (d : Directory) :
    d.Moored (d.link id socket sharing listener) := by
  intro e he hnone
  unfold link at he
  split at he
  · exact he
  · obtain ⟨e₀, he₀, rfl⟩ := List.mem_map.mp he
    split_ifs at hnone ⊢
    exact he₀

theorem moored_relink (old new : SocketId) (d : Directory) : d.Moored (d.relink old new) := by
  intro e he hnone
  obtain ⟨e₀, he₀, rfl⟩ := List.mem_map.mp he
  split_ifs at hnone ⊢
  exact he₀

/-- Whoever is linked has a socket. -/
theorem socket_link {d : Directory} {id : ChannelId} {socket : SocketId} {sharing : Sharing}
    {listener : Option SocketId} (hc : d.channel? id ≠ none) {e : Entry}
    (he : e ∈ (d.link id socket sharing listener).entries) (hid : e.channel.id = id) :
    e.socket = some socket := by
  unfold link at he
  split at he
  · rename_i hnone
    exact absurd hnone hc
  · obtain ⟨e₀, he₀, rfl⟩ := List.mem_map.mp he
    split_ifs at hid ⊢ with hlinked
    · rfl
    · rw [Bool.or_eq_true, decide_eq_true_eq] at hlinked
      exact absurd (.inl hid) hlinked

theorem channel?_ne_none {d : Directory} {e : Entry} (he : e ∈ d.entries) :
    d.channel? e.channel.id ≠ none := by
  intro hnone
  have hfind := List.find?_eq_none.mp (Option.map_eq_none_iff.mp hnone) e he
  simp at hfind

/-! ### New channels -/

/-- **One channel came,** new to the directory, last and without a socket. -/
structure Gains (d d' : Directory) (c : Channel) : Prop where
  entries : d'.entries = d.entries ++ [{ channel := c }]
  keeps : ∀ c', d.Keeps c' → d'.Keeps c'
  fresh : ¬ d.Keeps c
  call : ∀ c', d'.call c' = d.call c'

theorem gains_append (s : Subject) (r : Remote) (d : Directory) :
    d.Gains (d.append s r).2 (d.append s r).1 where
  entries := rfl
  keeps c' h := by
    have hlength : (d.append s r).2.statuses.length = d.statuses.length + 1 := by simp [append]
    exact ⟨h.1, hlength ▸ Nat.lt_succ_of_lt h.2⟩
  fresh h := Nat.lt_irrefl _ h.2
  call c' := call_append d s r c'

theorem Gains.mem {d d' : Directory} {c : Channel} (h : d.Gains d' c) {e : Entry}
    (he : e ∈ d'.entries) : e ∈ d.entries ∨ e.channel = c := by
  rw [h.entries, List.mem_append, List.mem_singleton] at he
  exact he.imp_right (congrArg Entry.channel)

theorem Gains.channels {d d' : Directory} {c : Channel} (h : d.Gains d' c) :
    d.channels ⊆ d'.channels := by
  rw [Directory.channels, Directory.channels, h.entries, List.map_append]
  exact List.subset_append_left _ _

theorem Gains.channel? {d d' : Directory} {c : Channel} (h : d.Gains d' c) :
    d'.channel? c.id ≠ none := by
  have hmem : ({ channel := c } : Entry) ∈ d'.entries := by rw [h.entries]; simp
  exact channel?_ne_none hmem

theorem channels_relink (old new : SocketId) (d : Directory) :
    (d.relink old new).channels = d.channels := by
  simp only [channels, relink, List.map_map]
  refine List.map_congr_left fun e _ => ?_
  simp only [Function.comp_apply]
  split_ifs <;> rfl

theorem rests_cancelCalls (cs : List Channel) (d : Directory) : d.Rests (d.cancelCalls cs) := by
  unfold cancelCalls
  induction cs generalizing d with
  | nil => exact .of_eq fun _ => rfl
  | cons c cs ih =>
    intro c'
    have hcancel : d.Rests (d.modifyCall c CallBox.cancel) := .modifyCall (d.call c).rests_cancel
    exact (hcancel c').trans (ih _ c')

theorem entries_setReconnecting (socket : SocketId) (value : Bool) (d : Directory) :
    (d.setReconnecting socket value).entries = d.entries :=
  congrArg Core.entries (core_setReconnecting socket value d)

theorem entries_cancelCalls (cs : List Channel) (d : Directory) :
    (d.cancelCalls cs).entries = d.entries :=
  congrArg Core.entries (core_cancelCalls cs d)

end Directory

namespace Exchange

open Directory Outline

variable {ν : Type} {x y z : Exchange ν}

/-- **No channel lost its socket or left, no write came or went, and no call got farther.** -/
structure Undisturbed (x y : Exchange ν) : Prop where
  isOpen : y.isOpen = x.isOpen
  outbox : y.outbox = x.outbox
  channels : y.directory.channels = x.directory.channels
  keeps : ∀ c, y.directory.Keeps c ↔ x.directory.Keeps c
  moored : x.directory.Moored y.directory
  rests : x.directory.Rests y.directory

namespace Undisturbed

/-- Where the directory is the same. -/
theorem of_same (ho : y.isOpen = x.isOpen) (hq : y.outbox = x.outbox)
    (hd : y.directory = x.directory) : Undisturbed x y where
  isOpen := ho
  outbox := hq
  channels := by rw [hd]
  keeps _ := by rw [hd]
  moored := .of_eq (by rw [hd])
  rests := .of_eq fun _ => by rw [hd]

theorem refl (x : Exchange ν) : Undisturbed x x :=
  of_same rfl rfl rfl

theorem trans (h : Undisturbed x y) (h' : Undisturbed y z) : Undisturbed x z where
  isOpen := h'.isOpen.trans h.isOpen
  outbox := h'.outbox.trans h.outbox
  channels := h'.channels.trans h.channels
  keeps c := (h'.keeps c).trans (h.keeps c)
  moored e he hnone := h.moored e (h'.moored e he hnone) hnone
  rests c := (h.rests c).trans (h'.rests c)

/-- Where flags, senders or calls change, and links do not. -/
theorem of_entries {d : Directory} (he : d.entries = x.directory.entries)
    (hk : ∀ c, d.Keeps c ↔ x.directory.Keeps c) (hr : x.directory.Rests d) :
    Undisturbed x { x with directory := d } where
  isOpen := rfl
  outbox := rfl
  channels := by rw [Directory.channels, he, ← Directory.channels]
  keeps := hk
  moored := .of_eq he
  rests := hr

/-- Where a call of a channel comes to its end, or its reply is collected. -/
theorem modifyCall {c : Channel} {f : CallBox → CallBox}
    (hf : (x.directory.call c).Rests (f (x.directory.call c))) :
    Undisturbed x (x.onDirectory (·.modifyCall c f)) :=
  of_entries (entries_modifyCall ..) (fun _ => keeps_modifyCall ..) (.modifyCall hf)

theorem announceAll (id : SocketId) (cs : List Channel) (x : Exchange ν) :
    Undisturbed x (x.announceAll id cs) := by
  rw [announceAll_eq]
  exact of_same rfl rfl rfl

theorem join (c : Channel) (id : SocketId) (x : Exchange ν) : Undisturbed x (x.join c id) := by
  obtain ⟨newcomers, h⟩ := join_eq c id x
  rw [h]
  have hlinked : Undisturbed x (x.onDirectory (·.link c.id id x.profile.sharing x.listener)) :=
    ⟨rfl, rfl, channels_link _ _ _ _ _, keeps_link _ _ _ _ _, moored_link _ _ _ _ _,
      .of_eq fun c' => call_link ..⟩
  exact hlinked.trans (announceAll id newcomers _)

theorem relink (old new : SocketId) (x : Exchange ν) :
    Undisturbed x (x.onDirectory (·.relink old new)) :=
  ⟨rfl, rfl, channels_relink _ _ _, fun _ => .rfl, moored_relink _ _ _, .of_eq fun _ => rfl⟩

theorem setReconnecting (socket : SocketId) (value : Bool) (x : Exchange ν) :
    Undisturbed x (x.onDirectory (·.setReconnecting socket value)) :=
  of_entries (entries_setReconnecting ..) (keeps_of_core (core_setReconnecting ..))
    (.of_eq fun c => call_setReconnecting socket value _ c)

theorem scheduleRetry (id : SocketId) (delay : Nat) (x : Exchange ν) :
    Undisturbed x (x.scheduleRetry id delay) := by
  obtain ⟨_, _, h⟩ := scheduleRetry_eq id delay x
  rw [h]
  exact of_same rfl rfl rfl

theorem armUnlessHeld (id : SocketId) (x : Exchange ν) : Undisturbed x (x.armUnlessHeld id) := by
  unfold Exchange.armUnlessHeld
  split_ifs
  · exact refl x
  · exact of_same rfl rfl rfl

theorem deliver (sender : Option Endpoint) (data : Bytes) (x : Exchange ν) (c : Channel) :
    Undisturbed x (deliver sender data x c) := by
  unfold Exchange.deliver
  dsimp only
  split
  · rename_i far
    split_ifs
    · have hheard := of_entries (x := x)
        (d := x.directory.modifyStatus c fun s => { s with lastSender := some far })
        (by unfold modifyStatus; split_ifs <;> rfl) (fun c' => keeps_modifyStatus ..)
        (.of_eq fun c' =>
          call_modifyStatus c c' (f := fun s => { s with lastSender := some far }) (fun _ => rfl) _)
      exact hheard.trans (of_same rfl rfl rfl)
    · exact of_same rfl rfl rfl
  · exact of_same rfl rfl rfl

theorem foldl_deliver (sender : Option Endpoint) (data : Bytes) (cs : List Channel)
    (x : Exchange ν) : Undisturbed x (cs.foldl (Exchange.deliver sender data) x) := by
  induction cs generalizing x with
  | nil => exact refl x
  | cons c cs ih => exact (deliver sender data x c).trans (ih _)

variable [Network ν]

theorem closeSocket (id : SocketId) (x : Exchange ν) : Undisturbed x (x.closeSocket id) := by
  obtain ⟨_, _, _, h⟩ := closeSocket_eq id x
  rw [h]
  exact of_same rfl rfl rfl

theorem discard (ids : List SocketId) (x : Exchange ν) : Undisturbed x (x.discard ids) := by
  obtain ⟨_, _, _, _, h⟩ := discard_eq ids x
  rw [h]
  exact of_same rfl rfl rfl

/-! ### Sockets for channels -/

omit [Network ν] in
theorem attachInbound (c : Channel) (x : Exchange ν) : Undisturbed x (x.attachInbound c).2 := by
  unfold Exchange.attachInbound
  split
  · exact refl x
  · exact join c _ x

theorem attachOutbound (c : Channel) (x : Exchange ν) : Undisturbed x (x.attachOutbound c).2 := by
  unfold Exchange.attachOutbound
  split
  · exact join c _ x
  · split
    · exact refl x
    · split
      · exact of_same rfl rfl rfl
      · rename_i remote _ _ ownEnd network _
        have hopened : Undisturbed x
            (track (Socket.outgoing x.profile.transport ownEnd remote) { x with network }) :=
          of_same rfl rfl rfl
        exact hopened.trans (join c _ _)

theorem ensureSocket (c : Channel) (x : Exchange ν) : Undisturbed x (x.ensureSocket c).2 := by
  unfold Exchange.ensureSocket
  split_ifs
  · exact refl x
  · exact refl x
  · split
    · exact refl x
    · split
      · exact attachInbound c x
      · exact attachOutbound c x

omit [Network ν] in
theorem attachWaiting (cs : List Channel) (x : Exchange ν) :
    Undisturbed x (attachWaiting cs x).2 := by
  induction cs generalizing x with
  | nil => exact refl x
  | cons c cs ih =>
    have hattach := attachInbound c x
    unfold Exchange.attachWaiting
    split_ifs
    · split <;> rename_i heq <;> rw [heq] at hattach
      · exact hattach
      · exact hattach.trans (ih _)
    · exact ih x

/-! ### Failures and their repair -/

theorem reportFault (id : SocketId) (x : Exchange ν) : Undisturbed x (reportFault id x).2 := by
  unfold Exchange.reportFault
  split
  · exact refl x
  · split
    · exact refl x
    · exact closeSocket id x
    · split_ifs
      · exact refl x
      · have hphase :
            Undisturbed x (x.modifySocket id fun s => { s with phase := .retryScheduled }) :=
          of_same rfl rfl rfl
        exact (hphase.trans (scheduleRetry id x.profile.retryInterval _)).trans
          (setReconnecting id true _)

theorem substitute (old : SocketId) (fresh : Socket) (x : Exchange ν) :
    Undisturbed x (x.substitute old fresh) := by
  have hmoved : ∀ y : Exchange ν, Undisturbed y (y.onDirectory fun d =>
      let d := (d.relink old x.nextSocket).setReconnecting x.nextSocket false
      d.cancelCalls (d.onSocket x.nextSocket)) := fun y =>
    ((relink old x.nextSocket y).trans (setReconnecting x.nextSocket false _)).trans
      (of_entries (entries_cancelCalls _ _) (keeps_of_core (core_cancelCalls _ _))
        (rests_cancelCalls _ _))
  have htracked : Undisturbed (x.closeSocket old) (track fresh (x.closeSocket old)) :=
    of_same rfl rfl rfl
  have htaken := ((closeSocket old x).trans htracked).trans (hmoved _)
  unfold Exchange.substitute
  dsimp only
  split_ifs
  · exact htaken.trans (announceAll _ _ _)
  · exact htaken

theorem retry (r : Retry) (x : Exchange ν) : Undisturbed x (retry r x) := by
  unfold Exchange.retry
  split_ifs
  · exact refl x
  · split
    · exact refl x
    · split
      · exact refl x
      · have hasked : ∀ phase network, Undisturbed x
            { x.modifySocket r.socket fun s => { s with phase } with network } :=
          fun _ _ => of_same rfl rfl rfl
        have hfailed : ∀ y : Exchange ν, Undisturbed y
            (y.modifySocket r.socket fun s => { s with phase := .retryScheduled }) :=
          fun _ => of_same rfl rfl rfl
        dsimp only
        split
        · rename_i network _
          exact ((hasked .retrying network).trans (hfailed _)).trans
            (scheduleRetry r.socket r.delay _)
        · rename_i network _
          exact (hasked .retrying network).trans (substitute r.socket _ _)

theorem retryDue (x : Exchange ν) : Undisturbed x x.retryDue := by
  have hfold : ∀ (due : List Retry) (y : Exchange ν),
      Undisturbed y (due.foldl (fun x r => Exchange.retry r x) y) := by
    intro due
    induction due with
    | nil => exact refl
    | cons r due ih => exact fun y => (retry r y).trans (ih (Exchange.retry r y))
  have htaken : Undisturbed x { x with schedule := (x.schedule.takeDue x.clock).2 } :=
    of_same rfl rfl rfl
  exact htaken.trans (hfold _ _)

end Undisturbed

/-! ### Channels that come -/

/-- **No channel lost its socket or left, no write came or went, and no call got farther.**  Of the
channels that came, the inbound ones have a socket if the exchange is open. -/
structure Enlarged (x y : Exchange ν) : Prop where
  isOpen : y.isOpen = x.isOpen
  outbox : y.outbox = x.outbox
  channels : x.directory.channels ⊆ y.directory.channels
  keeps : ∀ c, x.directory.Keeps c → y.directory.Keeps c
  moored : y.isOpen = true → ∀ e ∈ y.directory.entries, e.socket = none →
    e ∈ x.directory.entries ∨
      e.channel.direction = .outbound ∧ ¬ x.directory.Keeps e.channel
  rests : x.directory.Rests y.directory

theorem Undisturbed.enlarged (h : Undisturbed x y) : Enlarged x y where
  isOpen := h.isOpen
  outbox := h.outbox
  channels := h.channels ▸ List.Subset.refl _
  keeps c := (h.keeps c).mpr
  moored _ e he hnone := .inl (h.moored e he hnone)
  rests := h.rests

theorem Enlarged.trans (h : Enlarged x y) (h' : Enlarged y z) : Enlarged x z where
  isOpen := h'.isOpen.trans h.isOpen
  outbox := h'.outbox.trans h.outbox
  channels := List.Subset.trans h.channels h'.channels
  keeps c hc := h'.keeps c (h.keeps c hc)
  moored ho e he hnone := by
    rcases h'.moored ho e he hnone with he | ⟨hd, hnew⟩
    · exact h.moored (h'.isOpen ▸ ho) e he hnone
    · exact .inr ⟨hd, fun hk => hnew (h.keeps _ hk)⟩
  rests c := (h.rests c).trans (h'.rests c)

variable [Network ν]

omit [Network ν] in
/-- Where there is a listener, an inbound channel gets a socket. -/
theorem attachInbound_eq {c : Channel} (hl : x.listener ≠ none) :
    ∃ id, x.attachInbound c = (.ok id, x.join c id) := by
  unfold attachInbound
  split
  · rename_i hnone
    exact absurd (Option.or_eq_none_iff.mp (by simpa using hnone)).2 hl
  · exact ⟨_, rfl⟩

omit [Network ν] in
theorem socket_join {c : Channel} {id : SocketId} (hc : x.directory.channel? c.id ≠ none)
    {e : Entry} (he : e ∈ (x.join c id).directory.entries) (hid : e.channel.id = c.id) :
    e.socket ≠ none := by
  obtain ⟨newcomers, h⟩ := join_eq c id x
  rw [h, announceAll_eq] at he
  rw [socket_link hc he hid]
  exact Option.some_ne_none id

omit [Network ν] in
/-- Where an outbound channel is made, or any channel of a closed exchange. -/
theorem Enlarged.gains {d : Directory} {c : Channel} (h : x.directory.Gains d c)
    (hd : x.isOpen = true → c.direction = .outbound) : Enlarged x { x with directory := d } where
  isOpen := rfl
  outbox := rfl
  channels := h.channels
  keeps := h.keeps
  moored ho e he _ := (h.mem he).imp_right fun (hc : e.channel = c) => hc ▸ ⟨hd ho, h.fresh⟩
  rests := .of_eq h.call

omit [Network ν] in
/-- Where a channel is made and linked at once. -/
theorem Enlarged.gains_join {d : Directory} {c : Channel} (h : x.directory.Gains d c)
    (id : SocketId) : Enlarged x (({ x with directory := d } : Exchange ν).join c id) := by
  have hjoined := Undisturbed.join c id { x with directory := d }
  exact {
    isOpen := hjoined.isOpen
    outbox := hjoined.outbox
    channels := hjoined.channels ▸ h.channels
    keeps := fun c' hc' => (hjoined.keeps c').mpr (h.keeps c' hc')
    moored := by
      -- Who has no socket now had none before, so it is not the new channel, which has one.
      intro _ e he hnone
      rcases h.mem (hjoined.moored e he hnone) with hold | rfl
      · exact .inl hold
      · exact absurd hnone (socket_join h.channel? he rfl)
    rests := fun c' => h.call c' ▸ hjoined.rests c' }

omit [Network ν] in
theorem Enlarged.bind (hl : x.isOpen = true → x.listener ≠ none) (s : Subject) (r : Remote) :
    Enlarged x (x.bind s r).2 := by
  have hgains := gains_append s r x.directory
  unfold Exchange.bind enrol
  cases vet s r x.profile.sharing.masks with
  | error e => exact (Undisturbed.refl x).enlarged
  | ok u =>
    cases x.directory.bound? s r with
    | some c => exact (Undisturbed.refl x).enlarged
    | none =>
      dsimp only
      split
      · rename_i hnew
        obtain ⟨id, hattach⟩ := attachInbound_eq
          (x := { x with directory := (x.directory.append s r).2 })
          (c := (x.directory.append s r).1) (hl hnew.2.2)
        rw [hattach]
        exact .gains_join hgains id
      · rename_i hnew
        refine .gains hgains fun ho => ?_
        cases hd : s.direction with
        | outbound => exact hd
        | inbound => exact absurd ⟨rfl, hd, ho⟩ hnew

theorem Enlarged.bindAll (h : x.outline.Sound) (bindings : List (Subject × Remote)) :
    Enlarged x (bindAll bindings x).2 := by
  induction bindings generalizing x with
  | nil => exact (Undisturbed.refl x).enlarged
  | cons binding bindings ih =>
    obtain ⟨s, r⟩ := binding
    have hbind := Enlarged.bind h.opened s r
    have hsteps := SteadySteps.steps (steady_bind s r x)
    unfold Exchange.bindAll
    split <;> rename_i y heq <;> rw [heq] at hbind hsteps
    · exact hbind
    · have hrest := ih (h.moves (moves_steps h hsteps))
      split <;> rename_i hall <;> rw [hall] at hrest <;> exact hbind.trans hrest

/-! ### Writes -/

/-- **Queueing a buffer** leaves the exchange undisturbed, or adds a write of a channel that has a
target. -/
theorem enqueue_cases (c : Channel) (data : Bytes) (call : Option Nat) (x : Exchange ν) :
    ((x.enqueue c data call).1 ≠ .ok true ∧ Undisturbed x (x.enqueue c data call).2) ∨
      ∃ y, (x.enqueue c data call).1 = .ok true ∧ Undisturbed x y ∧ SteadySteps x y ∧
        y.target? c ≠ none ∧ c ∈ y.directory.channels ∧
          Undisturbed { y with outbox := y.outbox.push c data call } (x.enqueue c data call).2 := by
  have hensure := Undisturbed.ensureSocket c x
  obtain ⟨hattach, hknown⟩ := attached_ensureSocket c x
  unfold enqueue
  split <;> rename_i y heq <;> rw [heq] at hensure hattach hknown
  · exact .inl ⟨nofun, hensure⟩
  · split
    · exact .inl ⟨by simp, hensure⟩
    · rename_i id far hfar
      refine .inr ⟨y, rfl, hensure, hattach.steady, by rw [hfar]; exact Option.some_ne_none _, ?_,
        .armUnlessHeld id _⟩
      exact hattach.channels ▸ (hknown _ rfl).2

/-! ### Passes -/

/-- **A step of a pass leaves the exchange undisturbed,** unless it sends something. -/
theorem undisturbed_passStep (hstep : PassStep x y) :
    Undisturbed x y ∨
      ∃ id s i w target count, x.sockets.find? id = some s ∧ s.medium ≠ .acceptor ∧
        x.nextWrite? id = some (i, w, target) ∧ y = x.sendBytes id s i w target count := by
  cases hstep with
  | answered network => exact .inl (.of_same rfl rfl rfl)
  | exceeded l => exact .inl (.of_same rfl rfl rfl)
  | admitted ownEnd remote hs hm => exact .inl (.of_same rfl rfl rfl)
  | @established id s hs hm hp =>
    have hphase : Undisturbed x (x.modifySocket id fun s =>
        { s with phase := .active, interest := ⟨true, true⟩ }) := .of_same rfl rfl rfl
    exact .inl (hphase.trans (.announceAll id _ _))
  | faulted id => exact .inl (.reportFault id x)
  | @routed id s sender data hs hp hm hsender =>
    unfold route
    dsimp only
    split
    · rename_i c hfind
      have hanswered := Undisturbed.modifyCall (f := fun b => (b.fulfil data).2)
        ((x.directory.call c).rests_fulfil data)
      exact .inl (hanswered.trans (.of_same rfl rfl rfl))
    · exact .inl ((Undisturbed.foldl_deliver sender data _ x).trans (.of_same rfl rfl rfl))
  | @sent id s i w target count hs hp hm hheld hnext hcount =>
    exact .inr ⟨id, s, i, w, target, count, hs, hm, hnext, rfl⟩
  | disarmed id => exact .inl (.of_same rfl rfl rfl)

end Exchange

end Switchboard
