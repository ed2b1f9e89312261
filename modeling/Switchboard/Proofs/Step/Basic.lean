import Switchboard.Exchange.Operations
import Switchboard.Proofs.Directory
import Mathlib.Logic.Relation
import Mathlib.Tactic.SplitIfs

/-!
# The steps that operations are made of

What an operation does, taken apart.  `PassStep` lists what happens in a pass over the ready
sockets, and `SingleStep` what happens outside of one; a `PlainStep` is a single step, a whole pass, or
all the attempts that are due.  Besides, a `Step` may take the announcements.  A step says under which
condition it is made; what the network answers is left open, so a step stands for every outcome of a
call on a socket.

`Step/Pass` shows that a poll is made of these steps, and `Step/Operations` that every operation is,
so that a law of all runs is proved of one step at a time.
-/

namespace Switchboard.Exchange

open Net Settings Relation Directory

variable {ν : Type}

/-! ### What the small parts leave alone -/

theorem deliver_eq (sender : Option Endpoint) (data : Bytes) (x : Exchange ν) (c : Channel) :
    ∃ directory,
      deliver sender data x c = { x with directory, inbox := x.inbox ++ [⟨c, data⟩] } := by
  unfold deliver
  dsimp only
  split
  · split_ifs <;> exact ⟨_, rfl⟩
  · exact ⟨_, rfl⟩

/-- Handing a buffer to the protocol for some channels puts it into the inbox for each of them. -/
theorem foldl_deliver_eq (sender : Option Endpoint) (data : Bytes) (cs : List Channel)
    (x : Exchange ν) : ∃ directory, cs.foldl (deliver sender data) x =
      { x with directory, inbox := x.inbox ++ cs.map fun c => ⟨c, data⟩ } := by
  induction cs generalizing x with
  | nil => exact ⟨x.directory, by simp⟩
  | cons c cs ih =>
    obtain ⟨directory, hfirst⟩ := deliver_eq sender data x c
    obtain ⟨directory', hrest⟩ := ih (deliver sender data x c)
    refine ⟨directory', ?_⟩
    rw [List.foldl_cons, hrest, hfirst]
    simp

theorem route_eq (id : SocketId) (role : Role) (sender : Option Endpoint) (data : Bytes)
    (x : Exchange ν) : ∃ directory inbox journal,
      x.route id role sender data = { x with directory, inbox, journal } := by
  unfold route
  dsimp only
  split
  · exact ⟨_, _, _, rfl⟩
  · obtain ⟨directory, h⟩ := foldl_deliver_eq sender data (x.audience id role sender) x
    rw [h]
    exact ⟨directory, _, _, rfl⟩

/-- Settling a write leaves the core of the directory alone: it may mark a call as sent. -/
theorem settle_eq (s : Socket) (i : Nat) (w : Write) (count : Nat) (x : Exchange ν) :
    ∃ directory outbox, directory.core = x.directory.core ∧
      settle s i w count x = { x with directory, outbox } := by
  unfold settle
  dsimp only
  split_ifs
  · split
    · exact ⟨_, _, core_modifyCall .., rfl⟩
    · exact ⟨_, _, rfl, rfl⟩
  · exact ⟨_, _, rfl, rfl⟩

theorem foldl_onDirectory {α : Type} (f : α → Directory → Directory) (as : List α)
    (x : Exchange ν) : as.foldl (fun x a => x.onDirectory (f a)) x =
      x.onDirectory fun d => as.foldl (fun d a => f a d) d := by
  induction as generalizing x with
  | nil => rfl
  | cons a as ih => exact ih (x.onDirectory (f a))

theorem announceAll_eq (id : SocketId) (cs : List Channel) (x : Exchange ν) :
    x.announceAll id cs =
      { x with
        announcements := x.announcements ++ cs
        journal := (cs.map fun c => Traffic.announced c id).reverse ++ x.journal } := by
  unfold announceAll
  induction cs generalizing x with
  | nil => simp
  | cons c cs ih =>
    rw [List.foldl_cons, ih]
    simp [announce, record]

/-- Joining a socket is linking, and telling those who come new to an active one. -/
theorem join_eq (c : Channel) (id : SocketId) (x : Exchange ν) :
    ∃ newcomers, x.join c id =
      (x.onDirectory (·.link c.id id x.profile.sharing x.listener)).announceAll id newcomers := by
  unfold join
  dsimp only
  split_ifs
  · exact ⟨_, rfl⟩
  · exact ⟨[], rfl⟩

theorem channels_link (d : Directory) (id : ChannelId) (socket : SocketId) (sharing : Sharing)
    (listener : Option SocketId) : (d.link id socket sharing listener).channels = d.channels := by
  unfold Directory.link
  split
  · rfl
  · simp only [Directory.channels, List.map_map]
    refine List.map_congr_left fun e _ => ?_
    simp only [Function.comp_apply]
    split_ifs <;> rfl

theorem channels_join (c : Channel) (id : SocketId) (x : Exchange ν) :
    (x.join c id).directory.channels = x.directory.channels := by
  obtain ⟨newcomers, h⟩ := join_eq c id x
  rw [h, announceAll_eq]
  exact channels_link _ _ _ _ _

theorem isOpen_join (c : Channel) (id : SocketId) (x : Exchange ν) :
    (x.join c id).isOpen = x.isOpen := by
  obtain ⟨newcomers, h⟩ := join_eq c id x
  rw [h, announceAll_eq]
  rfl

/-- Where a bound may be noted, nothing else changes. -/
theorem exceed_if (p : Prop) [Decidable p] (l : Limit) (x : Exchange ν) :
    ∃ exceeded, (if p then x.exceed l else x) = { x with exceeded } := by
  split_ifs
  · exact ⟨_, rfl⟩
  · exact ⟨x.exceeded, rfl⟩

theorem exceed_unless (p : Prop) [Decidable p] (l : Limit) (x : Exchange ν) :
    ∃ exceeded, (if p then x else x.exceed l) = { x with exceeded } := by
  split_ifs
  · exact ⟨x.exceeded, rfl⟩
  · exact ⟨_, rfl⟩

theorem scheduleRetry_eq (id : SocketId) (delay : Nat) (x : Exchange ν) :
    ∃ schedule exceeded, x.scheduleRetry id delay = { x with schedule, exceeded } := by
  unfold scheduleRetry
  dsimp only
  split_ifs
  · exact ⟨_, _, rfl⟩
  · exact ⟨_, _, rfl⟩
  · exact ⟨_, _, rfl⟩

theorem directory_scheduleRetry (id : SocketId) (delay : Nat) (x : Exchange ν) :
    (x.scheduleRetry id delay).directory = x.directory := by
  obtain ⟨_, _, h⟩ := scheduleRetry_eq id delay x
  rw [h]

theorem armTargets_eq (ws : List Write) (x : Exchange ν) :
    ∃ sockets, x.armTargets ws = { x with sockets } := by
  unfold armTargets
  induction ws generalizing x with
  | nil => exact ⟨_, rfl⟩
  | cons w ws ih =>
    rw [List.foldl_cons]
    split
    · rename_i id target _
      have hfirst : ∃ sockets, x.armUnlessHeld id = { x with sockets } := by
        unfold armUnlessHeld
        split_ifs
        · exact ⟨_, rfl⟩
        · exact ⟨_, rfl⟩
      obtain ⟨sockets, hsockets⟩ := hfirst
      obtain ⟨sockets', hrest⟩ := ih { x with sockets }
      rw [hsockets, hrest]
      exact ⟨sockets', rfl⟩
    · exact ih x

theorem armPending_eq (x : Exchange ν) :
    ∃ sockets outbox, x.armPending = { x with sockets, outbox } := by
  unfold armPending
  obtain ⟨sockets, h⟩ := armTargets_eq (x.outbox.keep fun w => (x.target? w.channel).isSome).writes
    { x with outbox := x.outbox.keep fun w => (x.target? w.channel).isSome }
  exact ⟨sockets, _, h⟩

section

variable [Network ν]

theorem closeSocket_eq (id : SocketId) (x : Exchange ν) :
    ∃ sockets network journal, x.closeSocket id = { x with sockets, network, journal } := by
  unfold closeSocket
  split_ifs
  · exact ⟨_, _, _, rfl⟩
  · exact ⟨_, _, _, rfl⟩

theorem discard_eq (ids : List SocketId) (x : Exchange ν) : ∃ sockets schedule network journal,
    x.discard ids = { x with sockets, schedule, network, journal } := by
  unfold discard
  induction ids generalizing x with
  | nil => exact ⟨_, _, _, _, rfl⟩
  | cons id ids ih =>
    rw [List.foldl_cons]
    obtain ⟨sockets, network, journal, hclose⟩ :=
      closeSocket_eq id { x with schedule := x.schedule.cancel id }
    rw [hclose]
    obtain ⟨sockets', schedule, network', journal', hrest⟩ :=
      ih { x with sockets, schedule := x.schedule.cancel id, network, journal }
    exact ⟨sockets', schedule, network', journal', hrest⟩

theorem directory_discard (ids : List SocketId) (x : Exchange ν) :
    (x.discard ids).directory = x.directory := by
  obtain ⟨_, _, _, _, h⟩ := discard_eq ids x
  rw [h]

/-- Closing all but the listener takes the sockets out of the table and off the channels. -/
theorem closeOutbound_eq (x : Exchange ν) : ∃ sockets schedule directory network journal,
    x.closeOutbound = { x with sockets, schedule, directory, network, journal } := by
  unfold closeOutbound
  dsimp only
  rw [foldl_onDirectory]
  obtain ⟨sockets, schedule, network, journal, h⟩ := discard_eq
    (x.sockets.idsWhere fun _ s => s.role != .listener) (x.onDirectory fun d =>
      (x.sockets.idsWhere fun _ s => s.role != .listener).foldl (fun d id => d.unlink id) d)
  exact ⟨sockets, schedule, _, network, journal, h⟩

/-- A socket that takes the place of another one changes the table and the links. -/
theorem substitute_eq (old : SocketId) (fresh : Socket) (x : Exchange ν) :
    ∃ sockets directory nextSocket announcements network journal, x.substitute old fresh =
      { x with sockets, directory, nextSocket, announcements, network, journal } := by
  obtain ⟨sockets, network, journal, h⟩ := closeSocket_eq old x
  unfold substitute
  dsimp only
  rw [announceAll_eq, h]
  split_ifs
  · exact ⟨_, _, _, _, _, _, rfl⟩
  · exact ⟨_, _, _, _, _, _, rfl⟩

theorem reportFault_eq (id : SocketId) (x : Exchange ν) :
    ∃ sockets schedule exceeded directory network journal, (reportFault id x).2 =
      { x with sockets, schedule, exceeded, directory, network, journal } := by
  unfold reportFault
  split
  · exact ⟨_, _, _, _, _, _, rfl⟩
  · split
    · exact ⟨_, _, _, _, _, _, rfl⟩
    · obtain ⟨sockets, network, journal, h⟩ := closeSocket_eq id x
      dsimp only
      rw [h]
      exact ⟨_, _, _, _, _, _, rfl⟩
    · split_ifs
      · exact ⟨_, _, _, _, _, _, rfl⟩
      · obtain ⟨schedule, exceeded, h⟩ := scheduleRetry_eq id x.profile.retryInterval
          (x.modifySocket id fun s => { s with phase := .retryScheduled })
        dsimp only
        rw [h]
        exact ⟨_, _, _, _, _, _, rfl⟩

end

/-! ### Parts of operations -/

/-- A connection stands from now on, and its channels are to be told. -/
def establish (id : SocketId) (x : Exchange ν) : Exchange ν :=
  let y := x.modifySocket id fun s => { s with phase := .active, interest := ⟨true, true⟩ }
  y.announceAll id (y.directory.onSocket id)

/-- Some bytes of a write went out through a socket. -/
def sendBytes (id : SocketId) (s : Socket) (i : Nat) (w : Write) (target : Option Endpoint)
    (count : Nat) (x : Exchange ν) : Exchange ν :=
  (settle s i w count x).record
    (.sent id (target <|> s.farEnd) w (min count w.remaining.length))

/-- Of what went out, the outbox and the calls take note, and the journal keeps it. -/
theorem sendBytes_eq (id : SocketId) (s : Socket) (i : Nat) (w : Write) (target : Option Endpoint)
    (count : Nat) (x : Exchange ν) :
    ∃ directory outbox, directory.core = x.directory.core ∧
      x.sendBytes id s i w target count =
        { x with
          directory
          outbox
          journal := .sent id (target <|> s.farEnd) w (min count w.remaining.length) :: x.journal } := by
  obtain ⟨directory, outbox, hcore, h⟩ := settle_eq s i w count x
  exact ⟨directory, outbox, hcore, by rw [sendBytes, h]; rfl⟩

/-- A new listener by some settings, opened and made the listener. -/
def raiseListener (p : Profile) (ownEnd : Endpoint) (x : Exchange ν) : Exchange ν :=
  { track (Socket.listening p.transport ownEnd) { x with profile := p } with
    listener := some x.nextSocket }

variable [Network ν]

/-- The change to other settings with a new listener. -/
def moveListener (p : Profile) (ownEnd : Endpoint) (x : Exchange ν) : Exchange ν :=
  let y := match x.listener with
    | none => x.raiseListener p ownEnd
    | some old =>
      ((x.raiseListener p ownEnd).closeSocket old).onDirectory (·.relink old x.nextSocket)
  if x.profile.transport ≠ p.transport then y.closeOutbound else y

/-- Moving the listener changes the settings, the sockets and the links. -/
theorem moveListener_eq (p : Profile) (ownEnd : Endpoint) (x : Exchange ν) :
    ∃ sockets schedule directory listener nextSocket network journal, x.moveListener p ownEnd =
      { x with
        profile := p, sockets, schedule, directory, listener, nextSocket, network, journal } := by
  have hraised : ∃ sockets directory listener nextSocket network journal,
      (match x.listener with
        | none => x.raiseListener p ownEnd
        | some old =>
          ((x.raiseListener p ownEnd).closeSocket old).onDirectory (·.relink old x.nextSocket)) =
        { x with profile := p, sockets, directory, listener, nextSocket, network, journal } := by
    split
    · exact ⟨_, _, _, _, _, _, rfl⟩
    · rename_i old _
      obtain ⟨sockets, network, journal, h⟩ := closeSocket_eq old (x.raiseListener p ownEnd)
      rw [h]
      exact ⟨_, _, _, _, _, _, rfl⟩
  obtain ⟨sockets, directory, listener, nextSocket, network, journal, h⟩ := hraised
  unfold moveListener
  dsimp only
  rw [h]
  split_ifs
  · obtain ⟨_, _, _, _, _, hclosed⟩ := closeOutbound_eq { x with
      profile := p, sockets, directory, listener, nextSocket, network, journal }
    rw [hclosed]
    exact ⟨_, _, _, _, _, _, _, rfl⟩
  · exact ⟨_, _, _, _, _, _, _, rfl⟩

/-- Every attempt that is due, each once. -/
def retryDue (x : Exchange ν) : Exchange ν :=
  (x.schedule.takeDue x.clock).1.foldl (fun x r => retry r x)
    { x with schedule := (x.schedule.takeDue x.clock).2 }

/-! ### The steps -/

/-- **One thing that happens in a pass over the ready sockets.** -/
inductive PassStep : Exchange ν → Exchange ν → Prop
  /-- The network answered a call. -/
  | answered (x : Exchange ν) (network : ν) : PassStep x { x with network }
  | exceeded (x : Exchange ν) (l : Limit) : PassStep x (x.exceed l)
  /-- The listener took a connection in. -/
  | admitted (x : Exchange ν) {id : SocketId} {s : Socket} (ownEnd remote : Endpoint)
      (hs : x.sockets.find? id = some s) (hm : s.medium = .acceptor) :
      PassStep x (track (Socket.taken ownEnd remote) x)
  | established (x : Exchange ν) {id : SocketId} {s : Socket} (hs : x.sockets.find? id = some s)
      (hm : s.medium = .connection) (hp : s.phase = .connecting) : PassStep x (x.establish id)
  | faulted (x : Exchange ν) (id : SocketId) : PassStep x (reportFault id x).2
  /-- A buffer was read and handed on. -/
  | routed (x : Exchange ν) {id : SocketId} {s : Socket} (sender : Option Endpoint) (data : Bytes)
      (hs : x.sockets.find? id = some s) (hp : s.phase = .active) (hm : s.medium ≠ .acceptor)
      (hsender : if s.role = .listener then sender ≠ none else sender = s.farEnd) :
      PassStep x (x.route id s.role sender data)
  /-- Some bytes of the oldest write of a socket went out. -/
  | sent (x : Exchange ν) {id : SocketId} {s : Socket} {i : Nat} {w : Write}
      {target : Option Endpoint} (count : Nat) (hs : x.sockets.find? id = some s)
      (hp : s.phase = .active) (hm : s.medium ≠ .acceptor) (hheld : x.isHeld id = false)
      (hnext : x.nextWrite? id = some (i, w, target)) (hcount : count = 0 → w.remaining = []) :
      PassStep x (x.sendBytes id s i w target count)
  | disarmed (x : Exchange ν) (id : SocketId) : PassStep x (x.disarm id)

/-- Some steps of a pass, one after the other. -/
abbrev PassSteps : Exchange ν → Exchange ν → Prop :=
  ReflTransGen PassStep

/-- **One thing that happens to an exchange,** outside of a pass. -/
inductive SingleStep : Exchange ν → Exchange ν → Prop
  /-- The network answered a call, or changed by itself. -/
  | answered (x : Exchange ν) (network : ν) : SingleStep x { x with network }
  | elapsed (x : Exchange ν) (ms : Nat) : SingleStep x { x with clock := x.clock + ms }
  | opened (x : Exchange ν) (ownEnd : Endpoint) (ho : x.isOpen = false) :
      SingleStep x (raiseListener x.profile ownEnd { x with isOpen := true })
  /-- Other settings took effect, and the listener stayed. -/
  | adopted (x : Exchange ν) (p : Profile) (hs : p.sharing.check = .ok ())
      (hm : p.sharing.masks = true ∨ x.directory.channels.any (·.remote.isMask) = false)
      (ht : x.isOpen = true → x.profile.transport = p.transport) : SingleStep x { x with profile := p }
  /-- Other settings took effect, and the listener moved. -/
  | moved (x : Exchange ν) (p : Profile) (ownEnd : Endpoint) (hs : p.sharing.check = .ok ())
      (hm : p.sharing.masks = true ∨ x.directory.channels.any (·.remote.isMask) = false)
      (ho : x.isOpen = true) : SingleStep x (x.moveListener p ownEnd)
  | enrolled (x : Exchange ν) (s : Subject) (r : Remote)
      (hv : Directory.vet s r x.profile.sharing.masks = .ok ())
      (hb : x.directory.bound? s r = none) :
      SingleStep x { x with directory := (x.directory.append s r).2 }
  /-- A channel without a socket joined one that there was. -/
  | joined (x : Exchange ν) {c : Channel} {id : SocketId} (ho : x.isOpen = true)
      (hc : c ∈ x.directory.channels) (hu : x.directory.Waits c.id)
      (hid : x.directory.sharedSocket? c x.profile.sharing x.listener = some id ∨
        c.direction = .inbound ∧ x.listener = some id) : SingleStep x (x.join c id)
  /-- A channel without a socket got a new one to its remote end. -/
  | connected (x : Exchange ν) {c : Channel} {remote : Endpoint} (ownEnd : Endpoint)
      (ho : x.isOpen = true) (hc : c ∈ x.directory.channels)
      (hu : x.directory.Waits c.id) (hd : c.direction = .outbound)
      (hr : c.remote.endpoint? = some remote)
      (hn : x.directory.sharedSocket? c x.profile.sharing x.listener = none) :
      SingleStep x ((track (Socket.outgoing x.profile.transport ownEnd remote) x).join c x.nextSocket)
  | retained (x : Exchange ν) (kept : List Channel) : SingleStep x (x.retain kept)
  | queued (x : Exchange ν) {c : Channel} {id : SocketId} {target : Option Endpoint} (data : Bytes)
      (call : Option Nat) (ho : x.isOpen = true) (hc : c ∈ x.directory.channels)
      (ht : x.target? c = some (id, target)) :
      SingleStep x { x with outbox := x.outbox.push c data call }
  | armed (x : Exchange ν) (id : SocketId) : SingleStep x (x.arm id)
  | rearmed (x : Exchange ν) : SingleStep x x.armPending
  | began (x : Exchange ν) (c : Channel) {g : Nat} {b : CallBox}
      (hb : (x.directory.status c).call.start? = some (g, b)) :
      SingleStep x (x.onDirectory (·.modifyCall c fun _ => b))
  | collected (x : Exchange ν) (c : Channel) (g : Nat) : SingleStep x (x.collect c g).2
  | finished (x : Exchange ν) (c : Channel) (g : Nat) : SingleStep x (x.finishCall c g)
  | faulted (x : Exchange ν) (id : SocketId) : SingleStep x (reportFault id x).2

/-- **What happens to an exchange in service.**  The attempts that are due are one step, and so is a
whole pass with what follows it. -/
inductive PlainStep : Exchange ν → Exchange ν → Prop
  | single {x y : Exchange ν} (h : SingleStep x y) : PlainStep x y
  | retried (x : Exchange ν) : PlainStep x x.retryDue
  | passed (x : Exchange ν) {y : Exchange ν} (ho : x.isOpen = true) (hp : PassSteps x y) :
      PlainStep x { y.armPending with inbox := [] }

/-- **What happens to an exchange.**  Its announcements are taken where the protocol is told of them,
and when the exchange is taken out of service. -/
inductive Step : Exchange ν → Exchange ν → Prop
  | plain {x y : Exchange ν} (h : PlainStep x y) : Step x y
  | deactivated (x : Exchange ν) : Step x x.deactivate
  | told (x : Exchange ν) : Step x x.takeAnnouncements.2

/-- Some steps that take no announcements, one after the other. -/
abbrev PlainSteps : Exchange ν → Exchange ν → Prop :=
  ReflTransGen PlainStep

/-- Some steps, one after the other. -/
abbrev Steps : Exchange ν → Exchange ν → Prop :=
  ReflTransGen Step

theorem PlainSteps.steps {x y : Exchange ν} (h : PlainSteps x y) : Steps x y :=
  ReflTransGen.mono (fun _ _ => Step.plain) _ _ h

/-- A step that takes no announcements and leaves the settings alone. -/
def SteadyStep (x y : Exchange ν) : Prop :=
  PlainStep x y ∧ y.profile = x.profile

/-- Some steps, one after the other, that take no announcements and leave the settings alone. -/
abbrev SteadySteps : Exchange ν → Exchange ν → Prop :=
  ReflTransGen SteadyStep

theorem SteadySteps.plain {x y : Exchange ν} (h : SteadySteps x y) : PlainSteps x y :=
  ReflTransGen.mono (fun _ _ => And.left) _ _ h

theorem SteadySteps.steps {x y : Exchange ν} (h : SteadySteps x y) : Steps x y :=
  h.plain.steps

theorem SteadySteps.profile {x y : Exchange ν} (h : SteadySteps x y) : y.profile = x.profile := by
  induction h with
  | refl => rfl
  | tail _ hstep ih => exact hstep.2.trans ih

end Switchboard.Exchange
