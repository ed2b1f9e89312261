import Switchboard.Proofs.Receiving.Handing
import Switchboard.Proofs.Calls.Onward

/-!
# What a pass reads

A pass reads some sockets, one after the other, and does other things before, between and after that.
An `Intake` is what it reads of one socket: everything that the network has there, in buffers, whether
or not the connection ends or fails with it.  `Exchange.Reads` says of two states that a pass leads from
the one to the other and has made some intakes on the way.  All else that it does is `Exchange.Unread`:
nothing comes into the inbox, no caller gets anything, and no channel hears anybody.

That no intake is left out is seen by whoever keeps the books on a network (`Net.Ledger`): what the
network was asked to read, and what it answered, are the intakes and nothing else.
-/

namespace Switchboard

open Net Settings Directory

/-- **The books on a network:** what it has answered so far to those who read, the earliest first.
Only reading adds to them. -/
structure Net.Ledger (ν : Type) [Network ν] where
  reads : ν → List (SocketId × Inflow)
  receive : ∀ id n,
    reads (Network.receive id n).2 = reads n ++ [(id, (Network.receive id n).1)]
  poll : ∀ watched capacity n, reads (Network.poll watched capacity n).2 = reads n
  accept : ∀ id n, reads (Network.accept id n).2 = reads n
  adopt : ∀ mark id n, reads (Network.adopt mark id n).2 = reads n
  failure : ∀ id n, reads (Network.failure? id n).2 = reads n
  send : ∀ id target data n, reads (Network.send id target data n).2 = reads n
  close : ∀ id n, reads (Network.close id n) = reads n

/-! ### A network with books -/

/-- **A network and what it has answered so far** to those who read. -/
structure Net.Logged (ν : Type) where
  inner : ν
  log : List (SocketId × Inflow) := []

namespace Net.Logged

variable {ν : Type}

/-- Passes an answer on, with the log as it was. -/
def pass {α : Type} (n : Logged ν) (answer : α × ν) : α × Logged ν :=
  (answer.1, { n with inner := answer.2 })

/-- It answers as the network does. -/
instance [Network ν] : Network (Logged ν) where
  listen t id e n := n.pass (Network.listen t id e n.inner)
  connect t id e n := n.pass (Network.connect t id e n.inner)
  poll watched capacity n := n.pass (Network.poll watched capacity n.inner)
  accept id n := n.pass (Network.accept id n.inner)
  adopt mark id n := n.pass (Network.adopt mark id n.inner)
  failure? id n := n.pass (Network.failure? id n.inner)
  receive id n :=
    let (inflow, inner) := Network.receive id n.inner
    (inflow, ⟨inner, n.log ++ [(id, inflow)]⟩)
  send id target data n := n.pass (Network.send id target data n.inner)
  close id n := { n with inner := Network.close id n.inner }

/-- **Any network can be given books.** -/
def ledger (ν : Type) [Network ν] : Ledger (Logged ν) where
  reads := log
  receive _ _ := rfl
  poll _ _ _ := rfl
  accept _ _ := rfl
  adopt _ _ _ := rfl
  failure _ _ := rfl
  send _ _ _ _ := rfl
  close _ _ := rfl

end Net.Logged

namespace Exchange

variable {ν : Type} [Network ν] {x y z : Exchange ν}

/-- **Nothing was read:** nothing came into the inbox, no caller got anything, nobody was heard, and no
channel came to another socket. -/
structure Unread (x y : Exchange ν) : Prop where
  inbox : y.inbox = x.inbox
  core : y.directory.core = x.directory.core
  replies : ∀ c, (y.directory.call c).replies = (x.directory.call c).replies
  listener : y.listener = x.listener
  profile : y.profile = x.profile
  ledger : ∀ l : Ledger ν, l.reads y.network = l.reads x.network

namespace Unread

theorem refl (x : Exchange ν) : Unread x x :=
  ⟨rfl, rfl, fun _ => rfl, rfl, rfl, fun _ => rfl⟩

theorem trans (h : Unread x y) (h' : Unread y z) : Unread x z where
  inbox := h'.inbox.trans h.inbox
  core := h'.core.trans h.core
  replies c := (h'.replies c).trans (h.replies c)
  listener := h'.listener.trans h.listener
  profile := h'.profile.trans h.profile
  ledger l := (h'.ledger l).trans (h.ledger l)

theorem network {m : ν} (h : ∀ l : Ledger ν, l.reads m = l.reads x.network) :
    Unread x { x with network := m } :=
  ⟨rfl, rfl, fun _ => rfl, rfl, rfl, h⟩

theorem exceeded (exceeded : Option Limit) (x : Exchange ν) : Unread x { x with exceeded } :=
  ⟨rfl, rfl, fun _ => rfl, rfl, rfl, fun _ => rfl⟩

theorem modifySocket (id : SocketId) (f : Socket → Socket) (x : Exchange ν) :
    Unread x (x.modifySocket id f) :=
  ⟨rfl, rfl, fun _ => rfl, rfl, rfl, fun _ => rfl⟩

theorem track (s : Socket) (x : Exchange ν) : Unread x (track s x) :=
  ⟨rfl, rfl, fun _ => rfl, rfl, rfl, fun _ => rfl⟩

theorem announceAll (id : SocketId) (cs : List Channel) (x : Exchange ν) :
    Unread x (x.announceAll id cs) := by
  rw [announceAll_eq]
  exact ⟨rfl, rfl, fun _ => rfl, rfl, rfl, fun _ => rfl⟩

theorem setReconnecting (id : SocketId) (value : Bool) (x : Exchange ν) :
    Unread x (x.onDirectory (·.setReconnecting id value)) :=
  ⟨rfl, core_setReconnecting .., fun c => congrArg CallBox.replies (call_setReconnecting id value _ c),
    rfl, rfl, fun _ => rfl⟩

theorem scheduleRetry (id : SocketId) (delay : Nat) (x : Exchange ν) :
    Unread x (x.scheduleRetry id delay) := by
  obtain ⟨_, _, h⟩ := scheduleRetry_eq id delay x
  rw [h]
  exact ⟨rfl, rfl, fun _ => rfl, rfl, rfl, fun _ => rfl⟩

theorem armPending (x : Exchange ν) : Unread x x.armPending := by
  obtain ⟨_, _, h⟩ := armPending_eq x
  rw [h]
  exact ⟨rfl, rfl, fun _ => rfl, rfl, rfl, fun _ => rfl⟩

theorem closeSocket (id : SocketId) (x : Exchange ν) : Unread x (x.closeSocket id) := by
  unfold Exchange.closeSocket
  split_ifs
  · exact ⟨rfl, rfl, fun _ => rfl, rfl, rfl, fun l => l.close id x.network⟩
  · exact refl x

theorem reportFault (id : SocketId) (x : Exchange ν) : Unread x (reportFault id x).2 := by
  unfold Exchange.reportFault
  split
  · exact refl x
  · split
    · exact refl x
    · exact closeSocket id x
    · split_ifs
      · exact refl x
      · exact ((modifySocket id _ x).trans (scheduleRetry id _ _)).trans (setReconnecting id true _)

/-- Sending may let a caller await a reply, but brings none. -/
theorem sendBytes (id : SocketId) (s : Socket) (i : Nat) (w : Write) (target : Option Endpoint)
    (count : Nat) (x : Exchange ν) : Unread x (x.sendBytes id s i w target count) := by
  have hreplies : ∀ c, ((x.sendBytes id s i w target count).directory.call c).replies =
      (x.directory.call c).replies := by
    intro c
    obtain ⟨-, hsame⟩ | ⟨-, hmarked⟩ := sendBytes_cases id s i w target count x
    · rw [hsame]
    · rw [hmarked]
      cases w.call with
      | none => rfl
      | some g =>
        rw [Option.elim_some, call_modifyCall]
        split_ifs
        · exact CallBox.replies_markSent g _
        · rfl
  obtain ⟨directory, outbox, hcore, heq⟩ := sendBytes_eq id s i w target count x
  rw [heq] at hreplies ⊢
  exact ⟨rfl, hcore, hreplies, rfl, rfl, fun _ => rfl⟩

/-! ### What a pass does beside reading -/

theorem acceptConnections (id : SocketId) (x : Exchange ν) : Unread x (x.acceptConnections id) := by
  have hanswer : Unread x { x with network := (Network.accept id x.network).2 } :=
    network fun l => l.accept id x.network
  unfold Exchange.acceptConnections
  generalize Network.accept id x.network = answer at hanswer
  obtain ⟨waiting, m⟩ := answer
  refine hanswer.trans ?_
  change Unread _ (waiting.foldl takeIn { x with network := m })
  clear hanswer
  generalize ({ x with network := m } : Exchange ν) = y
  induction waiting generalizing y with
  | nil => exact refl y
  | cons connection waiting ih =>
    have hfirst : Unread y (takeIn y connection) := by
      have hadopted : Unread y
          { y with network := (Network.adopt connection.1 y.nextSocket y.network).2 } :=
        network fun l => l.adopt connection.1 y.nextSocket y.network
      unfold takeIn
      generalize Network.adopt connection.1 y.nextSocket y.network = answer at hadopted
      obtain ⟨adopted, m⟩ := answer
      cases adopted with
      | error e => exact hadopted
      | ok ownEnd => exact hadopted.trans (track _ _)
    exact hfirst.trans (ih _)

theorem finishConnect (id : SocketId) (x : Exchange ν) : Unread x (x.finishConnect id).2 := by
  have hanswer : Unread x { x with network := (Network.failure? id x.network).2 } :=
    network fun l => l.failure id x.network
  unfold Exchange.finishConnect
  split
  · generalize Network.failure? id x.network = answer at hanswer
    obtain ⟨failure, m⟩ := answer
    cases failure with
    | none => exact (hanswer.trans (modifySocket id _ _)).trans (announceAll id _ _)
    | some cause => exact hanswer.trans (reportFault id _)
  · exact refl x

theorem attempt (id : SocketId) (x : Exchange ν) :
    match x.attempt id with
    | .again y | .rest y | .stop y => Unread x y := by
  unfold Exchange.attempt
  split_ifs
  · exact refl x
  · rcases x.nextWrite? id with _ | ⟨i, w, target⟩
    · exact refl x
    rcases x.sockets.find? id with _ | s
    · exact refl x
    dsimp only
    by_cases hm : s.medium = .acceptor
    · rw [if_pos hm]
      exact refl x
    rw [if_neg hm]
    have hanswer : Unread x { x with network :=
        (Network.send id (if s.medium = .datagram then target else none) w.remaining x.network).2 } :=
      network fun l => l.send ..
    generalize Network.send id _ w.remaining x.network = answer at hanswer
    obtain ⟨taken, m⟩ := answer
    cases taken with
    | wouldBlock => exact hanswer
    | failed cause => exact hanswer.trans (reportFault id _)
    | took count =>
      dsimp only
      split_ifs
      · exact hanswer
      · exact hanswer.trans (sendBytes id s i w target count _)

theorem sendAll (id : SocketId) (fuel : Nat) (x : Exchange ν) : Unread x (sendAll id fuel x) := by
  induction fuel generalizing x with
  | zero => exact refl x
  | succ fuel ih =>
    have hattempt := attempt id x
    unfold Exchange.sendAll
    split <;> rename_i y heq <;> rw [heq] at hattempt
    · exact hattempt.trans (ih y)
    · exact hattempt.trans (modifySocket id _ y)
    · exact hattempt

end Unread

/-! ### Intakes -/

/-- **What a pass reads of one socket.** -/
structure Intake (ν : Type) where
  id : SocketId
  /-- The socket, as the exchange knew it. -/
  socket : Socket
  /-- The exchange when the network is asked. -/
  before : Exchange ν

namespace Intake

/-- What the network had there. -/
def answer (i : Intake ν) : Inflow :=
  (Network.receive i.id i.before.network).1

/-- The exchange when the network has answered. -/
def start (i : Intake ν) : Exchange ν :=
  { i.before with network := (Network.receive i.id i.before.network).2 }

/-- **The buffers that were read,** in this order, each with its sender. -/
def buffers (i : Intake ν) : List (Option Endpoint × Bytes) :=
  let size := i.before.profile.bufferSize
  (readable i.socket.medium size i.answer).arrivals.flatMap fun a =>
    (Exchange.buffers i.socket.medium size a.data).map fun data =>
      (if i.socket.role = .listener then some a.sender else i.socket.farEnd, data)

/-- The exchange after some of them. -/
def after (i : Intake ν) (buffers : List (Option Endpoint × Bytes)) : Exchange ν :=
  buffers.foldl (fun x b => x.route i.id i.socket.role b.1 b.2) i.start

/-- The exchange after all of them. -/
def finish (i : Intake ν) : Exchange ν :=
  i.after i.buffers

/-- The channels that a buffer is for that comes after some others. -/
def matching (i : Intake ν) (earlier : List (Option Endpoint × Bytes))
    (b : Option Endpoint × Bytes) : List Channel :=
  (i.after earlier).matching i.id i.socket.role b.1

/-- What the protocol is handed of some buffers that come after others. -/
def handed (i : Intake ν) (earlier : List (Option Endpoint × Bytes)) :
    List (Option Endpoint × Bytes) → List Delivery
  | [] => []
  | b :: later =>
    (i.after earlier).deliveries (i.matching earlier b) b.2 ++ i.handed (earlier ++ [b]) later

/-- What the protocol is handed of all of them. -/
def deliveries (i : Intake ν) : List Delivery :=
  i.handed [] i.buffers

/-- The socket was there, active and none that takes connections in, and the exchange was sound. -/
structure Sound (i : Intake ν) : Prop where
  outline : i.before.outline.Sound
  found : i.before.sockets.find? i.id = some i.socket
  active : i.socket.phase = .active
  medium : i.socket.medium ≠ .acceptor

end Intake

/-- **A pass leads from one state to another** and has made these intakes on the way. -/
def Reads : Exchange ν → List (Intake ν) → Exchange ν → Prop
  | x, [], y => Unread x y
  | x, i :: is, y => Unread x i.before ∧ i.Sound ∧ Reads i.finish is y

theorem Unread.trans_reads (h : Unread x y) {is : List (Intake ν)} (h' : Reads y is z) :
    Reads x is z := by
  cases is with
  | nil => exact h.trans h'
  | cons i is => exact ⟨h.trans h'.1, h'.2⟩

theorem Reads.append {is is' : List (Intake ν)} (h : Reads x is y) (h' : Reads y is' z) :
    Reads x (is ++ is') z := by
  induction is generalizing x with
  | nil => exact Unread.trans_reads h h'
  | cons i is ih => exact ⟨h.1, h.2.1, ih h.2.2⟩

theorem Reads.trans_unread {is : List (Intake ν)} (h : Reads x is y) (h' : Unread y z) :
    Reads x is z := by
  have hnone : Reads y [] z := h'
  have hboth := h.append hnone
  rwa [List.append_nil] at hboth

/-! ### What the parts of a pass read -/

omit [Network ν] in
theorem profile_foldl_route (id : SocketId) (role : Role)
    (buffers : List (Option Endpoint × Bytes)) (x : Exchange ν) :
    (buffers.foldl (fun x b => x.route id role b.1 b.2) x).profile = x.profile := by
  induction buffers generalizing x with
  | nil => rfl
  | cons b buffers ih =>
    obtain ⟨_, _, _, heq⟩ := route_eq id role b.1 b.2 x
    rw [List.foldl_cons, ih, heq]

omit [Network ν] in
/-- Taking arrivals one after the other is handing on their buffers. -/
theorem foldl_take_eq (id : SocketId) (s : Socket) (arrivals : List Arrival) (x : Exchange ν) :
    arrivals.foldl (take id s) x =
      (arrivals.flatMap fun a => (buffers s.medium x.profile.bufferSize a.data).map fun data =>
        (if s.role = .listener then some a.sender else s.farEnd, data)).foldl
          (fun x b => x.route id s.role b.1 b.2) x := by
  induction arrivals generalizing x with
  | nil => rfl
  | cons a arrivals ih =>
    have hfirst : take id s x a = ((buffers s.medium x.profile.bufferSize a.data).map fun data =>
        (if s.role = .listener then some a.sender else s.farEnd, data)).foldl
          (fun x b => x.route id s.role b.1 b.2) x := by
      rw [List.foldl_map]
      rfl
    rw [List.foldl_cons, List.flatMap_cons, List.foldl_append, ← hfirst, ih]
    have hprofile : (take id s x a).profile = x.profile := by
      rw [hfirst, profile_foldl_route]
    rw [hprofile]

/-- Reading a socket is one intake, or none if there is nothing to be read. -/
theorem reads_readSocket (h : x.outline.Sound) {id : SocketId}
    (hactive : ∀ s, x.sockets.find? id = some s → s.phase = .active) :
    ∃ is, Reads x is (x.readSocket id).2 := by
  unfold readSocket
  split
  · exact ⟨[], Unread.refl x⟩
  · rename_i s hs
    split
    · exact ⟨[], Unread.refl x⟩
    · rename_i hm
      obtain ⟨exceeded, hstart⟩ := exceed_if (largestBuffer < x.profile.bufferSize) .buffer x
      let i : Intake ν := ⟨id, s, { x with exceeded }⟩
      have hsound : i.Sound := ⟨h, hs, hactive s hs, hm⟩
      have hfinish : (readable s.medium x.profile.bufferSize
          (Network.receive id x.network).1).arrivals.foldl (take id s)
            { x with exceeded, network := (Network.receive id x.network).2 } = i.finish :=
        foldl_take_eq id s _ _
      have hread : ∀ {y : Exchange ν}, Unread i.finish y → Reads x [i] y :=
        fun hy => ⟨.exceeded exceeded x, hsound, hy⟩
      dsimp only
      -- However the inflow ends, its buffers have been handed on before that.
      rw [hstart, hfinish]
      split
      · exact ⟨[i], hread (.refl _)⟩
      · exact ⟨[i], hread (.reportFault id _)⟩
      · split
        · exact ⟨[i], hread (.refl _)⟩
        · exact ⟨[i], hread (.reportFault id _)⟩

theorem reads_exchangeData (h : x.outline.Sound) {id : SocketId}
    (hactive : ∀ s, x.sockets.find? id = some s → s.phase = .active) (readable writable : Bool) :
    ∃ is, Reads x is (x.exchangeData id readable writable) := by
  cases readable with
  | false =>
    cases writable with
    | false => exact ⟨[], Unread.refl x⟩
    | true => exact ⟨[], Unread.sendAll id _ x⟩
  | true =>
    obtain ⟨is, hread⟩ := reads_readSocket h hactive
    rw [exchangeData, if_pos rfl]
    split <;> rename_i y heq <;> rw [heq] at hread
    · -- What is sent afterwards may let a caller await a reply, but reads nothing.
      cases writable with
      | false => exact ⟨is, hread⟩
      | true => exact ⟨is, hread.trans_unread (.sendAll id _ y)⟩
    · exact ⟨is, hread⟩

theorem reads_serve (h : x.outline.Sound) (r : Readiness) : ∃ is, Reads x is (x.serve r) := by
  unfold serve
  split
  · exact ⟨[], Unread.refl x⟩
  · rename_i s hs
    split_ifs with hlive hm hp hw
    · exact ⟨[], Unread.refl x⟩
    · exact ⟨[], Unread.acceptConnections r.socket x⟩
    · exact ⟨[], Unread.refl x⟩
    · obtain ⟨hsteps, hactive⟩ := passSteps_finishConnect hs hp
      have hsound := h.passMoves (passMoves_passSteps h hsteps)
      have hconnect := Unread.finishConnect r.socket x
      split <;> rename_i y heq <;> rw [heq] at hsound hactive hconnect
      · obtain ⟨is, hread⟩ := reads_exchangeData hsound (hactive rfl) r.readable true
        exact ⟨is, hconnect.trans_reads hread⟩
      · exact ⟨[], hconnect⟩
    · -- What is live and not being connected is active.
      refine reads_exchangeData h (fun s' hs' => ?_) _ _
      obtain rfl := Option.some.inj (hs.symm.trans hs')
      have := eq_true_of_ne_false hlive
      simpa [Socket.isLive, hp] using this

/-- **A pass over the ready sockets reads some of them.** -/
theorem reads_foldl_serve (h : x.outline.Sound) (ready : List Readiness) :
    ∃ is, Reads x is (ready.foldl serve x) := by
  induction ready generalizing x with
  | nil => exact ⟨[], Unread.refl x⟩
  | cons r ready ih =>
    obtain ⟨is, hfirst⟩ := reads_serve h r
    obtain ⟨is', hrest⟩ := ih (h.passMoves (passMoves_passSteps h (passSteps_serve x r)))
    exact ⟨is ++ is', hfirst.append hrest⟩

/-- **So does a poll.** -/
theorem reads_poll (h : x.outline.Sound) (ho : x.isOpen = true) : ∃ is z, Reads x is z ∧
    x.poll = (.ok z.inbox, { z with inbox := [] }) := by
  obtain ⟨exceeded, hstart⟩ := exceed_unless (eventsFit x.profile.pollCapacity) .events x
  have hx' := Unread.exceeded exceeded x
  have houtline : ({ x with exceeded } : Exchange ν).outline = x.outline := rfl
  unfold poll
  rw [if_neg (by simp [ho])]
  dsimp only
  rw [hstart]
  generalize ({ x with exceeded } : Exchange ν) = x' at hx' houtline ⊢
  have hanswer : Unread x' { x' with network :=
      (Network.poll x'.watched x'.profile.pollCapacity x'.network).2 } :=
    .network fun l => l.poll ..
  have hsound : ({ x' with network :=
      (Network.poll x'.watched x'.profile.pollCapacity x'.network).2 } : Exchange ν).outline.Sound :=
    houtline.symm ▸ h
  obtain ⟨is, hread⟩ := reads_foldl_serve hsound
    (Network.poll x'.watched x'.profile.pollCapacity x'.network).1
  exact ⟨is, _, ((hx'.trans hanswer).trans_reads hread).trans_unread (.armPending _), rfl⟩

end Exchange

end Switchboard
