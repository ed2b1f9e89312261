import Switchboard.Proofs.Step.Basic
import Switchboard.Proofs.Sockets

/-!
# A poll in steps

A pass over the ready sockets is a chain of `PassStep`s (`passSteps_foldl_serve`), so a poll is a
`Step` (`steady_poll`).  What carries the proof is that reading and sending leave the table of
sockets as it is until a socket fails, so the socket that a pass has looked up is still the one it
works on.
-/

namespace Switchboard.Exchange

open Net Relation

variable {ν : Type} [Network ν]

/-! ### Reading and sending -/

theorem passSteps_acceptConnections {x : Exchange ν} {id : SocketId} {s : Socket}
    (hs : x.sockets.find? id = some s) (hm : s.medium = .acceptor) :
    PassSteps x (x.acceptConnections id) := by
  unfold acceptConnections
  generalize Network.accept id x.network = answer
  obtain ⟨waiting, network⟩ := answer
  refine .head (.answered x network) ?_
  change PassSteps _ (waiting.foldl takeIn { x with network })
  replace hs : ({ x with network } : Exchange ν).sockets.find? id = some s := hs
  generalize ({ x with network } : Exchange ν) = y at hs
  induction waiting generalizing y with
  | nil => exact .refl
  | cons connection waiting ih =>
    rw [List.foldl_cons]
    unfold takeIn
    split
    · rename_i network _
      exact .head (.answered y network) (ih _ hs)
    · rename_i ownEnd network _
      -- A connection that is taken in leaves the acceptor in the table.
      have hfound : (y.sockets.add y.nextSocket (Socket.taken ownEnd connection.2)).find? id =
          some s := by rw [Sockets.find?_add, hs, Option.some_or]
      exact .head (.answered y network)
        (.head (.admitted { y with network } ownEnd connection.2 hs hm) (ih _ hfound))

/-- Handing on some buffers of a socket keeps the table of sockets. -/
theorem passSteps_foldl_route {id : SocketId} {s : Socket} (hp : s.phase = .active)
    (hm : s.medium ≠ .acceptor) {sender : Option Endpoint}
    (hsender : if s.role = .listener then sender ≠ none else sender = s.farEnd)
    (buffers : List Bytes) {x : Exchange ν} (hs : x.sockets.find? id = some s) :
    let y := buffers.foldl (fun x data => x.route id s.role sender data) x
    PassSteps x y ∧ y.sockets = x.sockets := by
  induction buffers generalizing x with
  | nil => exact ⟨.refl, rfl⟩
  | cons data buffers ih =>
    have hsame : (x.route id s.role sender data).sockets = x.sockets := by
      obtain ⟨_, _, _, h⟩ := route_eq id s.role sender data x
      rw [h]
    obtain ⟨hsteps, hsockets⟩ := ih (hsame ▸ hs)
    exact ⟨.head (.routed x sender data hs hp hm hsender) hsteps, hsockets.trans hsame⟩

theorem passSteps_foldl_take {id : SocketId} {s : Socket} (hp : s.phase = .active)
    (hm : s.medium ≠ .acceptor) (arrivals : List Arrival) {x : Exchange ν}
    (hs : x.sockets.find? id = some s) :
    PassSteps x (arrivals.foldl (take id s) x) ∧
      (arrivals.foldl (take id s) x).sockets = x.sockets := by
  induction arrivals generalizing x with
  | nil => exact ⟨.refl, rfl⟩
  | cons a arrivals ih =>
    have hsender : ∀ sender, sender = (if s.role = .listener then some a.sender else s.farEnd) →
        if s.role = .listener then sender ≠ none else sender = s.farEnd := by
      rintro sender rfl
      split_ifs
      · exact Option.some_ne_none _
      · rfl
    obtain ⟨hfirst, hsame⟩ :=
      passSteps_foldl_route hp hm (hsender _ rfl) (buffers s.medium x.profile.bufferSize a.data) hs
    obtain ⟨hrest, hsockets⟩ := ih (x := take id s x a) (hsame ▸ hs)
    exact ⟨hfirst.trans hrest, hsockets.trans hsame⟩

theorem passSteps_reportFault (x : Exchange ν) (id : SocketId) : PassSteps x (reportFault id x).2 :=
  .single (.faulted x id)

theorem passSteps_readSocket {x : Exchange ν} {id : SocketId}
    (hactive : ∀ s, x.sockets.find? id = some s → s.phase = .active) :
    PassSteps x (x.readSocket id).2 ∧
      ((x.readSocket id).1 = true → (x.readSocket id).2.sockets = x.sockets) := by
  unfold readSocket
  split
  · exact ⟨.refl, fun _ => rfl⟩
  · rename_i s hs
    split
    · exact ⟨.refl, fun _ => rfl⟩
    · rename_i hm
      have hstart : ∀ x' : Exchange ν,
          x' = (if largestBuffer < x.profile.bufferSize then x.exceed .buffer else x) →
            PassSteps x x' ∧ x'.sockets = x.sockets := by
        rintro x' rfl
        split_ifs
        · exact ⟨.single (.exceeded x .buffer), rfl⟩
        · exact ⟨.refl, rfl⟩
      dsimp only
      generalize (if largestBuffer < x.profile.bufferSize then x.exceed .buffer else x) = x'
        at hstart ⊢
      obtain ⟨hx', hsame⟩ := hstart x' rfl
      generalize Network.receive id x'.network = answer
      obtain ⟨answered, network⟩ := answer
      dsimp only
      generalize readable s.medium x'.profile.bufferSize answered = inflow
      -- What the network answers changes no socket.
      have htable : ({ x' with network } : Exchange ν).sockets.find? id = some s :=
        (congrArg (Sockets.find? · id) hsame).trans hs
      obtain ⟨htake, hkept⟩ := passSteps_foldl_take (hactive s hs) hm inflow.arrivals htable
      have hread := (hx'.tail (.answered x' network)).trans htake
      split
      · exact ⟨hread, fun _ => hkept.trans hsame⟩
      · exact ⟨hread.trans (passSteps_reportFault _ id), fun h => absurd h Bool.false_ne_true⟩
      · split
        · exact ⟨hread, fun _ => hkept.trans hsame⟩
        · exact ⟨hread.trans (passSteps_reportFault _ id), fun h => absurd h Bool.false_ne_true⟩

/-- What one attempt to send comes to, as steps. -/
theorem passSteps_attempt {x : Exchange ν} {id : SocketId}
    (hactive : ∀ s, x.sockets.find? id = some s → s.phase = .active) :
    match x.attempt id with
    | .again y => PassSteps x y ∧ y.sockets = x.sockets
    | .rest y => y = x
    | .stop y => PassSteps x y := by
  unfold attempt
  split_ifs with hheld
  · rfl
  · rw [Bool.not_eq_true] at hheld
    rcases hnext : x.nextWrite? id with _ | ⟨i, w, target⟩
    · rfl
    rcases hs : x.sockets.find? id with _ | s
    · exact .refl
    dsimp only
    by_cases hm : s.medium = .acceptor
    · rw [if_pos hm]
    rw [if_neg hm]
    generalize Network.send id _ w.remaining x.network = answer
    obtain ⟨taken, network⟩ := answer
    have hanswer : PassSteps x { x with network } := .single (.answered x network)
    cases taken with
    | wouldBlock => exact hanswer
    | failed cause => exact hanswer.trans (passSteps_reportFault _ id)
    | took count =>
      dsimp only
      split_ifs with hzero
      · exact hanswer
      · have hcount : count = 0 → w.remaining = [] := fun hc =>
          by_contra fun hne => hzero ⟨hc, hne⟩
        refine ⟨hanswer.tail (.sent { x with network } count hs (hactive s hs) hm hheld hnext hcount),
          ?_⟩
        obtain ⟨_, _, -, hsettled⟩ := settle_eq s i w count { x with network }
        rw [hsettled]
        rfl

theorem passSteps_sendAll {id : SocketId} (fuel : Nat) {x : Exchange ν}
    (hactive : ∀ s, x.sockets.find? id = some s → s.phase = .active) :
    PassSteps x (sendAll id fuel x) := by
  induction fuel generalizing x with
  | zero => exact .refl
  | succ fuel ih =>
    have hattempt := passSteps_attempt hactive
    unfold sendAll
    split <;> rename_i y heq <;> rw [heq] at hattempt
    · -- Only an attempt that sent something is followed by another, and it keeps the table.
      exact hattempt.1.trans (ih (hattempt.2 ▸ hactive))
    · rw [hattempt]
      exact .single (.disarmed x id)
    · exact hattempt

theorem passSteps_exchangeData {x : Exchange ν} {id : SocketId}
    (hactive : ∀ s, x.sockets.find? id = some s → s.phase = .active) (readable writable : Bool) :
    PassSteps x (x.exchangeData id readable writable) := by
  cases readable with
  | false =>
    cases writable with
    | false => exact .refl
    | true => exact passSteps_sendAll _ hactive
  | true =>
    obtain ⟨hread, hsame⟩ := passSteps_readSocket hactive
    rw [exchangeData, if_pos rfl]
    split <;> rename_i y heq <;> rw [heq] at hread hsame
    · cases writable with
      | false => exact hread
      | true => exact hread.trans (passSteps_sendAll _ (hsame rfl ▸ hactive))
    · exact hread

/-- A connection that is completed is active afterwards. -/
theorem passSteps_finishConnect {x : Exchange ν} {id : SocketId} {s : Socket}
    (hs : x.sockets.find? id = some s) (hp : s.phase = .connecting) :
    PassSteps x (x.finishConnect id).2 ∧ ((x.finishConnect id).1 = true →
      ∀ s', (x.finishConnect id).2.sockets.find? id = some s' → s'.phase = .active) := by
  unfold finishConnect
  rw [hs, Option.map_some]
  split
  · rename_i hm
    generalize Network.failure? id x.network = answer
    obtain ⟨failure, network⟩ := answer
    have hanswer : PassSteps x { x with network } := .single (.answered x network)
    cases failure with
    | none =>
      refine ⟨hanswer.tail (.established { x with network } hs (Option.some.inj hm) hp),
        fun _ s' hs' => ?_⟩
      dsimp only at hs'
      rw [announceAll_eq] at hs'
      dsimp only [modifySocket] at hs'
      rw [Sockets.find?_modify, if_pos rfl, hs] at hs'
      exact congrArg Socket.phase (Option.some.inj hs').symm
    | some cause =>
      exact ⟨hanswer.trans (passSteps_reportFault _ id), fun h => absurd h Bool.false_ne_true⟩
  · exact ⟨.refl, fun h => absurd h Bool.false_ne_true⟩

theorem passSteps_serve (x : Exchange ν) (r : Readiness) : PassSteps x (x.serve r) := by
  unfold serve
  split
  · exact .refl
  · rename_i s hs
    split_ifs with hlive hm hp hw
    · exact .refl
    · exact passSteps_acceptConnections hs hm
    · exact .refl
    · obtain ⟨hconnect, hactive⟩ := passSteps_finishConnect hs hp
      split <;> rename_i y heq <;> rw [heq] at hconnect hactive
      · exact hconnect.trans (passSteps_exchangeData (hactive rfl) _ _)
      · exact hconnect
    · -- What is live and not being connected is active.
      refine passSteps_exchangeData (fun s' hs' => ?_) _ _
      obtain rfl := Option.some.inj (hs.symm.trans hs')
      have := eq_true_of_ne_false hlive
      simpa [Socket.isLive, hp] using this

theorem passSteps_foldl_serve (ready : List Readiness) (x : Exchange ν) :
    PassSteps x (ready.foldl serve x) := by
  induction ready generalizing x with
  | nil => exact .refl
  | cons r ready ih => exact (passSteps_serve x r).trans (ih _)

/-! ### The settings -/

/-- A step of a pass leaves the settings alone. -/
theorem profile_passStep {x y : Exchange ν} (h : PassStep x y) : y.profile = x.profile := by
  cases h with
  | answered network => rfl
  | exceeded l => rfl
  | admitted ownEnd remote hs hm => rfl
  | established hs hm hp =>
    unfold establish
    dsimp only
    rw [announceAll_eq]
    rfl
  | faulted id =>
    obtain ⟨_, _, _, _, _, _, heq⟩ := reportFault_eq id x
    rw [heq]
  | @routed id s sender data hs hp hm hsender =>
    obtain ⟨_, _, _, heq⟩ := route_eq id s.role sender data x
    rw [heq]
  | @sent id s i w target count hs hp hm hheld hnext hcount =>
    obtain ⟨_, _, -, heq⟩ := sendBytes_eq id s i w target count x
    rw [heq]
  | disarmed id => rfl

theorem profile_passSteps {x y : Exchange ν} (h : PassSteps x y) : y.profile = x.profile := by
  induction h with
  | refl => rfl
  | tail _ hstep ih => exact (profile_passStep hstep).trans ih

/-- **A poll** of an open exchange is a pass, after which every socket with writes is asked for and
the protocol is given what was read. -/
theorem poll_eq {x : Exchange ν} (ho : x.isOpen = true) :
    ∃ y, PassSteps x y ∧ x.poll = (.ok y.inbox, { y.armPending with inbox := [] }) := by
  unfold poll
  rw [if_neg (by simp [ho])]
  have hstart : ∀ x' : Exchange ν,
      x' = (if eventsFit x.profile.pollCapacity then x else x.exceed .events) →
        PassSteps x x' := by
    rintro x' rfl
    split_ifs
    · exact .refl
    · exact .single (.exceeded x .events)
  dsimp only
  generalize (if eventsFit x.profile.pollCapacity then x else x.exceed .events) = x'
    at hstart ⊢
  generalize Network.poll x'.watched x'.profile.pollCapacity x'.network = answer
  obtain ⟨ready, network⟩ := answer
  have hpass := ((hstart x' rfl).tail (.answered x' network)).trans
    (passSteps_foldl_serve ready { x' with network })
  refine ⟨_, hpass, ?_⟩
  obtain ⟨_, _, harm⟩ := armPending_eq (ready.foldl serve { x' with network })
  dsimp only
  rw [harm]

theorem poll_cases (x : Exchange ν) : x.isOpen = false ∧ x.poll.2 = x ∨
    x.isOpen = true ∧ ∃ y, PassSteps x y ∧ x.poll.2 = { y.armPending with inbox := [] } := by
  cases ho : x.isOpen with
  | false =>
    unfold poll
    exact .inl ⟨rfl, by rw [if_pos ho]⟩
  | true =>
    obtain ⟨y, hpass, heq⟩ := poll_eq ho
    exact .inr ⟨rfl, y, hpass, congrArg Prod.snd heq⟩

theorem steady_poll (x : Exchange ν) : SteadySteps x x.poll.2 := by
  obtain ⟨-, h⟩ | ⟨ho, y, hpass, h⟩ := poll_cases x
  · rw [h]
  · rw [h]
    have hserved := profile_passSteps hpass
    have hprofile : y.armPending.profile = x.profile := by
      obtain ⟨sockets, outbox, heq⟩ := armPending_eq y
      rw [heq]
      exact hserved
    exact .single ⟨.passed x ho hpass, hprofile⟩

end Switchboard.Exchange
