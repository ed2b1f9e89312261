import Switchboard.Proofs.Links
import Switchboard.Proofs.Senders.Callbacks

/-!
# Requests that are refused

A host asks for something, and where that cannot be done it gets an error.  Then nothing else has
happened (`Station.ask_refused`): channels, links, sockets, listener, schedule, writes, settings, calls
and announcements are as they were.  Two things may differ and show nowhere: what the network has
noted of a call that failed, and how many calls of a channel have begun, which a call takes back
everything of but its number (`CallBox.uncounted_finish_start`).

Some requests change the state before they meet the error, and undo it: opening, reading settings,
and calls.  Others can fail only before they change anything, because what comes after cannot fail.
That an open exchange has a listener is what that rests on (`Outline.Sound`): so an inbound channel
always gets a socket (`attachInbound_eq`), and bindings that passed the check are all made
(`bindAll_ok`).
-/

namespace Switchboard

open Net Settings Directory Outline Exchange

/-! ### What a host can tell -/

/-- A box without the number of its latest call. -/
def CallBox.uncounted (b : CallBox) : CallBox :=
  { b with issued := 0 }

/-- A directory without the numbers of the latest calls. -/
def Directory.uncounted (d : Directory) : Directory :=
  { d with statuses := d.statuses.map fun s => { s with call := s.call.uncounted } }

/-- **All that an exchange is,** but for the network and the numbers of the latest calls. -/
def Exchange.visible {ν : Type} (x : Exchange ν) : Exchange Unit :=
  { x with network := (), directory := x.directory.uncounted }

/-- A call that was begun and is ended again leaves nothing but its number. -/
theorem CallBox.uncounted_finish_start {b b' : CallBox} {g : Nat} (h : b.start? = some (g, b')) :
    (b'.finish g).uncounted = b.uncounted := by
  unfold start? at h
  split at h
  · rename_i hidle
    obtain ⟨rfl, rfl⟩ := Prod.mk.inj (Option.some.inj h)
    simp [finish, uncounted, Pending.generation?, hidle]
  · exact nomatch h

namespace Directory

theorem modifyCall_modifyCall (c : Channel) (f f' : CallBox → CallBox) (d : Directory) :
    (d.modifyCall c f).modifyCall c f' = d.modifyCall c fun b => f' (f b) := by
  unfold modifyCall modifyStatus
  split_ifs with h
  · simp only [Directory.mk.injEq, true_and]
    refine List.ext_getElem (by simp) fun i hi hi' => ?_
    simp only [List.getElem_modify]
    split_ifs <;> rfl
  · rfl

/-- What only raises the number of the latest call of a channel cannot be told. -/
theorem uncounted_modifyCall {d : Directory} {c : Channel} {f : CallBox → CallBox}
    (hf : (f (d.call c)).uncounted = (d.call c).uncounted) :
    (d.modifyCall c f).uncounted = d.uncounted := by
  unfold modifyCall modifyStatus
  split_ifs with hhome
  · simp only [uncounted, Directory.mk.injEq, true_and]
    refine List.ext_getElem (by simp) fun i hi hi' => ?_
    simp only [List.getElem_map, List.getElem_modify]
    split_ifs with hid
    · -- The state at this place is that of the channel.
      have hlt : i < d.statuses.length := by simpa using hi'
      have hcall : d.call c = d.statuses[i].call := by
        subst hid
        unfold call status
        rw [if_pos hhome, List.getElem?_eq_getElem hlt]
        rfl
      rw [hcall] at hf
      rw [hf]
    · rfl
  · rfl

end Directory

namespace Exchange

variable {ν : Type} {x y : Exchange ν} [Network ν]

/-! ### Requests that undo what they did -/

/-- A channel that gets no socket leaves the exchange as it was. -/
theorem ensureSocket_error {c : Channel} {e : Error} (h : (x.ensureSocket c).1 = .error e) :
    ∃ network, (x.ensureSocket c).2 = { x with network } := by
  unfold ensureSocket at h ⊢
  split_ifs at h ⊢
  · exact ⟨x.network, rfl⟩
  · exact ⟨x.network, rfl⟩
  · -- Whatever fails does so before a link is made; only the network may have been asked.
    split at h
    · exact nomatch h
    · split at h
      · unfold attachInbound at h ⊢
        split at h
        · exact ⟨x.network, rfl⟩
        · exact nomatch h
      · unfold attachOutbound at h ⊢
        split at h
        · exact nomatch h
        · split at h
          · exact ⟨x.network, rfl⟩
          · split at h
            · rename_i network _
              exact ⟨network, rfl⟩
            · exact nomatch h

theorem enqueue_error {c : Channel} {data : Bytes} {call : Option Nat} {e : Error}
    (h : (x.enqueue c data call).1 = .error e) :
    ∃ network, (x.enqueue c data call).2 = { x with network } := by
  have hensure := fun e => ensureSocket_error (x := x) (c := c) (e := e)
  unfold enqueue at h ⊢
  split at h <;> rename_i heq <;> rw [heq] at hensure
  · exact hensure _ rfl
  · split at h <;> exact nomatch h

theorem write_error {c : Channel} {data : Bytes} {e : Error} (h : (x.write c data).1 = .error e) :
    ∃ network, (x.write c data).2 = { x with network } := by
  have henqueue : ∀ e, (x.enqueue c data none).1 = .error e →
      ∃ network, (x.enqueue c data none).2 = { x with network } := fun _ => enqueue_error
  unfold write at h ⊢
  split_ifs at h ⊢
  · exact ⟨x.network, rfl⟩
  · split at h <;> rename_i heq <;> rw [heq] at henqueue
    · exact henqueue _ rfl
    · exact nomatch h

/-- A call that cannot be queued is ended again. -/
theorem startCall_error {c : Channel} {data : Bytes} {e : Error}
    (h : (x.startCall c data).1 = .error e) : (x.startCall c data).2.visible = x.visible := by
  unfold startCall beginCall at h ⊢
  cases hstart : (x.directory.status c).call.start? with
  | none => rfl
  | some started =>
    obtain ⟨g, b⟩ := started
    rw [hstart] at h
    dsimp only at h ⊢
    let begun := x.onDirectory (·.modifyCall c fun _ => b)
    have henqueue : ∀ e, (begun.enqueue c data (some g)).1 = .error e →
        ∃ network, (begun.enqueue c data (some g)).2 = { begun with network } := fun _ => enqueue_error
    split at h <;> rename_i z heq <;> rw [heq] at henqueue
    · obtain ⟨network, rfl⟩ := henqueue _ rfl
      -- The call was begun and is ended, and nothing happened between.
      have hended := CallBox.uncounted_finish_start hstart
      have hbox : ((x.directory.modifyCall c fun _ => b).modifyCall c (·.finish g)).uncounted =
          x.directory.uncounted := by
        rw [modifyCall_modifyCall]
        exact uncounted_modifyCall hended
      exact congrArg (fun d : Directory => ({ x with network := (), directory := d } : Exchange Unit)) hbox
    · exact nomatch h
    · exact nomatch h

/-- Settings that cannot take effect leave the former ones, and their listener. -/
theorem updateProfile_error {c : Configuration} {e : Error} (h : (x.updateProfile c).1 = .error e) :
    ∃ network, (x.updateProfile c).2 = { x with network } := by
  unfold updateProfile at h ⊢
  split
  · exact ⟨x.network, rfl⟩
  · rename_i new hread
    rw [hread] at h
    dsimp only at h ⊢
    by_cases hmasks : new.sharing.masks = false ∧ x.directory.channels.any (·.remote.isMask) = true
    · rw [if_pos hmasks]
      exact ⟨x.network, rfl⟩
    · rw [if_neg hmasks] at h ⊢
      split at h
      · rename_i hmove
        -- Where the new listener cannot be opened, the former settings are put back.
        rw [if_pos hmove]
        obtain ⟨e, network, hfail⟩ | ⟨ownEnd, network, y, hdone, -⟩ := rebindListener_cases x new
        · rw [hfail]
          exact ⟨network, rfl⟩
        · rw [hdone] at h
          exact nomatch h
      · exact nomatch h

/-! ### Requests that fail before they change anything -/

omit [Network ν] in
theorem listener_join (c : Channel) (id : SocketId) (x : Exchange ν) :
    (x.join c id).listener = x.listener := by
  obtain ⟨newcomers, h⟩ := join_eq c id x
  rw [h, announceAll_eq]
  rfl

omit [Network ν] in
/-- Where there is a listener, every inbound channel that waits gets a socket. -/
theorem attachWaiting_ok (cs : List Channel) (hl : x.listener ≠ none) :
    (attachWaiting cs x).1 = .ok () := by
  induction cs generalizing x with
  | nil => rfl
  | cons c cs ih =>
    unfold attachWaiting
    split_ifs
    · obtain ⟨id, hattach⟩ := attachInbound_eq (c := c) hl
      rw [hattach]
      apply ih
      rw [listener_join]
      exact hl
    · exact ih hl

/-- An exchange that cannot be opened is left as it was. -/
theorem openUp_error {e : Error} (h : x.openUp.1 = .error e) :
    ∃ network, x.openUp.2 = { x with network } := by
  unfold openUp at h ⊢
  split_ifs at h ⊢ with ho
  rw [Bool.not_eq_true] at ho
  obtain ⟨e, network, hfail⟩ | ⟨ownEnd, network, hopen⟩ := openListener_cases { x with isOpen := true }
  · rw [hfail]
    refine ⟨network, ?_⟩
    dsimp only
    rw [← ho]
  · -- With the listener open, every inbound channel gets a socket.
    rw [hopen] at h
    have hattached := attachWaiting_ok (x := raiseListener x.profile ownEnd
      { x with isOpen := true, network }) x.directory.channels nofun
    exact nomatch hattached.symm.trans h

omit [Network ν] in
/-- A pair that passed the check is bound. -/
theorem bind_ok (hl : x.isOpen = true → x.listener ≠ none) {s : Subject} {r : Remote}
    (hv : vet s r x.profile.sharing.masks = .ok ()) : ∃ c, (x.bind s r).1 = .ok c := by
  unfold Exchange.bind enrol
  rw [hv]
  cases x.directory.bound? s r with
  | some c => exact ⟨c, rfl⟩
  | none =>
    dsimp only
    split_ifs with hnew
    · obtain ⟨id, hattach⟩ := attachInbound_eq (x := { x with directory := (x.directory.append s r).2 })
        (c := (x.directory.append s r).1) (hl hnew.2.2)
      rw [hattach]
      exact ⟨_, rfl⟩
    · exact ⟨_, rfl⟩

omit [Network ν] in
theorem bind_error (hl : x.isOpen = true → x.listener ≠ none) {s : Subject} {r : Remote} {e : Error}
    (h : (x.bind s r).1 = .error e) : (x.bind s r).2 = x := by
  cases hv : vet s r x.profile.sharing.masks with
  | error e =>
    unfold Exchange.bind enrol
    rw [hv]
  | ok u =>
    obtain ⟨c, hc⟩ := bind_ok hl hv
    exact nomatch hc.symm.trans h

/-- Bindings that passed the check are all made. -/
theorem bindAll_ok (h : x.outline.Sound) {bindings : List (Subject × Remote)}
    (hr : refusal? x.profile.sharing.masks bindings = none) :
    ∃ cs, (x.bindAll bindings).1 = .ok cs := by
  induction bindings generalizing x with
  | nil => exact ⟨[], rfl⟩
  | cons binding bindings ih =>
    obtain ⟨s, r⟩ := binding
    unfold refusal? at hr
    split at hr
    · exact nomatch hr
    · rename_i hv
      obtain ⟨c, hc⟩ := bind_ok h.opened hv
      -- A binding keeps the settings, so that those after it pass the check as before.
      have hsteady := steady_bind s r x
      have hmasks := SteadySteps.profile hsteady
      have hsound := h.moves (moves_steps h hsteady.steps)
      obtain ⟨cs, hcs⟩ := ih hsound (by rwa [hmasks])
      unfold bindAll
      rw [show x.bind s r = (.ok c, (x.bind s r).2) from Prod.ext hc rfl]
      dsimp only
      rw [show (x.bind s r).2.bindAll bindings = (.ok cs, _) from Prod.ext hcs rfl]
      exact ⟨_, rfl⟩

theorem reconfigure_error (h : x.outline.Sound) {bindings : List (Subject × Remote)} {e : Error}
    (he : (x.reconfigure bindings).1 = .error e) : (x.reconfigure bindings).2 = x := by
  unfold reconfigure at he ⊢
  cases hr : refusal? x.profile.sharing.masks bindings with
  | some e => rfl
  | none =>
    rw [hr] at he
    -- All pairs passed the check, so binding them cannot have failed.
    obtain ⟨cs, hcs⟩ := bindAll_ok h hr
    rw [show x.bindAll bindings = (.ok cs, _) from Prod.ext hcs rfl] at he
    exact nomatch he

/-- One pair that cannot be bound is enough, wherever it stands. -/
theorem exists_refusal {masks : Bool} {bindings : List (Subject × Remote)} {s : Subject} {r : Remote}
    (hmem : (s, r) ∈ bindings) {e : Error} (hv : vet s r masks = .error e) :
    ∃ e', refusal? masks bindings = some e' := by
  induction bindings with
  | nil => exact nomatch hmem
  | cons binding bindings ih =>
    obtain ⟨s', r'⟩ := binding
    unfold refusal?
    split
    · exact ⟨_, rfl⟩
    · rename_i hok
      rcases List.mem_cons.mp hmem with heq | hmem
      · obtain ⟨rfl, rfl⟩ := Prod.mk.inj heq
        exact nomatch hok.symm.trans hv
      · exact ih hmem

theorem poll_error {e : Error} (h : x.poll.1 = .error e) : x.poll.2 = x := by
  cases ho : x.isOpen with
  | false =>
    unfold poll
    rw [if_pos ho]
  | true =>
    obtain ⟨y, -, heq⟩ := poll_eq ho
    rw [heq] at h
    exact nomatch h

end Exchange

/-! ### Requests -/

/-- **What a host asks for.** -/
inductive Request where
  | openUp
  | bind (s : Subject) (r : Remote)
  | reconfigure (bindings : List (Subject × Remote))
  | updateProfile (c : Configuration)
  | command (item command : String)
  | write (c : Channel) (data : Bytes)
  /-- A write whose reply is to be waited for. -/
  | call (c : Channel) (data : Bytes)
  | pollCycle

namespace Station

variable {ν ε : Type}

/-- Has something done by the exchange alone. -/
def onExchange {α : Type} (st : Station ν ε) (f : Exchange ν → Except Error α × Exchange ν) :
    Except Error Unit × Station ν ε :=
  ((f st.exchange).1.map fun _ => (), { st with exchange := (f st.exchange).2 })

/-- **What comes of a request:** whether there was an error, and the station afterwards. -/
def ask [Network ν] (st : Station ν ε) : Request → Except Error Unit × Station ν ε
  | .openUp => (st.openUp.1, st.openUp.2.2)
  | .bind s r => st.onExchange (·.bind s r)
  | .reconfigure bindings => st.onExchange (·.reconfigure bindings)
  | .updateProfile c => st.onExchange (·.updateProfile c)
  | .command item text =>
    ((command item text st).1.map fun _ => (), (command item text st).2.2)
  | .write c data => st.onExchange (·.write c data)
  | .call c data => st.onExchange (·.startCall c data)
  | .pollCycle => (st.pollCycle.1.map fun _ => (), st.pollCycle.2.2)

/-- **Nothing that a host can tell has changed.** -/
structure Unchanged (st st' : Station ν ε) : Prop where
  protocol : st'.protocol = st.protocol
  visible : st'.exchange.visible = st.exchange.visible

variable {st : Station ν ε}

/-- An error is one whatever else would have come. -/
theorem error_of_map {α : Type} {r : Except Error α} {e : Error}
    (h : r.map (fun _ => ()) = .error e) : r = .error e := by
  cases r with
  | ok a => exact nomatch h
  | error e' => exact congrArg Except.error (Except.error.inj h)

/-- What the network has noted shows nowhere. -/
theorem unchanged_of_network {x : Exchange ν} (h : ∃ network, x = { st.exchange with network }) :
    Unchanged st { st with exchange := x } := by
  obtain ⟨network, rfl⟩ := h
  exact ⟨rfl, rfl⟩

theorem unchanged_onExchange {α : Type} {f : Exchange ν → Except Error α × Exchange ν}
    (hf : ∀ e, (f st.exchange).1 = .error e → Unchanged st { st with exchange := (f st.exchange).2 })
    {e : Error} (h : (st.onExchange f).1 = .error e) : Unchanged st (st.onExchange f).2 :=
  hf e (error_of_map h)

variable [Network ν]

theorem unchanged_openUp {e : Error} (h : st.openUp.1 = .error e) :
    Unchanged st st.openUp.2.2 := by
  have hopen := fun e => openUp_error (x := st.exchange) (e := e)
  unfold openUp at h ⊢
  split at h <;> rename_i heq <;> rw [heq] at hopen
  · exact unchanged_of_network (hopen _ rfl)
  · exact nomatch h

theorem unchanged_pollCycle {e : Error} (h : st.pollCycle.1 = .error e) :
    Unchanged st st.pollCycle.2.2 := by
  have hpoll := fun e => poll_error (x := st.exchange) (e := e)
  unfold pollCycle at h ⊢
  split at h <;> rename_i heq <;> rw [heq] at hpoll
  · exact unchanged_of_network ⟨st.exchange.network, hpoll _ rfl⟩
  · exact nomatch h

theorem unchanged_command {item text : String} {e : Error}
    (h : (command item text st).1 = .error e) :
    Unchanged st (command item text st).2.2 := by
  unfold Station.command at h ⊢
  split at h
  · exact ⟨rfl, rfl⟩
  · exact nomatch h

/-- **A request that ends in an error leaves everything as it was.** -/
theorem unchanged_ask (h : st.exchange.outline.Sound) {r : Request} {e : Error}
    (he : (st.ask r).1 = .error e) : Unchanged st (st.ask r).2 := by
  cases r with
  | openUp => exact unchanged_openUp he
  | bind s r =>
    exact unchanged_onExchange
      (fun e he => unchanged_of_network ⟨st.exchange.network, bind_error h.opened he⟩) he
  | reconfigure bindings =>
    exact unchanged_onExchange
      (fun e he => unchanged_of_network ⟨st.exchange.network, reconfigure_error h he⟩) he
  | updateProfile c =>
    exact unchanged_onExchange (fun e he => unchanged_of_network (updateProfile_error he)) he
  | command item text =>
    have hcommand : (command item text st).1 = .error e := error_of_map he
    exact unchanged_command hcommand
  | write c data => exact unchanged_onExchange (fun e he => unchanged_of_network (write_error he)) he
  | call c data => exact unchanged_onExchange (fun e he => ⟨rfl, startCall_error he⟩) he
  | pollCycle =>
    have hpoll : st.pollCycle.1 = .error e := error_of_map he
    exact unchanged_pollCycle hpoll

/-- One pair that cannot be bound, wherever it stands, and nothing is bound. -/
theorem ask_reconfigure_refused {bindings : List (Subject × Remote)} {s : Subject} {r : Remote}
    (hmem : (s, r) ∈ bindings) {e : Error}
    (hv : vet s r st.exchange.profile.sharing.masks = .error e) :
    ∃ e', st.ask (.reconfigure bindings) = (.error e', st) := by
  obtain ⟨e', he'⟩ := exists_refusal hmem hv
  refine ⟨e', ?_⟩
  have hreconfigure : st.exchange.reconfigure bindings = (.error e', st.exchange) := by
    unfold reconfigure
    rw [he']
  change st.onExchange _ = _
  unfold onExchange
  rw [hreconfigure]
  rfl

/-- The network refuses the listener that new settings ask for: the old one stays, and so do the old
settings. -/
theorem ask_updateProfile_refused {c : Configuration} {new : Profile}
    (hread : Profile.read c st.exchange.name = .ok new)
    (hmasks : new.sharing.masks = true ∨
      st.exchange.directory.channels.any (·.remote.isMask) = false)
    (ho : st.exchange.isOpen = true)
    (hmove : st.exchange.profile.transport ≠ new.transport ∨ st.exchange.profile.port ≠ new.port ∨
      st.exchange.profile.listenerAddress ≠ new.listenerAddress)
    {cause : SocketError} {network : ν}
    (hl : Network.listen new.transport st.exchange.nextSocket new.listenerEndpoint
      st.exchange.network = (.error cause, network)) :
    st.ask (.updateProfile c) =
      (.error (.socket cause), { st with exchange := { st.exchange with network } }) := by
  have hlistener : rebindListener { st.exchange with profile := new } =
      (.error (.socket cause), { st.exchange with profile := new, network }) := by
    unfold rebindListener openListener
    dsimp only
    rw [hl]
  have hpass : ¬ (new.sharing.masks = false ∧
      st.exchange.directory.channels.any (·.remote.isMask) = true) := by
    rintro ⟨hoff, hsome⟩
    rcases hmasks with hon | hnone
    · exact nomatch hoff.symm.trans hon
    · exact nomatch hsome.symm.trans hnone
  have hupdate : st.exchange.updateProfile c =
      (.error (.socket cause), { st.exchange with network }) := by
    unfold updateProfile
    rw [hread]
    dsimp only
    rw [if_neg hpass, if_pos ⟨ho, hmove⟩, hlistener]
  change st.onExchange _ = _
  unfold onExchange
  rw [hupdate]
  rfl

/-- **A request that is refused changes nothing,** whatever was asked for and whatever happened
before.  So one binding that cannot be is enough to leave all channels as they are, and a listener
that cannot be opened leaves the old one, and the old settings, in effect. -/
theorem ask_refused (h : st.exchange.Reachable) :
    (∀ r e, (st.ask r).1 = .error e → Unchanged st (st.ask r).2) ∧
    (∀ bindings s r e, (s, r) ∈ bindings →
      vet s r st.exchange.profile.sharing.masks = .error e →
        ∃ e', st.ask (.reconfigure bindings) = (.error e', st)) ∧
    ∀ c new cause network, Profile.read c st.exchange.name = .ok new →
      (new.sharing.masks = true ∨ st.exchange.directory.channels.any (·.remote.isMask) = false) →
      st.exchange.isOpen = true →
      (st.exchange.profile.transport ≠ new.transport ∨ st.exchange.profile.port ≠ new.port ∨
        st.exchange.profile.listenerAddress ≠ new.listenerAddress) →
      Network.listen new.transport st.exchange.nextSocket new.listenerEndpoint
        st.exchange.network = (.error cause, network) →
        st.ask (.updateProfile c) =
          (.error (.socket cause), { st with exchange := { st.exchange with network } }) := by
  refine ⟨fun r e he => unchanged_ask h.sound he, ?_, ?_⟩
  · intro bindings s r e hmem hv
    exact ask_reconfigure_refused hmem hv
  · intro c new cause network hread hmasks ho hmove hl
    exact ask_updateProfile_refused hread hmasks ho hmove hl

/-- The lab, where every channel is gone. -/
def vacated : Station Narrow Unit where
  exchange := lab.run [.reconfigure []]
  protocol := echo

/-- A call on a channel that is gone is refused, and nothing is left of it. -/
theorem ask_refused_vacated :
    let lamp : Channel := ⟨0, 1, ⟨"lamp", "*", .outbound⟩, .endpoint (.of (.v4 .unspecified) 9)⟩
    (vacated.exchange.Reachable ∧
      (vacated.ask (.call lamp [1])).1 = .error (.unknownChannel lamp.id)) ∧
        Unchanged vacated (vacated.ask (.call lamp [1])).2 := by
  intro lamp
  have hreached : vacated.exchange.Reachable := reachable_lab.run _
  have hrefused : (vacated.ask (.call lamp [1])).1 = .error (.unknownChannel lamp.id) := by
    decide +kernel
  exact ⟨⟨hreached, hrefused⟩, (ask_refused hreached).1 _ _ hrefused⟩

end Station

end Switchboard
