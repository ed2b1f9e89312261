import Switchboard.Proofs.Undisturbed
import Switchboard.Proofs.Outline.LinksKept
import Switchboard.Proofs.Narrow
import Mathlib.Data.List.Induction

/-!
# Who has no socket

An inbound channel of an open exchange gets a socket when it is made, or when the exchange opens,
and whatever takes a socket away from its channels puts another one in its place.  So one would
expect that no inbound channel of an open exchange is ever without a socket.

Some may be (`not_inboundLinked`): a change of the transport closes the outbound sockets, and a
channel that shared one of them is *cut off*.  An outbound channel gets another socket when it is
next written to, but what is sent to an inbound one may never come.

There is no other way.  Whoever has no socket after an operation had none before, is a new outbound
channel, or was cut off in it (`looseEnds_apply`).  So an inbound channel of an open exchange is
linked, or was cut off and has been without a socket ever since (`linked_or_cutOff`).
-/

namespace Switchboard.Exchange

open Net Settings Relation Directory Outline

variable {ν : Type} {x y z : Exchange ν}

/-- **Every inbound channel has a socket,** if the exchange is open. -/
def InboundLinked (x : Exchange ν) : Prop :=
  x.isOpen = true → ∀ c ∈ x.directory.channels, c.direction = .inbound →
    x.directory.socketOf c.id ≠ none

/-- The transport changed while the channel was on a socket other than the listener. -/
def CutsOff (x y : Exchange ν) (c : Channel) : Prop :=
  y.profile.transport ≠ x.profile.transport ∧
    ∃ e ∈ x.directory.entries, e.channel = c ∧ ∃ i, e.socket = some i ∧ x.listener ≠ some i

/-- **Who has no socket** in the open exchange had none before, is a new outbound channel, or was
cut off. -/
def LooseEnds (x y : Exchange ν) : Prop :=
  y.isOpen = true → ∀ e ∈ y.directory.entries, e.socket = none →
    x.isOpen = true ∧ e ∈ x.directory.entries ∨
      (e.channel.direction = .outbound ∧ (x.isOpen = true → ¬ x.directory.Keeps e.channel)) ∨
        CutsOff x y e.channel

/-! ### An inbound channel without a socket -/

/-- A new exchange for datagrams, over a narrow network, whose inbound channels may share the
sockets of outbound ones. -/
def pier : Exchange Narrow :=
  { name := "pier", profile := { sharing := { directions := true, masks := false } }, network := {} }

/-- An outbound channel of the pier. -/
def ferry : Channel :=
  ⟨0, 0, ⟨"ferry", "*", .outbound⟩, .endpoint (.of (.v4 .unspecified) 9)⟩

/-- An inbound channel of the same item, from the same remote. -/
def buoy : Channel :=
  ⟨0, 1, ⟨"ferry", "*", .inbound⟩, ferry.remote⟩

/-- The inbound channel comes to the socket of the outbound one.  Then the pier turns to
connections. -/
def casting : List (Operation Narrow) := [
  .openUp, .bind ferry.subject ferry.remote, .ensureSocket ferry, .bind buoy.subject buoy.remote,
  .updateProfile ⟨.table [("transport_type", .text "tcp")]⟩]

/-- The pier is open, and the inbound channel has no socket. -/
theorem adrift : let x := pier.run casting
    (x.isOpen = true ∧ x.directory.channels = [ferry, buoy]) ∧
      x.directory.socketOf buoy.id = none := by
  decide +kernel

/-- **An inbound channel of an open exchange may be without a socket.** -/
theorem not_inboundLinked :
    (pier.run casting).Reachable ∧ ¬ (pier.run casting).InboundLinked := by
  obtain ⟨⟨ho, hchannels⟩, hnone⟩ := adrift
  refine ⟨⟨"pier", pier.profile, pier.network, pier, casting, rfl, rfl⟩, fun h => ?_⟩
  exact h ho buoy (by simp [hchannels]) rfl hnone

/-! ### Operations that take no socket away -/

/-- Where channels come, and then perhaps some go. -/
theorem Enlarged.looseEnds (h : Enlarged x y) (ho : z.isOpen = y.isOpen)
    (hsub : ∀ e ∈ z.directory.entries, e ∈ y.directory.entries) : LooseEnds x z := by
  intro hopen e he hnone
  have hy : y.isOpen = true := ho ▸ hopen
  rcases h.moored hy e (hsub e he) hnone with hold | ⟨hd, hnew⟩
  · exact .inl ⟨h.isOpen ▸ hy, hold⟩
  · exact .inr (.inl ⟨hd, fun _ => hnew⟩)

theorem Undisturbed.looseEnds (h : Undisturbed x y) : LooseEnds x y :=
  h.enlarged.looseEnds rfl fun _ => id

/-- Where nothing about links changes. -/
theorem LooseEnds.of_same (ho : y.isOpen = x.isOpen)
    (he : y.directory.entries = x.directory.entries) : LooseEnds x y :=
  (Undisturbed.refl x).enlarged.looseEnds ho fun _ h => he ▸ h

theorem looseEnds_armPending (h : LooseEnds x y) : LooseEnds x y.armPending := by
  obtain ⟨sockets, outbox, heq⟩ := armPending_eq y
  rw [heq]
  exact h

variable [Network ν]

theorem looseEnds_reconfigure (h : x.outline.Sound) (bindings : List (Subject × Remote)) :
    LooseEnds x (x.reconfigure bindings).2 := by
  have hbind := Enlarged.bindAll h bindings
  unfold reconfigure
  split
  · exact (Undisturbed.refl x).looseEnds
  · split <;> rename_i y heq <;> rw [heq] at hbind
    · exact hbind.looseEnds rfl fun _ => id
    · have hretain := outline_retain (ν := ν)
      refine hbind.looseEnds (congrArg Outline.isOpen (hretain _ y)) fun e he => ?_
      have he' : e ∈ (y.retain _).outline.entries := he
      rw [hretain] at he'
      exact (List.mem_filter.mp he').1

theorem looseEnds_poll (h : x.outline.Sound) : LooseEnds x x.poll.2 := by
  obtain ⟨-, heq⟩ | ⟨-, y, hpass, heq⟩ := poll_cases x
  · rw [heq]
    exact (Undisturbed.refl x).looseEnds
  · rw [heq]
    obtain ⟨hentries, -, ho⟩ := entries_passMoves (passMoves_passSteps h hpass)
    have hpassed : LooseEnds x y := .of_same ho hentries
    exact looseEnds_armPending hpassed

/-! ### The listener that moves -/

/-- Moving the listener brings no channel and lets none go. -/
theorem exists_of_mem_moveListener (h : x.outline.Sound) (ho : x.isOpen = true)
    (p : Profile) (ownEnd : Endpoint) {e : Entry}
    (he : e ∈ (x.moveListener p ownEnd).directory.entries) :
    ∃ e₀ ∈ x.directory.entries, e₀.channel = e.channel ∧ (e₀.socket = none → e.socket = none) := by
  obtain ⟨l, hl⟩ := Option.ne_none_iff_exists'.mp (h.opened ho)
  obtain ⟨next, -, heq⟩ := outline_moveListener p ownEnd x
  have he' : e ∈ (x.moveListener p ownEnd).outline.entries := he
  rw [heq, rebind_eq hl] at he'
  split_ifs at he'
  · obtain ⟨e₁, he₁, rfl⟩ := List.mem_map.mp he'
    obtain ⟨e₀, he₀, rfl⟩ := List.mem_map.mp he₁
    refine ⟨e₀, he₀, by rw [channel_detachEntry, channel_relinkEntry], fun hnone => ?_⟩
    rw [socket_detachEntry, socket_relinkEntry, hnone]
    simp
  · obtain ⟨e₀, he₀, rfl⟩ := List.mem_map.mp he'
    refine ⟨e₀, he₀, by rw [channel_relinkEntry], fun hnone => ?_⟩
    rw [socket_relinkEntry, hnone]
    simp

/-- **Moving the listener cuts off** those who were on other sockets, if the transport changes. -/
theorem looseEnds_moveListener (h : x.outline.Sound) (ho : x.isOpen = true) (p : Profile)
    (ownEnd : Endpoint) : LooseEnds x (x.moveListener p ownEnd) := by
  have hmove := move_moveListener p ownEnd ho
  intro hopen e he hnone
  obtain ⟨e₀, he₀, hc, -⟩ := exists_of_mem_moveListener h ho p ownEnd he
  cases hs : e₀.socket with
  | none =>
    have heq : e₀ = e := by
      obtain ⟨channel, socket⟩ := e
      obtain ⟨channel₀, socket₀⟩ := e₀
      exact congr (congrArg Entry.mk hc) (hs.trans hnone.symm)
    exact .inl ⟨ho, heq ▸ he₀⟩
  | some i =>
    have hanchored := (linksKept_move h hmove).anchored e₀ he₀ e he hc.symm i hs hnone
    rcases hanchored with hclosed | ⟨ht, hl⟩
    · exact nomatch hopen.symm.trans hclosed
    · exact .inr (.inr ⟨ht, e₀, he₀, hc, i, hs, hl⟩)

theorem looseEnds_updateProfile (h : x.outline.Sound) (c : Configuration) :
    LooseEnds x (x.updateProfile c).2 := by
  obtain ⟨network, heq⟩ | ⟨p, -, -, ⟨-, heq⟩ | ⟨ho, ownEnd, network, heq⟩⟩ := updateProfile_eq c x
  · rw [heq]
    exact .of_same rfl rfl
  · rw [heq]
    exact .of_same rfl rfl
  · rw [heq]
    exact looseEnds_moveListener (x := { x with network }) h ho p ownEnd

/-! ### Opening -/

/-- Whoever was to get a socket has one. -/
theorem socket_attachWaiting (cs : List Channel) (h : x.outline.Sound) (ho : x.isOpen = true)
    (hcs : ∀ c ∈ cs, c ∈ x.directory.channels) {e : Entry}
    (he : e ∈ (attachWaiting cs x).2.directory.entries) (hc : e.channel ∈ cs)
    (hd : e.channel.direction = .inbound) : e.socket ≠ none := by
  induction cs generalizing x with
  | nil => exact nomatch hc
  | cons c cs ih =>
    intro hnone
    have hin := hcs c List.mem_cons_self
    have hrest : ∀ y, Attached x y → e ∈ (attachWaiting cs y).2.directory.entries →
        e.channel ∈ cs → False := fun y hy he hc =>
      ih (h.moves (moves_steps h (SteadySteps.steps hy.steady))) (hy.isOpen.trans ho)
        (fun c' hc' => hy.channels ▸ hcs c' (List.mem_cons_of_mem c hc')) he hc hnone
    unfold attachWaiting at he
    split_ifs at he with hwait
    · have hattach := attached_attachInbound ho hin (waits_of_mem hin hwait.2) hwait.1
      obtain ⟨id, heq⟩ := attachInbound_eq (c := c) (h.opened ho)
      rw [heq] at he hattach
      rcases List.mem_cons.mp hc with rfl | hc
      · -- The channel got a socket, and nobody took it away.
        have hmem := (Undisturbed.attachWaiting cs _).moored e he hnone
        obtain ⟨e₀, he₀, hc₀⟩ := List.mem_map.mp hin
        exact socket_join (hc₀ ▸ channel?_ne_none he₀) hmem rfl hnone
      · exact hrest _ hattach he hc
    · rcases List.mem_cons.mp hc with rfl | hc
      · -- The channel had a socket before.
        have hmem := (Undisturbed.attachWaiting cs x).moored e he hnone
        exact hwait ⟨hd, (socketOf_of_mem h.numbered hmem).trans hnone⟩
      · exact hrest x (.refl x) he hc

theorem looseEnds_openUp (h : x.outline.Sound) : LooseEnds x x.openUp.2 := by
  unfold openUp
  split_ifs with hopen
  · exact (Undisturbed.refl x).looseEnds
  · obtain ⟨e, network, heq⟩ | ⟨ownEnd, network, heq⟩ := openListener_cases { x with isOpen := true }
    · rw [heq]
      exact fun ho => nomatch ho
    · rw [heq]
      intro _ e he hnone
      have hmove := move_opened (x := { x with network }) ownEnd (eq_false_of_ne_true hopen)
      have hsound := Sound.move (o := ({ x with network } : Exchange ν).outline) h hmove
      -- The exchange was closed, so what is left without a socket is outbound.
      refine .inr (.inl ⟨?_, fun ho => absurd ho hopen⟩)
      cases hd : e.channel.direction with
      | outbound => rfl
      | inbound =>
        refine absurd hnone (socket_attachWaiting _ hsound rfl (fun _ => id) he ?_ hd)
        rw [← (Undisturbed.attachWaiting _ _).channels]
        exact List.mem_map_of_mem he

/-! ### Operations and runs -/

/-- **Whoever has no socket after an operation** had none before, is a new outbound channel, or was
cut off in it. -/
theorem looseEnds_apply (h : x.outline.Sound) (op : Operation ν) : LooseEnds x (x.apply op) := by
  have hsame : ∀ y : Exchange ν, y.isOpen = x.isOpen → y.directory = x.directory → LooseEnds x y :=
    fun y ho hd => .of_same ho (by rw [hd])
  have hcall : ∀ c f, LooseEnds x (x.onDirectory (·.modifyCall c f)) :=
    fun c f => .of_same rfl (entries_modifyCall ..)
  cases op with
  | openUp => exact looseEnds_openUp h
  | deactivate =>
    intro ho
    exact nomatch ho.symm.trans (isOpen_deactivate x)
  | updateProfile c => exact looseEnds_updateProfile h c
  | bind s r => exact (Enlarged.bind h.opened s r).looseEnds rfl fun _ => id
  | reconfigure bindings => exact looseEnds_reconfigure h bindings
  | ensureSocket c => exact (Undisturbed.ensureSocket c x).looseEnds
  | enqueue c data call =>
    rcases enqueue_cases c data call x with ⟨-, h⟩ | ⟨y, -, hxy, -, -, -, h⟩
    · exact h.looseEnds
    · intro ho e he hnone
      have hopen : x.isOpen = true := (h.isOpen.trans hxy.isOpen).symm.trans ho
      exact .inl ⟨hopen, hxy.moored e (h.moored e he hnone) hnone⟩
  | beginCall c =>
    change LooseEnds x (x.beginCall c).2
    unfold beginCall
    split
    · exact hsame _ rfl rfl
    · exact hcall c _
  | collect c g => exact hcall c _
  | finishCall c g => exact hcall c _
  | armPending => exact looseEnds_armPending (hsame x rfl rfl)
  | takeAnnouncements => exact hsame _ rfl rfl
  | poll => exact looseEnds_poll h
  | runDueRetries => exact looseEnds_armPending (Undisturbed.retryDue x).looseEnds
  | reportFault id => exact (Undisturbed.reportFault id x).looseEnds
  | elapse ms => exact hsame _ rfl rfl
  | world network => exact hsame _ rfl rfl

/-- **The channel was cut off in the run,** and has been without a socket ever since. -/
def CutOff (x : Exchange ν) (ops : List (Operation ν)) (c : Channel) : Prop :=
  EverSince (CutsOff · · c) (·.directory.Waits c.id) x ops

/-- An inbound channel without a socket was cut off. -/
theorem cutOff_of_inbound (h : x.outline.Sound) (hx : x.isOpen = false)
    (ops : List (Operation ν)) (ho : (x.run ops).isOpen = true) :
    ∀ e ∈ (x.run ops).directory.entries, e.channel.direction = .inbound → e.socket = none →
      x.CutOff ops e.channel := by
  induction ops using List.reverseRecOn with
  | nil => exact nomatch ho.symm.trans hx
  | append_singleton ops op ih =>
    intro e he hd hnone
    have hsound := h.moves (moves_run h ops)
    rw [run_snoc] at ho he
    have hnow : ((x.run ops).apply op).directory.Waits e.channel.id := ⟨e, he, rfl, hnone⟩
    rcases looseEnds_apply hsound op ho e he hnone with ⟨hopen, hold⟩ | ⟨hout, -⟩ | hcut
    · exact EverSince.snoc (.inl (ih hopen e hold hd hnone)) hnow
    · exact nomatch hd.symm.trans hout
    · exact EverSince.snoc (.inr hcut) hnow

/-- **In an open exchange every inbound channel is linked,** to the listener or to an outbound
socket to its remote, or it was cut off and has been without a socket ever since. -/
theorem linked_or_cutOff {name : String} {profile : Profile} {network : ν}
    (hx : create name profile network = .ok x) (ops : List (Operation ν)) :
    let y := x.run ops
    y.isOpen = true → ∀ c ∈ y.directory.channels, c.direction = .inbound →
      (∃ id s, y.directory.socketOf c.id = some id ∧ y.sockets.find? id = some s ∧
        (y.listener = some id ∨
          s.role = .outbound ∧ ∃ far, s.farEnd = some far ∧ c.remote = .endpoint far)) ∨
        x.CutOff ops c := by
  intro y ho c hc hd
  have hstart := sound_create hx
  have hsound := hstart.moves (moves_run hstart ops)
  have hclosed : x.isOpen = false := congrArg Outline.isOpen (outline_create hx)
  obtain ⟨e, he, rfl⟩ := List.mem_map.mp hc
  cases hs : e.socket with
  | none => exact .inr (cutOff_of_inbound hstart hclosed ops ho e he hd hs)
  | some id =>
    obtain ⟨n, hn, hfits⟩ := hsound.linked e he id hs
    obtain ⟨s, hfind, rfl⟩ := find?_of_mem_natures hsound hn
    refine .inl ⟨id, s, (socketOf_of_mem hsound.numbered he).trans hs, hfind, ?_⟩
    exact hfits.imp_left fun hl => hsound.only _ hn hl.1

/-- At the pier, the inbound channel was cut off. -/
theorem linked_or_cutOff_pier :
    create pier.name pier.profile pier.network = .ok pier ∧
      (pier.run casting).isOpen = true ∧ pier.CutOff casting buoy := by
  obtain ⟨⟨ho, hchannels⟩, hnone⟩ := adrift
  have hcreate : create pier.name pier.profile pier.network = .ok pier := rfl
  have heither := linked_or_cutOff hcreate casting ho buoy (by simp [hchannels]) rfl
  refine ⟨hcreate, ho, heither.resolve_left ?_⟩
  rintro ⟨id, s, hsome, -⟩
  exact nomatch hnone.symm.trans hsome

end Switchboard.Exchange
