import Switchboard.Proofs.Calls.Turns
import Switchboard.Proofs.Narrow
import Mathlib.Data.List.Induction

/-!
# Responders

A channel that awaits a reply is the *responder* of its socket, and what is read there is taken for
its reply.  A write with a call goes out only while no other channel on its socket waits, and what
moves the channels of a socket moves all of them, so one would expect that a socket never has two
responders.

It may have two (`not_oneResponder`): a change of the transport closes the outbound sockets under
their channels without ending the calls, and afterwards two channels that were apart may come
together on a new socket.  There is no other way.  Of two channels on one socket that both await a
reply, one has awaited it ever since a change of the transport took its socket away
(`responders_eq_or_uprooted`).
-/

namespace Switchboard.Exchange

open Net Settings Relation Directory Outline

variable {ν : Type} {x y : Exchange ν}

/-- **At most one channel on each socket awaits a reply.** -/
def OneResponder (x : Exchange ν) : Prop :=
  ∀ id, ∀ c ∈ x.directory.onSocket id, ∀ c' ∈ x.directory.onSocket id,
    x.directory.isAwaiting c = true → x.directory.isAwaiting c' = true → c = c'

/-- The transport changed while the channel awaited a reply on a socket other than the listener. -/
def Uproots (x y : Exchange ν) (c : Channel) : Prop :=
  y.profile.transport ≠ x.profile.transport ∧ x.directory.isAwaiting c = true ∧
    ∃ e ∈ x.directory.entries, e.channel = c ∧ e.socket ≠ x.listener

/-! ### Two responders -/

/-- A new exchange for datagrams, over a narrow network, whose channels share no sockets. -/
def depot : Exchange Narrow :=
  { name := "depot", profile := { sharing := { item := false, binding := false } }
    network := { room := 9 } }

/-- An outbound channel of the depot. -/
def bulb : Channel :=
  ⟨0, 0, ⟨"bulb", "*", .outbound⟩, .endpoint (.of (.v4 .unspecified) 9)⟩

/-- Another one to the same remote. -/
def vent : Channel :=
  ⟨0, 1, ⟨"vent", "*", .outbound⟩, bulb.remote⟩

/-- Both channels write and wait, each on a socket of its own.  Then the depot turns to connections,
and its channels may share them. -/
def crowding : List (Operation Narrow) := [
  .bind bulb.subject bulb.remote, .bind vent.subject vent.remote, .openUp,
  .beginCall bulb, .enqueue bulb [0x3F] (some 1), .beginCall vent, .enqueue vent [0x3F] (some 1),
  .poll, .updateProfile ⟨.table [("transport_type", .text "tcp")]⟩, .ensureSocket bulb]

/-- Both channels wait on the same connection now. -/
theorem two_on_connection : let x := depot.run crowding
    (x.directory.onSocket 1004 = [bulb, vent] ∧ x.directory.isAwaiting bulb = true) ∧
      x.directory.isAwaiting vent = true := by
  decide +kernel

/-- **A socket may have two responders.** -/
theorem not_oneResponder :
    (depot.run crowding).Reachable ∧ ¬ (depot.run crowding).OneResponder := by
  obtain ⟨⟨hon, hbulb⟩, hvent⟩ := two_on_connection
  refine ⟨⟨"depot", depot.profile, depot.network, depot, crowding, rfl, rfl⟩, fun h => ?_⟩
  have heq := h 1004 bulb (by simp [hon]) vent (by simp [hon]) hbulb hvent
  exact absurd heq (by decide)

/-! ### Shifts and turns -/

/-- **Whoever awaits a reply has a socket, and nobody else on it awaits one.**  Some channels are
excused. -/
structure Responding (excused : Channel → Prop) (x : Exchange ν) : Prop where
  linked : ∀ e ∈ x.directory.entries, x.directory.isAwaiting e.channel = true →
    ¬ excused e.channel → e.socket ≠ none
  alone : ∀ e ∈ x.directory.entries, ∀ e' ∈ x.directory.entries,
    x.directory.isAwaiting e.channel = true → x.directory.isAwaiting e'.channel = true →
      ¬ excused e.channel → ¬ excused e'.channel → e.socket = e'.socket → e.channel = e'.channel

variable {excused : Channel → Prop}

theorem Responding.mono (h : Responding excused x) {excused' : Channel → Prop}
    (hsub : ∀ c, x.directory.isAwaiting c = true → excused c → excused' c) :
    Responding excused' x where
  linked e he ha hu := h.linked e he ha fun hex => hu (hsub _ ha hex)
  alone e he e' he' ha ha' hu hu' :=
    h.alone e he e' he' ha ha' (fun hex => hu (hsub _ ha hex)) fun hex => hu' (hsub _ ha' hex)

/-- Who awaits a reply after a shift was there before, and awaited it. -/
theorem Shift.exists_awaiting (hxy : Shift x y) {e' : Entry} (he' : e' ∈ y.directory.entries)
    (ha : y.directory.isAwaiting e'.channel = true) :
    ∃ e ∈ x.directory.entries, e'.channel = e.channel ∧
      x.directory.isAwaiting e.channel = true := by
  have hbefore := hxy.calls.isAwaiting ha
  rcases hxy.grows.channels e' he' with ⟨e, he, hc⟩ | hnew
  · exact ⟨e, he, hc.symm, hc ▸ hbefore⟩
  · obtain ⟨g, hg⟩ := isAwaiting_iff.mp hbefore
    rw [call_of_unmade hnew] at hg
    exact nomatch hg

/-- **A shift excuses whom it uproots,** and brings no two responders together beside them. -/
theorem Responding.shift (h : Responding excused x) (hs : x.outline.Sound) (hxy : Shift x y) :
    Responding (fun c => excused c ∨ Uproots x y c) y := by
  have hstays : ∀ e' ∈ y.directory.entries, y.directory.isAwaiting e'.channel = true →
      ¬ (excused e'.channel ∨ Uproots x y e'.channel) →
        ∃ e ∈ x.directory.entries, e'.channel = e.channel ∧
          x.directory.isAwaiting e.channel = true ∧ ¬ excused e.channel ∧
            ∃ i, e.socket = some i ∧ e'.socket ≠ none := by
    intro e' he' ha hu
    obtain ⟨e, he, hc, hbefore⟩ := hxy.exists_awaiting he' ha
    rw [hc] at hu
    have hex : ¬ excused e.channel := fun hex => hu (.inl hex)
    obtain ⟨i, hi⟩ := Option.ne_none_iff_exists'.mp (h.linked e he hbefore hex)
    refine ⟨e, he, hc, hbefore, hex, i, hi, fun hnone => ?_⟩
    rcases hxy.links.anchored e he e' he' hc i hi hnone with hclosed | ⟨ht, hl⟩
    · -- An exchange that closed has ended all calls, and one that was closed had no sockets.
      cases ho : x.isOpen with
      | true =>
        rw [hc, hxy.shut ho hclosed e he] at ha
        exact nomatch ha
      | false =>
        obtain ⟨n, hn, -⟩ := hs.linked e he i hi
        rw [(hs.closed ho).1] at hn
        exact nomatch hn
    · exact hu (.inr ⟨ht, hbefore, e, he, rfl, fun heq => hl (heq.symm.trans hi)⟩)
  constructor
  · intro e' he' ha hu
    obtain ⟨-, -, -, -, -, -, -, hsome⟩ := hstays e' he' ha hu
    exact hsome
  · intro e₁' he₁' e₂' he₂' ha₁ ha₂ hu₁ hu₂ hsame
    obtain ⟨e₁, he₁, hc₁, hb₁, hex₁, i₁, hi₁, hsome⟩ := hstays e₁' he₁' ha₁ hu₁
    obtain ⟨e₂, he₂, hc₂, hb₂, hex₂, i₂, hi₂, -⟩ := hstays e₂' he₂' ha₂ hu₂
    obtain ⟨j, hj⟩ := Option.ne_none_iff_exists'.mp hsome
    have heq := hxy.links.apart e₁ he₁ e₁' he₁' hc₁ e₂ he₂ e₂' he₂' hc₂ i₁ i₂ j hi₁ hi₂ hj
      (hsame.symm.trans hj)
    rw [hc₁, hc₂]
    exact h.alone e₁ he₁ e₂ he₂ hb₁ hb₂ hex₁ hex₂ (hi₁.trans ((congrArg some heq).trans hi₂.symm))

theorem Responding.turn (h : Responding excused x) (hs : x.outline.Sound) (hxy : Turn x y) :
    Responding (fun c => excused c ∨ Uproots x y c) y := by
  have hsub : ∀ y : Exchange ν, ∀ c, y.directory.isAwaiting c = true → excused c →
      excused c ∨ Uproots x y c := fun _ _ _ => .inl
  cases hxy with
  | shift hxy => exact h.shift hs hxy
  | @marked outbox e id n far w g count hreach hfree hw hg hlast =>
    refine Responding.mono ?_ (hsub _)
    have hentries : (x.directory.modifyCall e.channel (·.markSent g)).entries =
        x.directory.entries := entries_modifyCall _ _ _
    -- Only the channel of the write begins to await a reply.
    have hone : ∀ e' ∈ x.directory.entries, (x.directory.modifyCall e.channel
        (·.markSent g)).isAwaiting e'.channel = true →
          e' = e ∨ x.directory.isAwaiting e'.channel = true := by
      intro e' he' ha
      by_cases heq : e' = e
      · exact .inl heq
      · obtain ⟨g', hg'⟩ := isAwaiting_iff.mp ha
        rw [call_modifyCall, if_neg] at hg'
        · exact .inr (isAwaiting_iff.mpr ⟨g', hg'⟩)
        · rintro ⟨-, -, hid⟩
          exact heq (hs.numbered.eq_of_id_eq he' hreach.entry hid)
    have hsocket : e.socket ≠ none := by
      rcases hreach.serves with ⟨-, hlink⟩ | ⟨-, l, -, hlink⟩ <;> rw [hlink] <;> simp
    constructor
    · intro e' he' ha hu
      replace he' : e' ∈ x.directory.entries := hentries ▸ he'
      rcases hone e' he' ha with rfl | ha
      · exact hsocket
      · exact h.linked e' he' ha hu
    · intro e₁ he₁ e₂ he₂ ha₁ ha₂ hu₁ hu₂ hsame
      replace he₁ : e₁ ∈ x.directory.entries := hentries ▸ he₁
      replace he₂ : e₂ ∈ x.directory.entries := hentries ▸ he₂
      rcases hone e₁ he₁ ha₁ with rfl | hb₁ <;> rcases hone e₂ he₂ ha₂ with rfl | hb₂
      · rfl
      · rw [hfree e₂ he₂ hsame.symm] at hb₂
        exact nomatch hb₂
      · rw [hfree e₁ he₁ hsame] at hb₁
        exact nomatch hb₁
      · exact h.alone e₁ he₁ e₂ he₂ hb₁ hb₂ hu₁ hu₂ hsame
  | @answered e id n far g data hreach hawaiting =>
    refine Responding.mono ?_ (hsub _)
    have hentries : (x.directory.modifyCall e.channel fun b => (b.fulfil data).2).entries =
        x.directory.entries := entries_modifyCall _ _ _
    have hless : ∀ c, (x.directory.modifyCall e.channel fun b => (b.fulfil data).2).isAwaiting c =
        true → x.directory.isAwaiting c = true := by
      intro c ha
      obtain ⟨g', hg'⟩ := isAwaiting_iff.mp ha
      rw [call_modifyCall] at hg'
      split_ifs at hg' with hc
      · rw [x.directory.call_congr hc.2.1 hc.2.2] at hg'
        unfold CallBox.fulfil at hg'
        rw [hawaiting] at hg'
        exact nomatch hg'
      · exact isAwaiting_iff.mpr ⟨g', hg'⟩
    constructor
    · intro e' he' ha
      exact h.linked e' (hentries ▸ he') (hless _ ha)
    · intro e₁ he₁ e₂ he₂ ha₁ ha₂
      exact h.alone e₁ (hentries ▸ he₁) e₂ (hentries ▸ he₂) (hless _ ha₁) (hless _ ha₂)

/-- Where the transport stays, nobody is uprooted. -/
theorem not_uproots (hp : y.profile = x.profile) (c : Channel) : ¬ Uproots x y c :=
  fun hu => hu.1 (congrArg Profile.transport hp)

theorem Responding.steady (h : Responding (fun c => excused c ∨ Uproots x y c) y)
    (hp : y.profile = x.profile) : Responding excused y :=
  h.mono fun c _ hex => hex.resolve_right (not_uproots hp c)

theorem Responding.steadyTurns (h : Responding excused x) (hs : x.outline.Sound)
    (hxy : ReflTransGen SteadyTurn x y) : Responding excused y ∧ y.outline.Sound := by
  induction hxy with
  | refl => exact ⟨h, hs⟩
  | tail _ hstep ih =>
    exact ⟨(ih.1.turn ih.2 hstep.turn).steady hstep.profile, hstep.regular.sound⟩

/-! ### Operations and runs -/

variable [Network ν]

/-- **An operation excuses whom it uproots.** -/
theorem Responding.apply (h : Responding excused x) (hr : x.outline.Regular)
    (hset : x.outline.Settled) (op : Operation ν) :
    Responding (fun c => excused c ∨ Uproots x (x.apply op) c) (x.apply op) := by
  rcases turns_apply hr hset op with hshift | hturns
  · exact h.shift hr.sound hshift
  · exact (h.steadyTurns hr.sound hturns).1.mono fun _ _ => .inl

/-- The channel was uprooted in the run, and has awaited its reply ever since. -/
def Uprooted (x : Exchange ν) (ops : List (Operation ν)) (c : Channel) : Prop :=
  ∃ before op after, ops = before ++ op :: after ∧
    Uproots (x.run before) ((x.run before).apply op) c ∧
      ∀ mid, mid <+: after → (x.run (before ++ op :: mid)).directory.isAwaiting c = true

/-- Who is uprooted stays so as long as it awaits its reply. -/
theorem Uprooted.snoc {ops : List (Operation ν)} {op : Operation ν} {c : Channel}
    (h : x.Uprooted ops c ∨ Uproots (x.run ops) ((x.run ops).apply op) c)
    (ha : ((x.run ops).apply op).directory.isAwaiting c = true) : x.Uprooted (ops ++ [op]) c := by
  change EverSince (Uproots · · c) (·.directory.isAwaiting c = true) x (ops ++ [op])
  exact EverSince.snoc h ha

theorem responding_run (hr : x.outline.Regular) (hset : x.outline.Settled)
    (h : Responding (fun _ => False) x) (ops : List (Operation ν)) :
    Responding (x.Uprooted ops) (x.run ops) := by
  induction ops using List.reverseRecOn with
  | nil => exact h.mono fun _ _ => False.elim
  | append_singleton ops op ih =>
    obtain ⟨hregular, hsettled⟩ := hr.moves hset (moves_run hr.sound ops)
    rw [run_snoc]
    exact (ih.apply hregular hsettled op).mono fun c ha hu => Uprooted.snoc hu ha

/-- **Two channels on one socket that both await a reply are one and the same, or one of them was
uprooted:** it has awaited its reply ever since a change of the transport took its socket away. -/
theorem responders_eq_or_uprooted {name : String} {profile : Profile} {network : ν}
    (hx : create name profile network = .ok x) (ops : List (Operation ν)) :
    let y := x.run ops
    ∀ id, ∀ c ∈ y.directory.onSocket id, ∀ c' ∈ y.directory.onSocket id,
      y.directory.isAwaiting c = true → y.directory.isAwaiting c' = true →
        c = c' ∨ x.Uprooted ops c ∨ x.Uprooted ops c' := by
  intro y id c hc c' hc' ha ha'
  have hempty : ∀ e, e ∉ x.directory.entries := by
    intro e he
    have he' : e ∈ x.outline.entries := he
    rw [outline_create hx] at he'
    exact nomatch he'
  have hstart : Responding (fun _ => False) x :=
    ⟨fun e he => absurd he (hempty e), fun e he => absurd he (hempty e)⟩
  have hend := responding_run (regular_create hx) (ordered_create hx).2 hstart ops
  obtain ⟨e, he, hlink, rfl⟩ := mem_onSocket.mp hc
  obtain ⟨e', he', hlink', rfl⟩ := mem_onSocket.mp hc'
  by_contra hnot
  obtain ⟨hne, hnot⟩ := not_or.mp hnot
  obtain ⟨hu, hu'⟩ := not_or.mp hnot
  exact hne (hend.alone e he e' he' ha ha' hu hu' (hlink.trans hlink'.symm))

/-- In the depot, one of the two was uprooted. -/
theorem responders_eq_or_uprooted_depot :
    create depot.name depot.profile depot.network = .ok depot ∧
      (depot.run crowding).directory.onSocket 1004 = [bulb, vent] ∧
        (depot.Uprooted crowding bulb ∨ depot.Uprooted crowding vent) := by
  obtain ⟨⟨hon, hbulb⟩, hvent⟩ := two_on_connection
  have hcreate : create depot.name depot.profile depot.network = .ok depot := rfl
  have heither := responders_eq_or_uprooted hcreate crowding 1004 bulb (by simp [hon]) vent
    (by simp [hon]) hbulb hvent
  exact ⟨hcreate, hon, heither.resolve_left (by decide)⟩

end Switchboard.Exchange
