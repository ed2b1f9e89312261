import Switchboard.Proofs.Moorings
import Switchboard.Proofs.Roster
import Switchboard.Proofs.Supervision.Outcomes

/-!
# What a reconfiguration does

A reconfiguration first makes what is missing and then lets go of what is not asked for, so that what
comes may share a socket with what goes.  Here the two halves are told apart.  Binding the pairs one
after the other only adds (`Admits`): it leaves the sockets, the writes, the calls and the links that
there are alone.  Letting go is a filter on the channels, the sockets, the schedule and the outbox, and
all four are told by the pairs that were asked for (`Retains`).

Together they give what a reconfiguration comes to (`Reachable.reconfigured`).  Done once more it
finds every pair bound and nobody to let go, so it changes nothing at all.
-/

namespace Switchboard

open Net Settings Directory Outline

/-- Of the sockets whose numbers were drawn from a table by a test, none passes the test. -/
theorem Sockets.filter_not_idsWhere {t : Sockets} (hd : (t.map Prod.fst).Nodup)
    (p : SocketId → Socket → Bool) :
    (t.filter fun q => !(t.idsWhere p).contains q.1) = t.filter fun q => !p q.1 q.2 := by
  refine List.filter_congr fun q hq => congrArg not ?_
  rw [Bool.eq_iff_iff, List.contains_iff_mem, mem_idsWhere]
  constructor
  · rintro ⟨s, hs, hp⟩
    rw [← List.inj_on_of_nodup_map hd hs hq rfl]
    exact hp
  · exact fun hp => ⟨q.2, hq, hp⟩

theorem Sockets.has_filter (t : Sockets) (f : SocketId → Bool) (id : SocketId) :
    Sockets.has (t.filter fun q => f q.1) id = (t.has id && f id) := by
  rw [has, List.any_filter, Bool.eq_iff_iff, List.any_eq_true, Bool.and_eq_true, has_iff]
  constructor
  · rintro ⟨q, hq, htest⟩
    rw [Bool.and_eq_true, beq_iff_eq] at htest
    obtain ⟨hf, rfl⟩ := htest
    exact ⟨⟨q.2, hq⟩, hf⟩
  · rintro ⟨⟨s, hs⟩, hf⟩
    exact ⟨(id, s), hs, by simp [hf]⟩

namespace Exchange

variable {ν : Type} {x y z : Exchange ν} {bindings : List (Subject × Remote)}

/-! ### What comes -/

/-- **Channels came, and got sockets that there were.**  Nothing else happened. -/
structure Admits (x y : Exchange ν) : Prop where
  rest : y = { x with
    directory := y.directory
    announcements := y.announcements
    journal := y.journal }
  channels : x.directory.channels <+: y.directory.channels
  /-- Nobody lost a socket, or got another one. -/
  links : ∀ e ∈ x.directory.entries, e.socket ≠ none → e ∈ y.directory.entries
  status : ∀ c, y.directory.status c = x.directory.status c

namespace Admits

theorem refl (x : Exchange ν) : Admits x x :=
  ⟨rfl, List.prefix_refl _, fun _ he _ => he, fun _ => rfl⟩

theorem trans (h : Admits x y) (h' : Admits y z) : Admits x z where
  rest := by rw [h'.rest, h.rest]
  channels := h.channels.trans h'.channels
  links e he hs := h'.links e (h.links e he hs) hs
  status c := (h'.status c).trans (h.status c)

theorem append (s : Subject) (r : Remote) (x : Exchange ν) :
    Admits x { x with directory := (x.directory.append s r).2 } where
  rest := rfl
  channels := by
    rw [Directory.channels, Directory.channels, (gains_append s r x.directory).entries, List.map_append]
    exact List.prefix_append _ _
  links _ he _ := List.mem_append_left _ he
  status := status_append x.directory s r

/-- A channel without a socket joins one. -/
theorem join (hn : x.directory.core.Numbered) {c : Channel}
    (hc : { channel := c } ∈ x.directory.entries) (id : SocketId) : Admits x (x.join c id) := by
  obtain ⟨newcomers, heq⟩ := join_eq c id x
  rw [heq, announceAll_eq]
  refine ⟨rfl, (channels_link ..).symm ▸ List.prefix_refl _, fun e he hs => ?_,
    fun c' => status_link ..⟩
  obtain ⟨i, hi⟩ := Option.ne_none_iff_exists'.mp hs
  -- Siblings may come along, but only such as have no socket yet.
  have hsame := linkEntry_eq_self (o := x.outline) hn id x.profile.sharing hc he hi
  have hlinked : (x.directory.link c.id id x.profile.sharing x.listener).entries = _ :=
    congrArg Core.entries (core_link (knows_of_mem hn hc) id x.profile.sharing x.listener)
  change e ∈ (x.directory.link c.id id x.profile.sharing x.listener).entries
  rw [hlinked]
  exact List.mem_map.mpr ⟨e, he, hsame⟩

theorem bind (hn : x.directory.core.Numbered) (s : Subject) (r : Remote) :
    Admits x (x.bind s r).2 := by
  unfold Exchange.bind enrol
  cases vet s r x.profile.sharing.masks with
  | error e => exact refl x
  | ok u =>
    cases x.directory.bound? s r with
    | some c => exact refl x
    | none =>
      have hcame := append s r x
      have hnumbered : (x.directory.append s r).2.core.Numbered := by
        rw [core_append]
        exact hn.append rfl (List.length_map _).symm
      have hmem : ({ channel := (x.directory.append s r).1 } : Entry) ∈
          (x.directory.append s r).2.entries := List.mem_append_right _ (List.mem_singleton_self _)
      have hattach : Admits x (Exchange.attachInbound (x.directory.append s r).1
          { x with directory := (x.directory.append s r).2 }).2 := by
        unfold Exchange.attachInbound
        split
        · exact hcame
        · exact hcame.trans (join hnumbered hmem _)
      dsimp only
      split
      · split <;> rename_i heq <;> rw [heq] at hattach <;> exact hattach
      · exact hcame

variable [Network ν]

theorem bindAll (h : x.outline.Sound) (bindings : List (Subject × Remote)) :
    Admits x (x.bindAll bindings).2 := by
  induction bindings generalizing x with
  | nil => exact refl x
  | cons binding bindings ih =>
    obtain ⟨s, r⟩ := binding
    have hbind := bind h.numbered s r
    have hsteps := SteadySteps.steps (steady_bind s r x)
    unfold Exchange.bindAll
    split <;> rename_i y heq <;> rw [heq] at hbind hsteps
    · exact hbind
    · have hrest := ih (h.moves (moves_steps h hsteps))
      split <;> rename_i hall <;> rw [hall] at hrest <;> exact hbind.trans hrest

end Admits

/-- Who came to an open exchange to receive has a socket. -/
theorem Enlarged.socket_ne_none (h : Enlarged x y) (ho : y.isOpen = true) {e : Entry}
    (he : e ∈ y.directory.entries) (hnew : e.channel ∉ x.directory.channels)
    (hd : e.channel.direction = .inbound) : e.socket ≠ none := by
  intro hs
  rcases h.moored ho e he hs with hold | ⟨hout, -⟩
  · exact hnew (List.mem_map_of_mem hold)
  · rw [hd] at hout
    contradiction

/-- The channels that are given back are bound to the pairs, in their order. -/
theorem map_binding_bindAll {cs : List Channel} (hcs : (x.bindAll bindings).1 = .ok cs) :
    cs.map Channel.binding = bindings := by
  induction bindings generalizing x cs with
  | nil =>
    obtain rfl := Except.ok.inj hcs
    rfl
  | cons binding bindings ih =>
    obtain ⟨s, r⟩ := binding
    have hbind := fun c => mem_of_bind (x := x) (s := s) (r := r) (c := c)
    unfold bindAll at hcs
    split at hcs <;> rename_i heq <;> rw [heq] at hbind
    · exact nomatch hcs
    · split at hcs <;> rename_i hall
      · exact nomatch hcs
      · obtain rfl := Except.ok.inj hcs
        obtain ⟨-, hpair⟩ := hbind _ rfl
        rw [List.map_cons, ih (congrArg Prod.fst hall)]
        exact congrArg (· :: bindings) hpair

variable [Network ν]

/-- Whose number is among those that are to stay is told by the pairs. -/
theorem any_id_bindAll (h : x.outline.Sound) {cs : List Channel}
    (hcs : (x.bindAll bindings).1 = .ok cs) (hroster : (x.bindAll bindings).2.Roster) {c : Channel}
    (hc : c ∈ (x.bindAll bindings).2.directory.channels) :
    cs.any (·.id == c.id) = decide (c.binding ∈ bindings) := by
  have hthere : ∀ k ∈ cs, k ∈ (x.bindAll bindings).2.directory.channels :=
    fun k hk => (mem_of_bindAll h hcs hk).1
  rw [Bool.eq_iff_iff, List.any_eq_true, decide_eq_true_eq, ← map_binding_bindAll hcs, List.mem_map]
  refine exists_congr fun k => and_congr_right fun hk => ?_
  rw [beq_iff_eq]
  -- A number is that of one channel, and so is a pair.
  constructor
  · intro hid
    have hsame := List.inj_on_of_nodup_map (hroster.ascending.imp Nat.ne_of_lt) (hthere k hk) hc hid
    exact congrArg Channel.binding hsame
  · intro hpair
    exact congrArg Channel.id (List.inj_on_of_nodup_map hroster.distinct (hthere k hk) hc hpair)

/-! ### What goes -/

theorem sockets_discard (ids : List SocketId) (x : Exchange ν) :
    (x.discard ids).sockets = x.sockets.filter (!ids.contains ·.1) := by
  unfold discard
  induction ids generalizing x with
  | nil => simp
  | cons id ids ih =>
    rw [List.foldl_cons, ih, sockets_closeSocket]
    simp only [Sockets.erase, List.filter_filter, List.contains_cons, Bool.not_or, bne, Bool.and_comm]

theorem schedule_discard (ids : List SocketId) (x : Exchange ν) :
    (x.discard ids).schedule = x.schedule.filter (!ids.contains ·.socket) := by
  unfold discard
  induction ids generalizing x with
  | nil => simp
  | cons id ids ih =>
    obtain ⟨_, _, _, heq⟩ := closeSocket_eq id { x with schedule := x.schedule.cancel id }
    rw [List.foldl_cons, ih, heq]
    simp only [Schedule.cancel, List.filter_filter, List.contains_cons, Bool.not_or, bne,
      Bool.and_comm]

/-- **The channels that pass a test stay, and all that belongs to the others goes.** -/
structure Retains (p : Channel → Bool) (x y : Exchange ν) : Prop where
  rest : y = { x with
    directory := y.directory
    sockets := y.sockets
    schedule := y.schedule
    outbox := y.outbox
    journal := y.journal
    network := y.network }
  entries : y.directory.entries = x.directory.entries.filter fun e => p e.channel
  status : ∀ c ∈ x.directory.channels, y.directory.status c =
    if p c then x.directory.status c
    else { x.directory.status c with call := (x.directory.status c).call.cancel }
  /-- Of the outbound sockets, those stay that are still linked. -/
  sockets : y.sockets = x.sockets.filter fun s =>
    s.2.role != .outbound || y.directory.linkedSockets.contains s.1
  schedule : y.schedule = x.schedule.filter fun r => y.sockets.has r.socket
  outbox : y.outbox = x.outbox.keep fun w => p w.channel

omit [Network ν] in
theorem Retains.channels {p : Channel → Bool} (h : Retains p x y) :
    y.directory.channels = x.directory.channels.filter p := by
  rw [Directory.channels, h.entries, Directory.channels, List.filter_map]
  rfl

/-- The channels that a directory lets go. -/
theorem mem_keepOnly {d : Directory} {p : Channel → Bool} {c : Channel} :
    c ∈ (d.keepOnly p).1 ↔ c ∈ d.channels ∧ p c = false := by
  simp only [keepOnly, Directory.channels, List.mem_map, List.mem_filter, Bool.not_eq_true']
  constructor
  · rintro ⟨e, ⟨he, hp⟩, rfl⟩
    exact ⟨⟨e, he, rfl⟩, hp⟩
  · rintro ⟨⟨e, he, rfl⟩, hp⟩
    exact ⟨e, ⟨he, hp⟩, rfl⟩

/-- Ending the calls of the channels that a directory lets go. -/
theorem status_cancelCalls_keepOnly {d : Directory} (hn : d.core.Numbered) (p : Channel → Bool)
    {c : Channel} (hc : c ∈ d.channels) :
    ((d.keepOnly p).2.cancelCalls (d.keepOnly p).1).status c =
      if p c then d.status c else { d.status c with call := (d.status c).call.cancel } := by
  have hkeeps : ∀ c ∈ (d.keepOnly p).1, (d.keepOnly p).2.Keeps c := fun c hc => by
    obtain ⟨e, he, rfl⟩ := List.mem_map.mp (mem_keepOnly.mp hc).1
    exact keeps_of_mem hn he
  have hcancelled := status_foldl_modifyStatus
    (f := fun s => { s with call := s.call.cancel }) (fun _ => rfl) hkeeps c
  refine hcancelled.trans ?_
  cases hp : p c with
  | true =>
    refine if_neg ?_
    rintro ⟨c', hc', -, hid⟩
    obtain ⟨hmem, hp'⟩ := mem_keepOnly.mp hc'
    rw [hn.channel_eq hc hmem hid, hp'] at hp
    exact nomatch hp
  | false => exact if_pos ⟨c, mem_keepOnly.mpr ⟨hc, hp⟩, rfl, rfl⟩

/-- Of the writes of channels that are there, those of the channels that go are dropped. -/
theorem writes_dropRemoved {d : Directory} (hn : d.core.Numbered) (p : Channel → Bool) {o : Outbox}
    (howned : ∀ w ∈ o.writes, w.channel ∈ d.channels) :
    (d.keepOnly p).1.foldl (fun o c => o.dropChannel c.id) o = o.keep fun w => p w.channel := by
  rw [writes_foldl_dropChannel]
  refine congrArg (fun ws => { o with writes := ws }) (List.filter_congr fun w hw => ?_)
  rw [Bool.eq_iff_iff, Bool.not_eq_true', List.any_eq_false]
  constructor
  · intro hnone
    by_contra hp
    exact hnone _ (mem_keepOnly.mpr ⟨howned w hw, eq_false_of_ne_true hp⟩) (beq_self_eq_true _)
  · intro hp c hc hid
    obtain ⟨hmem, hp'⟩ := mem_keepOnly.mp hc
    rw [hn.channel_eq hmem (howned w hw) (beq_iff_eq.mp hid), hp] at hp'
    exact nomatch hp'

/-- **What letting channels go does.** -/
theorem retains_retain (h : x.outline.Sound) (howned : ∀ w ∈ x.outbox.writes, w.channel ∈
    x.directory.channels) (htracked : ∀ r ∈ x.schedule, x.sockets.has r.socket = true)
    (kept : List Channel) : Retains (fun c => kept.any (·.id == c.id)) x (x.retain kept) := by
  let p : Channel → Bool := fun c => kept.any (·.id == c.id)
  let before : Exchange ν := { x with directory := (x.directory.keepOnly p).2 }
  let test : SocketId → Socket → Bool := fun id s =>
    s.role == .outbound && !before.directory.linkedSockets.contains id
  have hdistinct : (x.sockets.map Prod.fst).Nodup := by
    rw [← Sockets.map_fst_natures]
    exact h.distinct
  let ids : List SocketId := before.sockets.idsWhere test
  obtain ⟨sockets, schedule, network, journal, hdiscard⟩ := discard_eq ids before
  have hsockets : sockets = x.sockets.filter (!ids.contains ·.1) :=
    (congrArg Exchange.sockets hdiscard).symm.trans (sockets_discard ids before)
  have hschedule : schedule = x.schedule.filter (!ids.contains ·.socket) :=
    (congrArg Exchange.schedule hdiscard).symm.trans (schedule_discard ids before)
  have hretain : x.retain kept = { before with
      sockets, schedule, network, journal
      outbox := (x.directory.keepOnly p).1.foldl (fun o c => o.dropChannel c.id) x.outbox
      directory := before.directory.cancelCalls (x.directory.keepOnly p).1 } := by
    have hparts : x.retain kept = { before.discard ids with
        outbox := (x.directory.keepOnly p).1.foldl (fun o c => o.dropChannel c.id)
          (before.discard ids).outbox
        directory := (before.discard ids).directory.cancelCalls (x.directory.keepOnly p).1 } := rfl
    rw [hparts, hdiscard]
  -- Ending calls comes last and touches no link, so the links are those by which sockets were closed.
  have hentries := entries_cancelCalls (x.directory.keepOnly p).1 before.directory
  rw [hretain]
  refine ⟨rfl, hentries, fun c hc => status_cancelCalls_keepOnly h.numbered p hc, ?_, ?_,
    writes_dropRemoved h.numbered p howned⟩
  · refine hsockets.trans ((Sockets.filter_not_idsWhere hdistinct test).trans ?_)
    simp only [test, Directory.linkedSockets, hentries, Bool.not_and, Bool.not_not, bne]
  · refine hschedule.trans (List.filter_congr fun r hr => ?_)
    dsimp only
    rw [hsockets, Sockets.has_filter x.sockets (!ids.contains ·), htracked r hr, Bool.true_and]

/-! ### Both together -/

/-- **What a reconfiguration does.** -/
structure Reconfigured (bindings : List (Subject × Remote)) (x y : Exchange ν) : Prop where
  /-- Every pair of the list is bound, and no other. -/
  bound : ∀ b, b ∈ y.directory.channels.map Channel.binding ↔ b ∈ bindings
  /-- No pair is bound twice. -/
  distinct : (y.directory.channels.map Channel.binding).Nodup
  /-- The channels that were there and are asked for are still there, before those that came. -/
  channels : ∃ came, y.directory.channels =
      x.directory.channels.filter (fun c => decide (c.binding ∈ bindings)) ++ came ∧
    ∀ c ∈ came, x.directory.statuses.length ≤ c.id
  /-- Who stays keeps its socket. -/
  links : ∀ c ∈ x.directory.channels, c.binding ∈ bindings → ∀ id,
    x.directory.socketOf c.id = some id → y.directory.socketOf c.id = some id
  /-- Who stays keeps its calls, its flag and its last sender.  Who goes loses its call. -/
  status : ∀ c ∈ x.directory.channels, y.directory.status c =
    if c.binding ∈ bindings then x.directory.status c
    else { x.directory.status c with call := (x.directory.status c).call.cancel }
  /-- The writes of those who stay are left, as they stood. -/
  outbox : y.outbox = x.outbox.keep fun w => decide (w.channel.binding ∈ bindings)
  /-- Who is not asked for is gone, with its writes and its call. -/
  dismissed : ∀ c ∈ x.directory.channels, c.binding ∉ bindings → c ∉ y.directory.channels ∧
    (∀ w ∈ y.outbox.writes, w.channel.id ≠ c.id) ∧ y.directory.isBusy c = false
  /-- Who came to receive has a socket, if the exchange is open. -/
  served : y.isOpen = true → ∀ c ∈ y.directory.channels, c ∉ x.directory.channels →
    c.direction = .inbound → ∃ id s, y.directory.socketOf c.id = some id ∧ y.sockets.find? id = some s
  /-- The outbound sockets that are still linked are left, and every other socket. -/
  sockets : y.sockets = x.sockets.filter fun s =>
    s.2.role != .outbound || y.directory.linkedSockets.contains s.1
  /-- The attempts for the sockets that are left are left. -/
  schedule : y.schedule = x.schedule.filter fun r => y.sockets.has r.socket
  rest : y = { x with
    directory := y.directory
    sockets := y.sockets
    schedule := y.schedule
    outbox := y.outbox
    announcements := y.announcements
    journal := y.journal
    network := y.network }

/-- A reconfiguration that succeeds binds the pairs and lets everybody else go. -/
theorem reconfigure_ok (hok : (x.reconfigure bindings).1 = .ok ()) :
    refusal? x.profile.sharing.masks bindings = none ∧
      ∃ cs, (x.bindAll bindings).1 = .ok cs ∧
        (x.reconfigure bindings).2 = (x.bindAll bindings).2.retain cs := by
  unfold reconfigure at hok ⊢
  split at hok
  · exact nomatch hok
  · rename_i hrefusal
    split at hok
    · exact nomatch hok
    · rename_i heq
      exact ⟨hrefusal, _, congrArg Prod.fst heq, by rw [heq]⟩

omit [Network ν] in
/-- Only the channels that are there and their writes are asked. -/
theorem Retains.congr {p q : Channel → Bool} (h : Retains p x y)
    (howned : ∀ w ∈ x.outbox.writes, w.channel ∈ x.directory.channels)
    (hpq : ∀ c ∈ x.directory.channels, p c = q c) : Retains q x y :=
  { h with
    entries := h.entries.trans (List.filter_congr fun _ he => hpq _ (List.mem_map_of_mem he))
    status := fun c hc => hpq c hc ▸ h.status c hc
    outbox := h.outbox.trans (congrArg (fun ws => { x.outbox with writes := ws })
      (List.filter_congr fun w hw => hpq _ (howned w hw))) }

/-- **The two halves of a reconfiguration:** channels come until every pair is bound, and then those
that are bound to other pairs go. -/
theorem Reachable.halves (h : x.Reachable) (hok : (x.reconfigure bindings).1 = .ok ()) :
    ∃ z, Admits x z ∧ Enlarged x z ∧ Grows x.outline z.outline ∧ z.Roster ∧
      (∀ b ∈ bindings, b ∈ z.directory.channels.map Channel.binding) ∧
      Retains (fun c => decide (c.binding ∈ bindings)) z (x.reconfigure bindings).2 := by
  obtain ⟨-, cs, hcs, heq⟩ := reconfigure_ok hok
  have hsteps := SteadySteps.steps (steady_bindAll bindings x)
  have hmoves := moves_steps h.sound hsteps
  have hroster := h.roster.steps h.sound hsteps
  have hadmits := Admits.bindAll h.sound bindings
  have hbound : ∀ b ∈ bindings, b ∈ (x.bindAll bindings).2.directory.channels.map Channel.binding := by
    intro b hb
    rw [← map_binding_bindAll hcs] at hb
    obtain ⟨c, hc, rfl⟩ := List.mem_map.mp hb
    exact List.mem_map_of_mem (mem_of_bindAll h.sound hcs hc).1
  -- Binding leaves the writes and the attempts as they were, so they are as in any other state.
  have howned : ∀ w ∈ (x.bindAll bindings).2.outbox.writes,
      w.channel ∈ (x.bindAll bindings).2.directory.channels := by
    intro w hw
    rw [hadmits.rest] at hw
    exact hadmits.channels.subset (List.mem_map.mpr (h.ordered.1.owned w hw))
  have htracked : ∀ r ∈ (x.bindAll bindings).2.schedule,
      (x.bindAll bindings).2.sockets.has r.socket = true := by
    rw [hadmits.rest]
    intro r hr
    obtain ⟨s, hs, -⟩ := h.attended.tracked r.socket (List.mem_map_of_mem hr)
    exact Sockets.has_iff.mpr ⟨s, Sockets.mem_of_find? hs⟩
  have hretains := retains_retain (h.sound.moves hmoves) howned htracked cs
  rw [← heq] at hretains
  exact ⟨_, hadmits, Enlarged.bindAll h.sound bindings, grows_moves hmoves, hroster, hbound,
    hretains.congr howned fun c hc => any_id_bindAll h.sound hcs hroster hc⟩

/-- A reconfiguration that succeeds, told from its two halves. -/
theorem Reachable.reconfigured_of_ok (h : x.Reachable)
    (hok : (x.reconfigure bindings).1 = .ok ()) :
    Reconfigured bindings x (x.reconfigure bindings).2 := by
  have hsound : (x.reconfigure bindings).2.outline.Sound := (h.run [.reconfigure bindings]).sound
  obtain ⟨z, hadmits, henlarged, hgrows, hroster, hbound, hretains⟩ := h.halves hok
  generalize (x.reconfigure bindings).2 = y at hsound hretains ⊢
  have hmem (c : Channel) : c ∈ y.directory.channels ↔
      c ∈ z.directory.channels ∧ c.binding ∈ bindings := by
    rw [hretains.channels, List.mem_filter, decide_eq_true_eq]
  have hstatus : ∀ c ∈ x.directory.channels, y.directory.status c =
      if c.binding ∈ bindings then x.directory.status c
      else { x.directory.status c with call := (x.directory.status c).call.cancel } := by
    intro c hc
    rw [hretains.status c (hadmits.channels.subset hc), hadmits.status]
    simp only [decide_eq_true_eq]
  have houtbox : y.outbox = x.outbox.keep fun w => decide (w.channel.binding ∈ bindings) := by
    rw [hretains.outbox, hadmits.rest]
  exact {
    bound := fun b => by
      constructor
      · intro hb
        obtain ⟨c, hc, rfl⟩ := List.mem_map.mp hb
        exact ((hmem c).mp hc).2
      · intro hb
        obtain ⟨c, hc, rfl⟩ := List.mem_map.mp (hbound b hb)
        exact List.mem_map_of_mem ((hmem c).mpr ⟨hc, hb⟩)
    distinct := hretains.channels ▸ hroster.distinct.sublist (List.filter_sublist.map _)
    channels := by
      obtain ⟨came, hcame⟩ := hadmits.channels
      refine ⟨came.filter fun c => decide (c.binding ∈ bindings), ?_, fun c hc => ?_⟩
      · rw [hretains.channels, ← hcame, List.filter_append]
      · -- Who came is bound to another pair than those who were there, so it is none of them.
        have hc := List.mem_of_mem_filter hc
        have hdistinct := hroster.distinct
        rw [← hcame, List.map_append, List.nodup_append] at hdistinct
        refine (hgrows.mem_channels (hcame ▸ List.mem_append_right _ hc)).resolve_left fun hold => ?_
        exact hdistinct.2.2 _ (List.mem_map_of_mem hold) _ (List.mem_map_of_mem hc) rfl
    links := fun c hc hin id hid => by
      obtain ⟨e, he, hown, hsocket⟩ := exists_of_socketOf hid
      obtain rfl := h.sound.numbered.channel_eq (List.mem_map_of_mem he) hc hown
      have hstays := hadmits.links e he (hsocket ▸ Option.some_ne_none id)
      have hleft : e ∈ y.directory.entries :=
        hretains.entries ▸ List.mem_filter.mpr ⟨hstays, decide_eq_true hin⟩
      rw [socketOf_of_mem hsound.numbered hleft, hsocket]
    status := hstatus
    outbox := houtbox
    dismissed := fun c hc hout => by
      refine ⟨fun hc' => hout ((hmem c).mp hc').2, fun w hw hid => ?_, ?_⟩
      · rw [houtbox] at hw
        obtain ⟨hw, hin⟩ := List.mem_filter.mp hw
        have hthere := List.mem_map.mpr (h.ordered.1.owned w hw)
        rw [h.sound.numbered.channel_eq hthere hc hid] at hin
        exact hout (of_decide_eq_true hin)
      · rw [isBusy, hstatus c hc, if_neg hout]
        rfl
    served := fun ho c hc hnew hd => by
      obtain ⟨e, he, rfl⟩ := List.mem_map.mp hc
      have hthere := (List.mem_filter.mp (hretains.entries ▸ he)).1
      have hopen : z.isOpen = true := by
        rw [hretains.rest] at ho
        exact ho
      have hlinked := henlarged.socket_ne_none hopen hthere hnew hd
      obtain ⟨id, hs⟩ := Option.ne_none_iff_exists'.mp hlinked
      obtain ⟨n, hn, -⟩ := hsound.linked e he id hs
      obtain ⟨s, hsocket, -⟩ := find?_of_mem_natures hsound hn
      exact ⟨id, s, (socketOf_of_mem hsound.numbered he).trans hs, hsocket⟩
    sockets := by rw [hretains.sockets, hadmits.rest]
    schedule := by rw [hretains.schedule, hadmits.rest]
    rest := by rw [hretains.rest, hadmits.rest] }

/-! ### Once more -/

omit [Network ν] in
/-- Pairs that pass the check pass it one by one. -/
theorem vet_of_refusal? {masks : Bool} (hr : refusal? masks bindings = none) :
    ∀ b ∈ bindings, vet b.1 b.2 masks = .ok () := by
  intro b hb
  cases hv : vet b.1 b.2 masks with
  | ok u => rfl
  | error e =>
    obtain ⟨e', he'⟩ := exists_refusal (s := b.1) (r := b.2) hb hv
    exact nomatch hr.symm.trans he'

omit [Network ν] in
/-- Who is bound already is found. -/
theorem bind_of_bound {s : Subject} {r : Remote} (hv : vet s r x.profile.sharing.masks = .ok ())
    (hb : (s, r) ∈ x.directory.channels.map Channel.binding) : ∃ c, x.bind s r = (.ok c, x) := by
  unfold Exchange.bind enrol
  rw [hv]
  cases hbound : x.directory.bound? s r with
  | none => exact absurd hb (not_mem_of_bound? hbound)
  | some c => exact ⟨c, rfl⟩

omit [Network ν] in
theorem bindAll_of_bound (hv : ∀ b ∈ bindings, vet b.1 b.2 x.profile.sharing.masks = .ok ())
    (hb : ∀ b ∈ bindings, b ∈ x.directory.channels.map Channel.binding) :
    ∃ cs, x.bindAll bindings = (.ok cs, x) := by
  induction bindings with
  | nil => exact ⟨[], rfl⟩
  | cons binding bindings ih =>
    obtain ⟨s, r⟩ := binding
    obtain ⟨c, hc⟩ := bind_of_bound (hv _ List.mem_cons_self) (hb _ List.mem_cons_self)
    obtain ⟨cs, hcs⟩ := ih (fun b hmem => hv b (List.mem_cons_of_mem _ hmem))
      fun b hmem => hb b (List.mem_cons_of_mem _ hmem)
    exact ⟨c :: cs, by rw [bindAll, hc]; dsimp only; rw [hcs]⟩

/-- Where every channel stays, nothing goes. -/
theorem retain_of_all (h : x.outline.Sound) {kept : List Channel}
    (hall : ∀ c ∈ x.directory.channels, kept.any (·.id == c.id) = true) : x.retain kept = x := by
  have hall (e : Entry) (he : e ∈ x.directory.entries) : kept.any (·.id == e.channel.id) = true :=
    hall _ (List.mem_map_of_mem he)
  have hkept : (x.directory.entries.filter fun e => kept.any (·.id == e.channel.id)) =
      x.directory.entries := List.filter_eq_self.mpr hall
  have hremoved : (x.directory.entries.filter fun e => !kept.any (·.id == e.channel.id)) = [] :=
    List.filter_eq_nil_iff.mpr fun e he => by simp [hall e he]
  have hids : (x.sockets.idsWhere fun id s =>
      s.role == .outbound && !x.directory.linkedSockets.contains id) = [] := by
    rw [List.eq_nil_iff_forall_not_mem]
    intro id hid
    obtain ⟨s, hs, horphan⟩ := Sockets.mem_idsWhere.mp hid
    rw [Bool.and_eq_true, beq_iff_eq] at horphan
    -- An outbound socket serves somebody.
    obtain ⟨e, he, hsocket⟩ :=
      h.served _ (Sockets.mem_natures.mpr ⟨s, hs, rfl⟩) horphan.1
    have hlinked := mem_linkedSockets.mpr ⟨e, he, hsocket⟩
    simp [hlinked] at horphan
  unfold Exchange.retain keepOnly closeOrphans
  rw [hkept, hremoved]
  dsimp only
  rw [hids]
  rfl

/-- **What a reconfiguration does.**  Whatever it was asked for, in whatever order and however often:
if it succeeds, exactly the pairs of the list are bound, each by one channel; those who stay keep what
they had, those who go leave nothing behind, and no socket is left that serves nobody.  Another one
with the same list changes nothing. -/
theorem Reachable.reconfigured (h : x.Reachable) (hok : (x.reconfigure bindings).1 = .ok ()) :
    Reconfigured bindings x (x.reconfigure bindings).2 ∧
      (x.reconfigure bindings).2.reconfigure bindings = (.ok (), (x.reconfigure bindings).2) := by
  have hdone := h.reconfigured_of_ok hok
  have hreached : (x.reconfigure bindings).2.Reachable := h.run [.reconfigure bindings]
  obtain ⟨hrefusal, -⟩ := reconfigure_ok hok
  refine ⟨hdone, ?_⟩
  generalize (x.reconfigure bindings).2 = y at hdone hreached ⊢
  have hprofile : y.profile = x.profile := by rw [hdone.rest]
  rw [← hprofile] at hrefusal
  obtain ⟨cs, hcs⟩ := bindAll_of_bound (vet_of_refusal? hrefusal) fun b hb => (hdone.bound b).mpr hb
  -- Binding the pairs again gives back the channels that there are, so all of them are kept.
  have hstays : ∀ c ∈ y.directory.channels, cs.any (·.id == c.id) = true := by
    intro c hc
    rw [any_id_bindAll hreached.sound (congrArg Prod.fst hcs) (by rw [hcs]; exact hreached.roster)
      (by rw [hcs]; exact hc)]
    exact decide_eq_true ((hdone.bound _).mp (List.mem_map_of_mem hc))
  unfold reconfigure
  rw [hrefusal]
  dsimp only
  rw [hcs]
  dsimp only
  rw [retain_of_all hreached.sound hstays]

/-- The ferry of the pier has a socket, a call and a write that waits. -/
def boarding : List (Operation Narrow) := [
  .openUp, .bind ferry.subject ferry.remote, .beginCall ferry, .enqueue ferry [1] (some 1)]

/-- The buoy, which is asked for twice, comes to the socket of the ferry before the ferry is let go.
So the socket stays. -/
theorem reconfigured_pier :
    let x := pier.run boarding
    let bindings := [(buoy.subject, buoy.remote), (buoy.subject, buoy.remote)]
    let y := (x.reconfigure bindings).2
    (x.Reachable ∧ (x.reconfigure bindings).1 = .ok ()) ∧
      (Reconfigured bindings x y ∧ y.reconfigure bindings = (.ok (), y)) ∧
        y.directory.channels = [buoy] ∧ y.directory.socketOf buoy.id = some 1001 ∧
          x.directory.socketOf ferry.id = some 1001 ∧ y.outbox.writes = [] := by
  intro x bindings y
  have hreached : x.Reachable := ⟨"pier", pier.profile, pier.network, pier, boarding, rfl, rfl⟩
  have hok : (x.reconfigure bindings).1 = .ok () := by decide +kernel
  refine ⟨⟨hreached, hok⟩, hreached.reconfigured hok, ?_⟩
  decide +kernel

end Exchange

end Switchboard
