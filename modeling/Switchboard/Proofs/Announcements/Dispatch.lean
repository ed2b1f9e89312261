import Switchboard.Proofs.Announcements.Lasting
import Switchboard.Proofs.Links

/-!
# What the protocol is told

Whoever comes up is put on the list of announcements, and the next dispatch calls the protocol once for
each entry (`Station.announce_atEntry`), unless the exchange is taken out of service before.  So each
activation is announced once, and told once (`announced_once`).

An entry says that a channel came up, not that it still is.  Between the activation and the dispatch the
socket may fail or be replaced and the channel may go, and the entry stays (`Station.not_tellsLive`).
What holds when the protocol is told is `Station.standing_of_entry`: every entry is of an activation
since the last dispatch, and where socket and channel are both still there, they are still linked.
-/

namespace Switchboard

open Net Settings Relation Directory Outline Exchange

variable {ν : Type} [Network ν]

/-- **Operations that leave on the list what is there:** nobody is told, and the exchange stays in
service. -/
def Undispatched (ops : List (Operation ν)) : Prop :=
  ∀ op ∈ ops, op ≠ .deactivate ∧ op ≠ .takeAnnouncements

namespace Exchange

variable {x y z : Exchange ν}

/-! ### What is to be told -/

theorem plainCourse_run (h : x.outline.Sound) (ha : x.sockets.Attended x.outline.retries)
    {ops : List (Operation ν)} (hops : Undispatched ops) : PlainCourse x (x.run ops) := by
  induction ops using List.reverseRecOn with
  | nil => exact .refl
  | append_singleton ops op ih =>
    have hbefore := ih fun op' hop' => hops op' (List.mem_append_left _ hop')
    obtain ⟨hdeactivate, htake⟩ := hops op (List.mem_append_right _ (List.mem_singleton_self op))
    have hsound := h.moves (moves_run h ops)
    have hattended := (Tends.run h ha ops).attended ha
    rw [run_snoc]
    rcases changes_apply hsound hattended op with hplain | ⟨htaking, -⟩
    · exact hbefore.trans hplain
    · exact absurd htaking (not_or.mpr ⟨hdeactivate, htake⟩)

/-- The announcements of a chain of plain changes are those of its activations. -/
theorem announcements_course (h : x.outline.Sound) (hc : PlainCourse x y) :
    ∃ new, y.activations = x.activations ++ new ∧
      y.announcements = x.announcements ++ new.map Prod.fst := by
  induction hc with
  | refl => exact ⟨[], by simp, by simp⟩
  | tail hbefore hstep ih =>
    obtain ⟨new, hactivations, hannouncements⟩ := ih
    obtain ⟨more, htells⟩ := tells_plainChange (sound_course h (PlainCourse.course hbefore)) hstep
    refine ⟨new ++ more, ?_, ?_⟩
    · rw [htells.activations, hactivations, List.append_assoc]
    · rw [htells.announcements, hannouncements, List.map_append, List.append_assoc]

/-- **As long as nobody is told, the list grows by what comes up.** -/
theorem Reachable.announcements_run (h : x.Reachable) {ops : List (Operation ν)}
    (hops : Undispatched ops) : ∃ new, (x.run ops).activations = x.activations ++ new ∧
      (x.run ops).announcements = x.announcements ++ new.map Prod.fst :=
  announcements_course h.sound (plainCourse_run h.sound h.attended hops)

/-- Taking the exchange out of service discards what was to be told. -/
theorem Reachable.announcements_deactivate (h : x.Reachable) :
    (x.apply .deactivate).announcements = [] :=
  (bare_of_sound (h.run [.deactivate]).sound (isOpen_deactivate x)).announcements

/-- **The list was empty at some moment since which nobody was told:** at the start of the run, or
when the list was last taken or discarded. -/
theorem exists_undispatched {name : String} {profile : Profile} {network : ν}
    (hx : create name profile network = .ok x) (ops : List (Operation ν)) :
    ∃ before after, ops = before ++ after ∧ (x.run before).announcements = [] ∧
      Undispatched after := by
  induction ops using List.reverseRecOn with
  | nil =>
    obtain ⟨-, hannouncements, -⟩ := orderly_create hx
    exact ⟨[], [], rfl, hannouncements, nofun⟩
  | append_singleton ops op ih =>
    have hreached : (x.run ops).Reachable := ⟨_, _, _, x, ops, hx, rfl⟩
    by_cases hempty : ((x.run ops).apply op).announcements = []
    · refine ⟨ops ++ [op], [], (List.append_nil _).symm, ?_, nofun⟩
      rw [run_snoc]
      exact hempty
    · -- An operation that takes or discards the list would have left it empty.
      have hop : op ≠ .deactivate ∧ op ≠ .takeAnnouncements := by
        constructor
        · rintro rfl
          exact hempty hreached.announcements_deactivate
        · rintro rfl
          exact hempty rfl
      obtain ⟨before, after, rfl, hbefore, hafter⟩ := ih
      refine ⟨before, after ++ [op], List.append_assoc .., hbefore, fun op' hop' => ?_⟩
      rcases List.mem_append.mp hop' with hmem | hmem
      · exact hafter op' hmem
      · exact List.mem_singleton.mp hmem ▸ hop

theorem Reachable.orderly (h : x.Reachable) : x.Orderly := by
  obtain ⟨name, profile, network, start, ops, hc, rfl⟩ := h
  obtain ⟨-, -, horderly⟩ := orderly_create hc
  have hstart : start.Reachable := ⟨name, profile, network, start, [], hc, rfl⟩
  obtain ⟨states, hstates, -⟩ := exists_history hstart.sound hstart.attended ops
  exact (hstates.mem_activations hstart.sound horderly).2.1

/-- What was announced remains so. -/
theorem Reachable.mem_activations_run (h : x.Reachable) {p : Channel × SocketId}
    (hp : p ∈ x.activations) (ops : List (Operation ν)) : p ∈ (x.run ops).activations := by
  obtain ⟨states, hstates, -⟩ := exists_history h.sound h.attended ops
  obtain ⟨-, -, hmem⟩ := hstates.mem_activations h.sound h.orderly
  exact (hmem p.1 p.2).mpr (.inl hp)

omit [Network ν] in
/-- What was announced is what the journal says. -/
theorem count_announced (x : Exchange ν) (c : Channel) (i : SocketId) :
    x.journal.count (.announced c i) = x.activations.count (c, i) := by
  unfold activations
  rw [← List.count_reverse]
  induction x.journal.reverse with
  | nil => rfl
  | cons t events ih =>
    rw [List.count_cons, ih, List.filterMap_cons]
    cases t with
    | announced c' i' => simp [Traffic.activation?, List.count_cons]
    | _ => simp [Traffic.activation?]

end Exchange

/-! ### Telling the protocol -/

namespace Station

variable {ε : Type}

/-- **Where the protocol is told of an entry** of the list: the list was taken, and those before the
entry were told. -/
def atEntry (k : Nat) (st : Station ν ε) : Station ν ε :=
  (performAll ((st.exchange.announcements.take k).map st.protocol.configure)
    { st with exchange := st.exchange.takeAnnouncements.2 }).2

/-- **A dispatch calls the protocol once for each entry,** in the order of the list: for one entry where
`atEntry` says, and for the ones after it afterwards. -/
theorem announce_atEntry (st : Station ν ε) {k : Nat} {c : Channel}
    (hc : st.exchange.announcements[k]? = some c) :
    st.announce.2 = (((st.atEntry k).perform (st.protocol.configure c)).2.performAll
      ((st.exchange.announcements.drop (k + 1)).map st.protocol.configure)).2 :=
  performAll_map_at _ hc _

/-- **What a dispatch notes** is what the protocol notes for each entry of the list, where it is told
of it, in the order of the list. -/
theorem notes_announce (st : Station ν ε) :
    st.announce.1 = (st.exchange.announcements.mapIdx fun k c =>
      ((st.atEntry k).perform (st.protocol.configure c)).1).flatten :=
  notes_performAll_map _ _ _

/-- What was done when the protocol is told of an entry is a run of the exchange. -/
theorem leads_atEntry (st : Station ν ε) (k : Nat) :
    Leads (st.exchange.apply .takeAnnouncements) (st.atEntry k).exchange :=
  (unpolled_performAll _ { st with exchange := st.exchange.takeAnnouncements.2 }).leads

end Station

namespace Exchange

variable {x y z : Exchange ν}

/-- **Each activation is announced once, and told once.**  A run has a history, which tells when a
channel was linked to an active socket that is not the listener.  The journal says once that the channel
was announced for the socket if that was so at some moment, and else it does not.  What was announced
stays on the list until the list is taken, or discarded where the exchange is taken out of service; and
whoever takes the list calls the protocol once for each entry, in the order of the list. -/
theorem announced_once {name : String} {profile : Profile} {network : ν}
    (hx : create name profile network = .ok x) (ops : List (Operation ν)) :
    (∃ states, History x states (x.run ops) ∧ ∀ before, before <+: ops → x.run before ∈ states) ∧
    (∀ states, History x states (x.run ops) → ∀ c i,
      ((∃ y ∈ states, y.Up c i) → (x.run ops).journal.count (.announced c i) = 1) ∧
      (¬ (∃ y ∈ states, y.Up c i) → (x.run ops).journal.count (.announced c i) = 0)) ∧
    (∀ before after, ops = before ++ after → Undispatched after → ∃ new,
      (x.run ops).activations = (x.run before).activations ++ new ∧
      (x.run ops).announcements = (x.run before).announcements ++ new.map Prod.fst) ∧
    (((x.run ops).apply .takeAnnouncements).announcements = [] ∧
      ((x.run ops).apply .deactivate).announcements = []) ∧
    ∀ (ε : Type) (st : Station ν ε), st.exchange = x.run ops → ∀ k c,
      (x.run ops).announcements[k]? = some c →
        Leads ((x.run ops).apply .takeAnnouncements) (st.atEntry k).exchange ∧
        st.announce.2 = (((st.atEntry k).perform (st.protocol.configure c)).2.performAll
          (((x.run ops).announcements.drop (k + 1)).map st.protocol.configure)).2 := by
  have hreached : ∀ ops, (x.run ops).Reachable := fun ops => ⟨_, _, _, x, ops, hx, rfl⟩
  have hstart := hreached []
  obtain ⟨hactivations, -, horderly⟩ := orderly_create hx
  refine ⟨exists_history hstart.sound hstart.attended ops, ?_, ?_, ⟨rfl, ?_⟩, ?_⟩
  · intro states hstates c i
    obtain ⟨-, hafter, hmem⟩ := hstates.mem_activations hstart.sound horderly
    have hup : (c, i) ∈ (x.run ops).activations ↔ ∃ y ∈ states, y.Up c i := by
      rw [hmem, hactivations]
      simp
    rw [count_announced, ← hup]
    exact ⟨List.count_eq_one_of_mem hafter.once, List.count_eq_zero_of_not_mem⟩
  · rintro before after rfl hafter
    rw [run_append]
    exact (hreached before).announcements_run hafter
  · exact (hreached ops).announcements_deactivate
  · rintro ε st hst k c hc
    rw [← hst] at hc ⊢
    exact ⟨st.leads_atEntry k, st.announce_atEntry hc⟩

/-! ### A beacon -/

/-- An outbound channel with a concrete remote. -/
def flare : Channel :=
  ⟨0, 0, ⟨"flare", "*", .outbound⟩, .endpoint (.of (.v4 .unspecified) 9)⟩

/-- A new exchange over a narrow network. -/
def beacon : Exchange Narrow :=
  { name := "beacon", profile := {}, network := {} }

/-- The exchange is opened, and the channel gets a socket, which is active at once. -/
def lighting : List (Operation Narrow) :=
  [.openUp, .bind flare.subject flare.remote, .ensureSocket flare]

theorem create_beacon : create "beacon" {} ({} : Narrow) = .ok beacon :=
  rfl

/-- At the beacon, the channel is announced once for its socket. -/
theorem announced_once_beacon :
    create "beacon" {} ({} : Narrow) = .ok beacon ∧
      (beacon.run lighting).journal.count (.announced flare 1001) = 1 := by
  obtain ⟨⟨states, hstates, hmem⟩, hcount, -⟩ := announced_once create_beacon lighting
  have hlit : (beacon.run lighting).Up flare 1001 := by
    refine ⟨by decide +kernel, ?_⟩
    have hfind : (beacon.run lighting).sockets.find? 1001 =
        some (Socket.outgoing .datagram Narrow.ownEnd (.of (.v4 .unspecified) 9)) := by
      decide +kernel
    exact ⟨_, hfind, nofun, rfl⟩
  have hpresent := hmem lighting (List.prefix_refl lighting)
  exact ⟨create_beacon, (hcount states hstates flare 1001).1 ⟨_, hpresent, hlit⟩⟩

end Exchange

namespace Station

/-! ### Entries that are no longer so -/

/-- **The protocol is told of channels that are up,** and of each of them once. -/
def TellsLive {ε : Type} (st : Station ν ε) : Prop :=
  st.exchange.announcements.Nodup ∧ ∀ k c, st.exchange.announcements[k]? = some c →
    c ∈ (st.atEntry k).exchange.directory.channels ∧ ∃ i, (st.atEntry k).exchange.Up c i

/-- A protocol that does nothing. -/
def mute : Protocol Unit where
  parse _ _ := .done ()
  command _ _ := .done false

/-- The beacon was lit, and something happened before its protocol is told. -/
def lit (more : List (Operation Narrow)) : Station Narrow Unit where
  exchange := beacon.run (lighting ++ more)
  protocol := mute

theorem reachable_lit (more : List (Operation Narrow)) : (lit more).exchange.Reachable :=
  ⟨_, _, _, beacon, lighting ++ more, create_beacon, rfl⟩

/-- The channel is let go, its socket fails, or the socket fails and another one takes its place. -/
theorem state_lit :
    ((lit [.reconfigure []]).exchange.announcements = [flare] ∧
      ((lit [.reconfigure []]).atEntry 0).exchange.directory.channels = []) ∧
    ((lit [.reportFault 1001]).exchange.announcements = [flare] ∧
      ((lit [.reportFault 1001]).atEntry 0).exchange.directory.socketOf flare.id = some 1001 ∧
      (((lit [.reportFault 1001]).atEntry 0).exchange.sockets.find? 1001).map Socket.phase =
        some .retryScheduled) ∧
    (lit [.reportFault 1001, .elapse 5000, .runDueRetries]).exchange.announcements =
      [flare, flare] := by
  decide +kernel

/-- **The protocol may be told of a channel that was let go,** of one whose socket has failed, and of
one channel twice. -/
theorem not_tellsLive :
    ((lit [.reconfigure []]).exchange.Reachable ∧ ¬ (lit [.reconfigure []]).TellsLive) ∧
    ((lit [.reportFault 1001]).exchange.Reachable ∧ ¬ (lit [.reportFault 1001]).TellsLive) ∧
    (lit [.reportFault 1001, .elapse 5000, .runDueRetries]).exchange.Reachable ∧
      ¬ (lit [.reportFault 1001, .elapse 5000, .runDueRetries]).TellsLive := by
  obtain ⟨⟨hfirst, hnobody⟩, ⟨hsecond, hlink, hphase⟩, hthird⟩ := state_lit
  refine ⟨⟨reachable_lit _, ?_⟩, ⟨reachable_lit _, ?_⟩, reachable_lit _, ?_⟩
  · rintro ⟨-, hlive⟩
    obtain ⟨hmem, -⟩ := hlive 0 flare (by rw [hfirst]; rfl)
    rw [hnobody] at hmem
    exact nomatch hmem
  · rintro ⟨-, hlive⟩
    obtain ⟨-, i, hup, s, hs, -, hactive⟩ := hlive 0 flare (by rw [hsecond]; rfl)
    -- The channel is on one socket, the one that failed.
    have hsound := ((reachable_lit [.reportFault 1001]).of_leads
      (.trans (.apply _ .takeAnnouncements) (leads_atEntry _ 0))).sound
    obtain ⟨e, he, hsocket, hch⟩ := mem_onSocket.mp hup
    rw [← hch, socketOf_of_mem hsound.numbered he, hsocket] at hlink
    obtain rfl := Option.some.inj hlink
    rw [hs, Option.map_some, hactive] at hphase
    exact nomatch hphase
  · rintro ⟨honce, -⟩
    rw [hthird] at honce
    exact absurd honce (by decide)

/-! ### What an entry is good for -/

/-- **What is so of an activation later on,** among those that are told together. -/
structure Warrants (new : List (Channel × SocketId)) (x y : Exchange ν) (c : Channel)
    (i : SocketId) : Prop where
  course : Course x y
  /-- The channel is up still, or something ended that since. -/
  upOrEnded : ∀ states, History x states y → y.Up c i ∨ ∃ z ∈ states, Ended x z c i
  /-- The socket, if it is there, is an outbound one that is active or waits to be replaced. -/
  socket : ∀ s, y.sockets.find? i = some s →
    s.role = .outbound ∧ (s.phase = .active ∨ s.phase = .retryScheduled)
  /-- The channel is linked to it, if both are there. -/
  link : y.sockets.find? i ≠ none → c ∈ y.directory.channels → c ∈ y.directory.onSocket i
  /-- Of the sockets that the channel is told of, one at most is there. -/
  alone : y.sockets.find? i ≠ none → ∀ j, (c, j) ∈ new → y.sockets.find? j ≠ none → i = j

theorem warrants_run {x w : Exchange ν} (h : x.Reachable) (hw : w.outline.Sound)
    (hcourse : Course w x) {c : Channel} {i : SocketId} (hup : w.Up c i)
    {new : List (Channel × SocketId)} (hnew : ∀ p ∈ new, p ∈ x.activations) (hmem : (c, i) ∈ new)
    (ops : List (Operation ν)) : Warrants new w (x.run ops) c i := by
  have hlater : ∀ p ∈ new, p ∈ (x.run ops).activations := fun p hp =>
    h.mem_activations_run (hnew p hp) ops
  have horderly := (h.run ops).orderly
  -- Having had its turn lasts, so that it can be asked of the later state.
  have hturn : (x.run ops).HadTurn c i := horderly.turns _ (hlater _ hmem)
  constructor
  · obtain ⟨states, hstates, hstart⟩ := exists_history h.sound h.attended ops
    exact hcourse.trans (hstates.course_of_mem (hstart [] List.nil_prefix)).2
  · exact fun states hstates => hstates.up_or_ended hw hup
  · intro s hs
    obtain ⟨⟨hrole, hphase⟩, -⟩ := hturn.stays s hs
    have hsettled := (h.run ops).attended.settled i s hs
    refine ⟨hrole, ?_⟩
    cases hp : s.phase <;> simp_all
  · intro hthere
    obtain ⟨s, hs⟩ := Option.ne_none_iff_exists'.mp hthere
    exact (hturn.stays s hs).2
  · exact fun hthere j hj hthere' =>
      horderly.oneLeft c i j (hlater _ hmem) (hlater _ hj) hthere hthere'

/-- The entries that are new since the list was empty are of what came up since then, and each of them
warrants what it is good for. -/
theorem warrants_announced {x : Exchange ν} {before after : List (Operation ν)}
    (hreached : (x.run before).Reachable) (hbefore : (x.run before).announcements = [])
    (hafter : Undispatched after) {y : Exchange ν} (hy : y = x.run (before ++ after)) :
    ∃ new : List (Channel × SocketId), new.Nodup ∧ y.announcements = new.map Prod.fst ∧
      y.activations = (x.run before).activations ++ new ∧
      ∀ c i, (c, i) ∈ new → ∃ w, Course (x.run before) w ∧ Course w y ∧ w.Up c i ∧
        ∀ z, Leads (y.apply .takeAnnouncements) z → Warrants new w z c i := by
  obtain ⟨new, hactivations, hannouncements⟩ := hreached.announcements_run hafter
  obtain ⟨states, hstates, -⟩ := exists_history hreached.sound hreached.attended after
  obtain ⟨-, horderly, hmem⟩ := hstates.mem_activations hreached.sound hreached.orderly
  have hnow : y.Reachable := hy ▸ run_append x before after ▸ hreached.run after
  rw [hbefore, List.nil_append] at hannouncements
  rw [← run_append, ← hy] at hactivations hannouncements hstates horderly hmem
  have honce := horderly.once
  rw [hactivations, List.nodup_append] at honce
  obtain ⟨-, hnodup, hdisjoint⟩ := honce
  refine ⟨new, hnodup, hannouncements, hactivations, fun c i hnew => ?_⟩
  -- It came up at some moment since the list was empty.
  obtain ⟨w, hw, hup⟩ : ∃ w ∈ states, w.Up c i := by
    have hannounced : (c, i) ∈ y.activations := hactivations ▸ List.mem_append_right _ hnew
    exact ((hmem c i).mp hannounced).resolve_left fun hold => hdisjoint _ hold _ hnew rfl
  obtain ⟨hcourse, hrest⟩ := hstates.course_of_mem hw
  refine ⟨w, hcourse, hrest, hup, ?_⟩
  rintro z ⟨ops, rfl⟩
  exact warrants_run hnow (sound_course hreached.sound hcourse) hrest hup
    (fun p hp => hactivations ▸ List.mem_append_right _ hp) hnew (.takeAnnouncements :: ops)

/-- **What the protocol is told.**  Since the list was empty, some channels came up, each once on its
socket, and these are the entries of the list, in the order in which they came.  A dispatch calls the
protocol once for each.  From when it came up to that call, and at any time after the list was taken,
the channel is up still unless it was let go, its socket failed, the transport changed or the exchange
was taken out of service; and whatever happened, the channel and the socket are still linked if both
are there, and the socket is an outbound one, active or waiting to be replaced. -/
theorem standing_of_entry {x : Exchange ν} {name : String} {profile : Profile} {network : ν}
    (hx : create name profile network = .ok x) {ops : List (Operation ν)}
    (st : Station ν ε) (hst : st.exchange = x.run ops) :
    (∃ before after, ops = before ++ after ∧ (x.run before).announcements = [] ∧
      Undispatched after) ∧
    ∀ before after, ops = before ++ after → (x.run before).announcements = [] →
      Undispatched after →
      ∃ new : List (Channel × SocketId), new.Nodup ∧
        st.exchange.announcements = new.map Prod.fst ∧
        st.exchange.activations = (x.run before).activations ++ new ∧
        ∀ k c i, new[k]? = some (c, i) →
          (Leads (st.exchange.apply .takeAnnouncements) (st.atEntry k).exchange ∧
            st.announce.2 = (((st.atEntry k).perform (st.protocol.configure c)).2.performAll
              ((st.exchange.announcements.drop (k + 1)).map st.protocol.configure)).2) ∧
          ∃ w, Course (x.run before) w ∧ Course w st.exchange ∧ w.Up c i ∧
            ∀ y, Leads (st.exchange.apply .takeAnnouncements) y → Warrants new w y c i := by
  refine ⟨exists_undispatched hx ops, ?_⟩
  rintro before after rfl hbefore hafter
  have hreached : (x.run before).Reachable := ⟨_, _, _, x, before, hx, rfl⟩
  obtain ⟨new, hnodup, hannouncements, hactivations, hwarrants⟩ :=
    warrants_announced hreached hbefore hafter hst
  refine ⟨new, hnodup, hannouncements, hactivations, fun k c i hk => ⟨?_, ?_⟩⟩
  · have hentry : st.exchange.announcements[k]? = some c := by
      rw [hannouncements, List.getElem?_map, hk, Option.map_some]
    exact ⟨leads_atEntry st k, announce_atEntry st hentry⟩
  · exact hwarrants c i (List.mem_of_getElem? hk)

/-- At the beacon, the socket of the entry failed before the protocol is told. -/
theorem standing_of_entry_lit :
    Undispatched (lighting ++ [.reportFault 1001]) ∧ ∃ new w, w.Up flare 1001 ∧
      Warrants new w ((lit [.reportFault 1001]).atEntry 0).exchange flare 1001 := by
  have hafter : Undispatched (lighting ++ [.reportFault 1001]) := by
    intro op hop
    simp only [lighting, List.cons_append, List.nil_append, List.mem_cons, List.not_mem_nil,
      or_false] at hop
    rcases hop with rfl | rfl | rfl | rfl <;> exact ⟨nofun, nofun⟩
  have hactivations : (lit [.reportFault 1001]).exchange.activations = [(flare, 1001)] := by
    decide +kernel
  obtain ⟨-, htold⟩ := standing_of_entry create_beacon (lit [.reportFault 1001]) rfl
  obtain ⟨new, -, -, hnew, hentries⟩ := htold [] _ rfl rfl hafter
  obtain rfl : new = [(flare, 1001)] := hnew.symm.trans hactivations
  obtain ⟨⟨hleads, -⟩, w, -, -, hup, hlater⟩ := hentries 0 flare 1001 rfl
  exact ⟨hafter, _, w, hup, hlater _ hleads⟩

end Station

end Switchboard
