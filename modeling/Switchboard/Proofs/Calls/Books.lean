import Switchboard.Proofs.Calls.Desk
import Switchboard.Proofs.WriteOrder
import Mathlib.Data.List.Induction

/-!
# The books of a desk

However writes are interleaved, the errands of a desk keep account of its exchange (`Desk.Orderly`):
every write that waits is that of an errand, and on each channel the calls of the errands have
ascending generations.  The outstanding call of a channel is that of its latest errand
(`Desk.Leads`), because nobody is admitted to a channel with an outstanding call.  Once its write
was sent, what still waits of the channel was queued after it.

Each step of a desk keeps its books in order (`Orderly.step`), so they are in order after any acts
(`orderly_run`).
-/

namespace Switchboard

open Net Settings Relation Directory Outline

/-! ### Channels that somebody may hold -/

theorem Directory.Genuine.eq_of_id_eq {d : Directory} {c c' : Channel} (h : d.Genuine c)
    (hc' : c' ∈ d.channels) (hid : c'.id = c.id) : c' = c :=
  h.2 c' hc' hid

/-- What is made gets a new number. -/
theorem Outline.Grows.mem_channels {ν : Type} {x y : Exchange ν} (hg : Grows x.outline y.outline)
    {c : Channel} (hc : c ∈ y.directory.channels) :
    c ∈ x.directory.channels ∨ x.directory.statuses.length ≤ c.id := by
  obtain ⟨e, he, rfl⟩ := List.mem_map.mp hc
  rcases hg.channels e he with ⟨e', he', hc'⟩ | hnew
  · exact .inl (List.mem_map.mpr ⟨e', he', hc'⟩)
  · exact .inr (Nat.le_trans (Nat.le_of_eq (List.length_map _).symm) hnew)

/-- So whoever holds a channel goes on holding it. -/
theorem Directory.Genuine.grows {ν : Type} {x y : Exchange ν} (hg : Grows x.outline y.outline)
    {c : Channel} (h : x.directory.Genuine c) : y.directory.Genuine c := by
  have hlength : ∀ d : Directory, d.core.senders.length = d.statuses.length :=
    fun d => List.length_map _
  have hle : x.directory.statuses.length ≤ y.directory.statuses.length := by
    rw [← hlength, ← hlength]
    exact hg.senders
  refine ⟨⟨h.1.1.trans hg.home.symm, Nat.lt_of_lt_of_le h.1.2 hle⟩, fun c' hc' hid => ?_⟩
  rcases hg.mem_channels hc' with hold | hnew
  · exact h.eq_of_id_eq hold hid
  · exact absurd (hid ▸ h.1.2) (Nat.not_lt.mpr hnew)

/-! ### Errands that get farther -/

/-- **The second errand is the first,** which may have been queued or refused meanwhile. -/
structure Errand.Furthers (e e' : Errand) : Prop where
  channel : e'.channel = e.channel
  call : e'.call = e.call
  kept : e.progress ≠ .admitted → e' = e

namespace Errand

variable {e e' e₀ e₁ : Errand} {es : List Errand} {k i : Nat}

theorem Furthers.refl (e : Errand) : e.Furthers e :=
  ⟨rfl, rfl, fun _ => rfl⟩

theorem Furthers.wrote (h : e.Furthers e') {w : Write} (hw : e.Wrote w) : e'.Wrote w := by
  rw [h.kept (by rw [hw.progress]; exact nofun)]
  exact hw

theorem exists_of_getElem?_set (hk : es[k]? = some e₀) (hf : e₀.Furthers e₁)
    (h : (es.set k e₁)[i]? = some e') : ∃ e, es[i]? = some e ∧ e.Furthers e' := by
  by_cases hik : k = i
  · subst hik
    obtain ⟨hlt, -⟩ := List.getElem?_eq_some_iff.mp hk
    rw [List.getElem?_set_self hlt] at h
    exact ⟨e₀, hk, Option.some.inj h ▸ hf⟩
  · rw [List.getElem?_set_ne hik] at h
    exact ⟨e', h, .refl e'⟩

theorem exists_getElem?_set (hk : es[k]? = some e₀) (hf : e₀.Furthers e₁) (h : es[i]? = some e) :
    ∃ e', (es.set k e₁)[i]? = some e' ∧ e.Furthers e' := by
  by_cases hik : k = i
  · subst hik
    obtain ⟨hlt, -⟩ := List.getElem?_eq_some_iff.mp hk
    obtain rfl := Option.some.inj (hk.symm.trans h)
    exact ⟨e₁, List.getElem?_set_self hlt, hf⟩
  · exact ⟨e, (List.getElem?_set_ne hik).trans h, .refl e⟩

end Errand

/-- The last errand is new, and those before are where they were. -/
theorem Errand.of_getElem?_snoc {es : List Errand} {e e' : Errand} {i : Nat}
    (h : (es ++ [e])[i]? = some e') : es[i]? = some e' ∨ i = es.length ∧ e' = e := by
  rcases Nat.lt_trichotomy i es.length with hlt | heq | hgt
  · rw [List.getElem?_append_left hlt] at h
    exact .inl h
  · rw [heq, List.getElem?_append_right (Nat.le_refl _), Nat.sub_self] at h
    exact .inr ⟨heq, (Option.some.inj h).symm⟩
  · have hlength : (es ++ [e]).length ≤ i := by
      rw [List.length_append]
      exact hgt
    rw [List.getElem?_eq_none hlength] at h
    exact nomatch h

/-! ### Books in order -/

namespace Desk

variable {ν : Type} {d d' : Desk ν} {y : Exchange ν} {c : Channel} {g : Nat} {e : Errand}

/-- **The errand at a place is that of the outstanding call** of a channel: it is the latest of the
channel.  Where its write was sent, what still waits of the channel was queued after it. -/
structure Leads (d : Desk ν) (c : Channel) (g j : Nat) (e : Errand) : Prop where
  errand : d.errands[j]? = some e
  channel : e.channel = c
  call : e.call = some g
  latest : ∀ i e', d.errands[i]? = some e' → e'.channel = c → i ≤ j
  sent : (d.exchange.directory.call c).pending = .awaiting g → ∃ t, e.progress = .queued t ∧
    ∀ w ∈ d.exchange.outbox.writes, w.channel = c → t < w.ticket

/-- Who comes last leads, if the call has just begun. -/
theorem leads_last (hg : e.call = some g)
    (hp : (y.directory.call e.channel).pending = .queued g) :
    Leads ⟨y, d.errands ++ [e]⟩ e.channel g d.errands.length e where
  errand := by simp
  channel := rfl
  call := hg
  latest i e' hi _ := by
    have hlt := (List.getElem?_eq_some_iff.mp hi).1
    rw [List.length_append] at hlt
    exact Nat.le_of_lt_succ hlt
  sent ha := nomatch hp.symm.trans ha

/-- Who comes last to another channel changes nothing. -/
theorem Leads.snoc {j : Nat} {e' : Errand} (hl : d.Leads c g j e')
    (hq : y.outbox = d.exchange.outbox)
    (hcall : y.directory.call c = d.exchange.directory.call c) (hne : c ≠ e.channel) :
    Leads ⟨y, d.errands ++ [e]⟩ c g j e' where
  errand := (List.getElem?_append_left (List.getElem?_eq_some_iff.mp hl.errand).1).trans hl.errand
  channel := hl.channel
  call := hl.call
  latest i e'' hi hc := by
    rcases Errand.of_getElem?_snoc hi with hi | ⟨-, rfl⟩
    · exact hl.latest i e'' hi hc
    · exact absurd hc.symm hne
  sent ha := by
    rw [hcall] at ha
    rw [hq]
    exact hl.sent ha

/-- Who gets farther stays where it is, and only what is queued now comes to wait. -/
theorem Leads.set {j k : Nat} {e₀ e₁ : Errand} (hl : d.Leads c g j e) (hk : d.errands[k]? = some e₀)
    (hf : e₀.Furthers e₁) (hdirectory : y.directory = d.exchange.directory)
    (hqueued : ∀ t, e.progress = .queued t → t < d.exchange.outbox.nextTicket)
    (hwrites : ∀ w ∈ y.outbox.writes, w ∈ d.exchange.outbox.writes ∨
      d.exchange.outbox.nextTicket ≤ w.ticket) :
    ∃ e', Leads ⟨y, d.errands.set k e₁⟩ c g j e' := by
  obtain ⟨e', hj, hsame⟩ := Errand.exists_getElem?_set hk hf hl.errand
  refine ⟨e', hj, hsame.channel.trans hl.channel, hsame.call.trans hl.call,
    fun i e'' hi hc => ?_, fun ha => ?_⟩
  · obtain ⟨e₂, hi', hsame'⟩ := Errand.exists_of_getElem?_set hk hf hi
    exact hl.latest i e₂ hi' (hsame'.channel ▸ hc)
  · rw [show (Desk.mk y (d.errands.set k e₁)).exchange = y from rfl, hdirectory] at ha
    obtain ⟨t, ht, hafter⟩ := hl.sent ha
    rw [hsame.kept (by rw [ht]; exact nofun)]
    refine ⟨t, ht, fun w hw hwc => ?_⟩
    rcases hwrites w hw with hw | hnew
    · exact hafter w hw hwc
    · exact Nat.lt_of_lt_of_le (hqueued t ht) hnew

/-- **The errands keep account of the exchange.** -/
structure Orderly (d : Desk ν) : Prop where
  genuine : ∀ e ∈ d.errands, d.exchange.directory.Genuine e.channel
  below : ∀ e ∈ d.errands, ∀ t, e.progress = .queued t → t < d.exchange.outbox.nextTicket
  issued : ∀ e ∈ d.errands, ∀ g, e.call = some g →
    g ≤ (d.exchange.directory.call e.channel).issued
  rising : ∀ (i j : Nat) (e e' : Errand), i < j → d.errands[i]? = some e → d.errands[j]? = some e' →
    e'.channel = e.channel → ∀ g g' : Nat, e.call = some g → e'.call = some g' → g < g'
  written : ∀ w ∈ d.exchange.outbox.writes, ∃ e ∈ d.errands, e.Wrote w
  leads : ∀ c ∈ d.exchange.directory.channels, ∀ g,
    (d.exchange.directory.call c).pending.generation? = some g → ∃ j e, d.Leads c g j e

namespace Orderly

/-- Every call is that of one errand. -/
theorem index_eq (h : d.Orderly) {i j : Nat} {e e' : Errand} (hi : d.errands[i]? = some e)
    (hj : d.errands[j]? = some e') (hc : e'.channel = e.channel) (hg : e.call = some g)
    (hg' : e'.call = some g) : i = j := by
  rcases Nat.lt_trichotomy i j with hlt | heq | hgt
  · exact absurd (h.rising i j e e' hlt hi hj hc g g hg hg') (Nat.lt_irrefl g)
  · exact heq
  · exact absurd (h.rising j i e' e hgt hj hi hc.symm g g hg' hg) (Nat.lt_irrefl g)

/-- A write that waits is of a channel that has a number of its own. -/
theorem channel_eq (h : d.Orderly) {w : Write} (hw : w ∈ d.exchange.outbox.writes)
    (hc : c ∈ d.exchange.directory.channels) (hid : w.channel.id = c.id) : w.channel = c := by
  obtain ⟨e, he, hwrote⟩ := h.written w hw
  rw [hwrote.channel] at hid ⊢
  exact ((h.genuine e he).eq_of_id_eq hc hid.symm).symm

/-- The write of a call is that of its errand. -/
theorem wrote (h : d.Orderly) (he : e ∈ d.errands) (hg : e.call = some g) {w : Write}
    (hw : w ∈ d.exchange.outbox.writes) (hc : w.channel = e.channel) (hwg : w.call = some g) :
    e.Wrote w := by
  obtain ⟨e', he', hwrote⟩ := h.written w hw
  obtain ⟨i, hi⟩ := List.mem_iff_getElem?.mp he
  obtain ⟨j, hj⟩ := List.mem_iff_getElem?.mp he'
  have hsame := h.index_eq hi hj (hwrote.channel.symm.trans hc) hg (hwrote.call.symm.trans hwg)
  rw [← hsame, hi] at hj
  exact Option.some.inj hj ▸ hwrote

/-! ### Nobody is admitted -/

/-- Where no call begins and no write comes, the books stay in order. -/
theorem onward (h : d.Orderly) (hxy : Exchange.Onward d.exchange y)
    (hgenuine : ∀ c, d.exchange.directory.Genuine c → y.directory.Genuine c)
    (hknown : ∀ c ∈ y.directory.channels, ∀ g,
      (d.exchange.directory.call c).pending.generation? = some g →
        c ∈ d.exchange.directory.channels) : Orderly { d with exchange := y } where
  genuine e he := hgenuine _ (h.genuine e he)
  below e he t ht := Nat.lt_of_lt_of_le (h.below e he t ht) hxy.nextTicket
  issued e he g hg := by
    rw [hxy.issued]
    exact h.issued e he g hg
  rising := h.rising
  written w hw := by
    obtain ⟨w₀, hw₀, hcont⟩ := hxy.writes w hw
    obtain ⟨e, he, hwrote⟩ := h.written w₀ hw₀
    exact ⟨e, he, hwrote.continues hcont⟩
  leads c hc g hg := by
    have hbefore : (d.exchange.directory.call c).pending.generation? = some g := by
      cases hp : (y.directory.call c).pending with
      | idle =>
        rw [hp] at hg
        exact nomatch hg
      | queued g' =>
        rw [hp] at hg
        rw [hxy.queued c g' hp]
        exact hg
      | awaiting g' =>
        rw [hp] at hg
        rcases hxy.awaiting c g' hp with heq | ⟨heq, -⟩ <;> rw [heq] <;> exact hg
    have hold := hknown c hc g hbefore
    obtain ⟨j, e, hl⟩ := h.leads c hold g hbefore
    refine ⟨j, e, hl.errand, hl.channel, hl.call, hl.latest, fun ha => ?_⟩
    rcases hxy.awaiting c g ha with hwaited | ⟨-, w, hw, hid, hcall, hafter⟩
    · obtain ⟨t, ht, hlater⟩ := hl.sent hwaited
      refine ⟨t, ht, fun w hw hwc => ?_⟩
      obtain ⟨w₀, hw₀, hcont⟩ := hxy.writes w hw
      rw [hcont.ticket]
      exact hlater w₀ hw₀ (hcont.channel ▸ hwc)
    · -- The write that was sent is that of the errand.
      have hchannel := (h.channel_eq hw hold hid).trans hl.channel.symm
      have hwrote := h.wrote (List.mem_of_getElem? hl.errand) hl.call hw hchannel hcall
      exact ⟨w.ticket, hwrote.progress, fun w' hw' hwc => hafter w' hw' (congrArg Channel.id hwc)⟩

theorem undisturbed (h : d.Orderly) (hxy : Exchange.Undisturbed d.exchange y) :
    Orderly { d with exchange := y } := by
  refine h.onward hxy.onward (fun c hc => ⟨(hxy.keeps c).mpr hc.1, fun c' hc' => ?_⟩)
    fun c hc g _ => hxy.channels ▸ hc
  exact hc.2 c' (hxy.channels ▸ hc')

theorem grows (h : d.Orderly) (hxy : Exchange.Onward d.exchange y)
    (hg : Grows d.exchange.outline y.outline) : Orderly { d with exchange := y } := by
  refine h.onward hxy (fun c hc => hc.grows hg) fun c hc g hp => ?_
  rcases hg.mem_channels hc with hold | hnew
  · exact hold
  · rw [call_of_unmade (Nat.le_trans (Nat.le_of_eq (List.length_map _)) hnew)] at hp
    exact nomatch hp

/-! ### Somebody is admitted -/

/-- **An errand is admitted** to a channel on which no call is outstanding.  If it has a call, that
begins, with a new generation. -/
theorem admitted (h : d.Orderly) (hgenuine : d.exchange.directory.Genuine e.channel)
    (hprogress : e.progress = .admitted)
    (hq : y.outbox = d.exchange.outbox)
    (hchannels : y.directory.channels = d.exchange.directory.channels)
    (hkeeps : ∀ c, d.exchange.directory.Keeps c → y.directory.Keeps c)
    (hissued : ∀ c, (d.exchange.directory.call c).issued ≤ (y.directory.call c).issued)
    (hothers : ∀ c ∈ y.directory.channels, c ≠ e.channel →
      y.directory.call c = d.exchange.directory.call c)
    (hpending : (y.directory.call e.channel).pending = e.call.elim .idle .queued)
    (hnew : ∀ g, e.call = some g → (d.exchange.directory.call e.channel).issued < g ∧
      g ≤ (y.directory.call e.channel).issued) : Orderly ⟨y, d.errands ++ [e]⟩ where
  genuine e' he' := by
    have hold : d.exchange.directory.Genuine e'.channel := by
      rcases List.mem_append.mp he' with he' | he'
      · exact h.genuine e' he'
      · rw [List.mem_singleton.mp he']
        exact hgenuine
    refine ⟨hkeeps _ hold.1, fun c' hc' => hold.2 c' ?_⟩
    rw [← hchannels]
    exact hc'
  below e' he' t ht := by
    rcases List.mem_append.mp he' with he' | he'
    · rw [hq]
      exact h.below e' he' t ht
    · rw [List.mem_singleton.mp he', hprogress] at ht
      exact nomatch ht
  issued e' he' g hg := by
    rcases List.mem_append.mp he' with he' | he'
    · exact Nat.le_trans (h.issued e' he' g hg) (hissued _)
    · rw [List.mem_singleton.mp he'] at hg ⊢
      exact (hnew g hg).2
  rising i j e₁ e₂ hlt hi hj hc g g' hg hg' := by
    rcases Errand.of_getElem?_snoc hj with hj | ⟨rfl, rfl⟩
    · have hi' := (Errand.of_getElem?_snoc hi).resolve_right fun hlast => by
        have := (List.getElem?_eq_some_iff.mp hj).1
        omega
      exact h.rising i j e₁ e₂ hlt hi' hj hc g g' hg hg'
    · have hi' := (Errand.of_getElem?_snoc hi).resolve_right fun hlast => Nat.ne_of_lt hlt hlast.1
      have hold := h.issued e₁ (List.mem_of_getElem? hi') g hg
      rw [← hc] at hold
      exact Nat.lt_of_le_of_lt hold (hnew g' hg').1
  written w hw := by
    rw [hq] at hw
    obtain ⟨e', he', hwrote⟩ := h.written w hw
    exact ⟨e', List.mem_append_left _ he', hwrote⟩
  leads c hc g hg := by
    by_cases hmine : c = e.channel
    · -- The call is that which has just begun.
      subst hmine
      rw [hpending] at hg
      obtain ⟨g', hg'⟩ : ∃ g', e.call = some g' := by
        cases hcall : e.call with
        | none =>
          rw [hcall] at hg
          exact nomatch hg
        | some g' => exact ⟨g', rfl⟩
      rw [hg'] at hg hpending
      obtain rfl : g' = g := Option.some.inj hg
      exact ⟨_, e, leads_last hg' hpending⟩
    · rw [hothers c hc hmine] at hg
      obtain ⟨j, e', hl⟩ := h.leads c (hchannels ▸ hc) g hg
      exact ⟨j, e', hl.snoc hq (hothers c hc hmine) hmine⟩

/-! ### An errand gets farther -/

/-- **An errand is queued or refused.** -/
theorem further (h : d.Orderly) {k : Nat} {e₀ e₁ : Errand} (hk : d.errands[k]? = some e₀)
    (hf : e₀.Furthers e₁) (hdirectory : y.directory = d.exchange.directory)
    (hticket : d.exchange.outbox.nextTicket ≤ y.outbox.nextTicket)
    (hbelow : ∀ t, e₁.progress = .queued t → t < y.outbox.nextTicket)
    (hwrites : ∀ w ∈ y.outbox.writes, w ∈ d.exchange.outbox.writes ∨
      e₁.Wrote w ∧ d.exchange.outbox.nextTicket ≤ w.ticket) :
    Orderly ⟨y, d.errands.set k e₁⟩ where
  genuine e he := by
    rw [hdirectory]
    obtain ⟨i, hi⟩ := List.mem_iff_getElem?.mp he
    obtain ⟨e', hi', hsame⟩ := Errand.exists_of_getElem?_set hk hf hi
    rw [hsame.channel]
    exact h.genuine e' (List.mem_of_getElem? hi')
  below e he t ht := by
    rcases List.mem_or_eq_of_mem_set he with he | rfl
    · exact Nat.lt_of_lt_of_le (h.below e he t ht) hticket
    · exact hbelow t ht
  issued e he g hg := by
    rw [hdirectory]
    obtain ⟨i, hi⟩ := List.mem_iff_getElem?.mp he
    obtain ⟨e', hi', hsame⟩ := Errand.exists_of_getElem?_set hk hf hi
    rw [hsame.channel]
    exact h.issued e' (List.mem_of_getElem? hi') g (hsame.call ▸ hg)
  rising i j e e' hlt hi hj hc g g' hg hg' := by
    obtain ⟨e₂, hi', hsame⟩ := Errand.exists_of_getElem?_set hk hf hi
    obtain ⟨e₃, hj', hsame'⟩ := Errand.exists_of_getElem?_set hk hf hj
    rw [hsame.channel, hsame'.channel] at hc
    exact h.rising i j e₂ e₃ hlt hi' hj' hc g g' (hsame.call ▸ hg) (hsame'.call ▸ hg')
  written w hw := by
    obtain ⟨hlt, -⟩ := List.getElem?_eq_some_iff.mp hk
    rcases hwrites w hw with hw | ⟨hwrote, -⟩
    · obtain ⟨e, he, hwrote⟩ := h.written w hw
      obtain ⟨i, hi⟩ := List.mem_iff_getElem?.mp he
      obtain ⟨e', hi', hsame⟩ := Errand.exists_getElem?_set hk hf hi
      exact ⟨e', List.mem_of_getElem? hi', hsame.wrote hwrote⟩
    · exact ⟨e₁, List.mem_of_getElem? (List.getElem?_set_self hlt), hwrote⟩
  leads c hc g hg := by
    rw [hdirectory] at hc hg
    obtain ⟨j, e, hl⟩ := h.leads c hc g hg
    have hqueued := h.below e (List.mem_of_getElem? hl.errand)
    obtain ⟨e', hl'⟩ := hl.set hk hf hdirectory hqueued fun w hw => (hwrites w hw).imp_right (·.2)
    exact ⟨j, e', hl'⟩

/-! ### Steps -/

/-- A call begins. -/
theorem started (h : d.Orderly) {data : Bytes} {b : CallBox}
    (hc : d.exchange.directory.Genuine c)
    (hb : (d.exchange.directory.call c).start? = some (g, b)) :
    Orderly ⟨d.exchange.onDirectory (·.modifyCall c fun _ => b),
      d.errands ++ [{ channel := c, data, call := some g }]⟩ := by
  obtain ⟨rfl, rfl⟩ : (d.exchange.directory.call c).issued + 1 = g ∧
      { d.exchange.directory.call c with pending := .queued g, issued := g } = b := by
    unfold CallBox.start? at hb
    split at hb
    · obtain ⟨rfl, rfl⟩ := Prod.mk.inj (Option.some.inj hb)
      exact ⟨rfl, rfl⟩
    · exact nomatch hb
  set b : CallBox := { d.exchange.directory.call c with
    pending := .queued ((d.exchange.directory.call c).issued + 1)
    issued := (d.exchange.directory.call c).issued + 1 } with hbox
  have hcall : ∀ c', (d.exchange.directory.modifyCall c fun _ => b).call c' =
      if c'.home = c.home ∧ c'.id = c.id then b else d.exchange.directory.call c' := by
    intro c'
    rw [call_modifyCall]
    simp [hc.1]
  refine h.admitted hc rfl rfl ?_ ?_ ?_ ?_ ?_ ?_
  · rw [Exchange.onDirectory, Directory.channels, entries_modifyCall, ← Directory.channels]
  · exact fun c' => (keeps_modifyCall c c' _ _).mpr
  · intro c'
    rw [Exchange.onDirectory, hcall]
    split_ifs with hsame
    · rw [call_congr _ hsame.1 hsame.2]
      exact Nat.le_succ _
    · exact Nat.le_refl _
  · intro c' hc' hne
    rw [Exchange.onDirectory, hcall, if_neg]
    rintro ⟨-, hid⟩
    refine hne (hc.eq_of_id_eq ?_ hid)
    rw [Exchange.onDirectory, Directory.channels, entries_modifyCall] at hc'
    exact hc'
  · rw [Exchange.onDirectory, hcall, if_pos ⟨rfl, rfl⟩]
    rfl
  · rintro g' hg'
    obtain rfl := Option.some.inj hg'
    rw [Exchange.onDirectory, hcall, if_pos ⟨rfl, rfl⟩]
    exact ⟨Nat.lt_succ_self _, Nat.le_refl _⟩

/-- **Every step keeps the books in order.** -/
theorem step [Network ν] (h : d.Orderly) (hr : d.exchange.Reachable) {op? : Option (Operation ν)}
    (hstep : d.Step op? d') : d'.Orderly := by
  cases hstep with
  | idle => exact h
  | barred c => exact h
  | checked c data hc hb =>
    have hidle : (d.exchange.directory.call c).pending = .idle := by
      simpa [isBusy, CallBox.isBusy, Directory.call] using hb
    exact h.admitted hc rfl rfl rfl (fun _ => id) (fun _ => Nat.le_refl _) (fun _ _ _ => rfl) hidle
      nofun
  | started c data hc hb => exact h.started hc hb
  | @queued i c data call hi hok =>
    obtain ⟨hno, -⟩ | ⟨y, -, hxy, -, -, -, hz⟩ := Exchange.enqueue_cases c data call d.exchange
    · exact absurd hok hno
    · have hqueued : Orderly ⟨{ y with outbox := y.outbox.push c data call },
          d.errands.set i ⟨c, data, call, .queued d.exchange.outbox.nextTicket⟩⟩ := by
        have htickets : d.exchange.outbox.nextTicket = y.outbox.nextTicket :=
          (congrArg Outbox.nextTicket hxy.outbox).symm
        refine (h.undisturbed hxy).further hi ⟨rfl, rfl, fun hne => absurd rfl hne⟩ rfl
          (Nat.le_succ _) (fun t ht => ?_) fun w hw => ?_
        · rw [← Progress.queued.inj ht, htickets]
          exact Nat.lt_succ_self _
        · refine (List.mem_append.mp hw).imp_right fun hw => ?_
          rw [List.mem_singleton.mp hw]
          exact ⟨⟨congrArg Progress.queued htickets, rfl, rfl, rfl⟩, Nat.le_refl _⟩
      exact hqueued.undisturbed hz
  | @refused i c data call hi hno =>
    obtain ⟨-, hxy⟩ | ⟨y, hok, -⟩ := Exchange.enqueue_cases c data call d.exchange
    · exact (h.undisturbed hxy).further hi ⟨rfl, rfl, fun hne => absurd rfl hne⟩ rfl
        (Nat.le_refl _) nofun fun _ => .inl
    · exact absurd hok hno
  | left c g =>
    exact h.undisturbed (.modifyCall ((d.exchange.directory.call c).rests_finish g))
  | operated op hfree =>
    exact h.grows (Exchange.onward_apply hr.sound hr.ordered.1 hfree)
      (grows_moves (Exchange.moves_steps hr.sound (Exchange.steps_apply d.exchange op)))

end Orderly

/-- A new desk has empty books. -/
theorem orderly_create {name : String} {profile : Profile} {network : ν} {x : Exchange ν}
    (hx : Exchange.create name profile network = .ok x) : Orderly ⟨x, []⟩ where
  genuine e he := absurd he List.not_mem_nil
  below e he := absurd he List.not_mem_nil
  issued e he := absurd he List.not_mem_nil
  rising i j e e' _ hi := nomatch hi
  written w hw := by
    have hnone := congrArg (fun o => o.outbox.writes) (Exchange.outline_create hx)
    exact nomatch (show x.outbox.writes = [] from hnone) ▸ hw
  leads c hc := by
    have hnone : x.directory.entries = [] := congrArg Outline.entries (Exchange.outline_create hx)
    rw [Directory.channels, hnone] at hc
    exact absurd hc List.not_mem_nil

variable [Network ν]

/-- **The books are in order after any acts,** in whatever way the writes are interleaved. -/
theorem orderly_run {name : String} {profile : Profile} {network : ν} {x : Exchange ν}
    (hx : Exchange.create name profile network = .ok x) (acts : List (Act ν)) :
    (Desk.run ⟨x, []⟩ acts).Orderly := by
  induction acts using List.reverseRecOn with
  | nil => exact orderly_create hx
  | append_singleton acts a ih =>
    rw [run_snoc]
    exact ih.step (reachable_run hx acts) (step_act _ a)

end Desk

end Switchboard
