import Switchboard.Proofs.Receiving.Nearest
import Switchboard.Proofs.Senders.Callbacks

/-!
# What becomes of a buffer

A buffer that was read is for some channels (`Exchange.matching`): for all channels of an outbound
socket, and else for the channels that hear its sender best on the listener.  If one of them awaits a
reply, the buffer is the reply of one that does, and nobody else gets it (`Exchange.Answered`).
Otherwise each of them gets it through the protocol, in the order of the directory, and those with a
mask remember the sender (`Exchange.Delivered`).  Nothing else changes (`handed_route`).
-/

namespace Switchboard

open Net Directory

namespace Exchange

variable {ν : Type} {x y : Exchange ν}

/-- **The channels that a buffer is for:** those of an outbound socket, or those that hear the sender
best on the listener. -/
def matching (x : Exchange ν) (id : SocketId) (role : Role) (sender : Option Endpoint) : List Channel :=
  match role with
  | .outbound => x.directory.onSocket id
  | _ =>
    match x.listener, sender with
    | some l, some e => x.directory.nearest l e
    | _, _ => []

/-- No channel is there twice, and those that came to the directory earlier stand first. -/
theorem ascending_matching (h : x.directory.core.Numbered) (id : SocketId) (role : Role)
    (sender : Option Endpoint) : ((x.matching id role sender).map Channel.id).Pairwise (· < ·) := by
  have hselect : ∀ p, ((x.directory.select p).map Channel.id).Pairwise (· < ·) := by
    intro p
    unfold select
    rw [List.map_map]
    exact h.ascending.sublist (List.filter_sublist.map _)
  unfold matching
  split
  · exact hselect _
  · split
    · exact hselect _
    · exact List.Pairwise.nil

/-- **The caller of a channel got the buffer,** and nobody else did. -/
structure Answered (x y : Exchange ν) (c : Channel) (data : Bytes) : Prop where
  inbox : y.inbox = x.inbox
  caller : ∃ g, (x.directory.call c).pending = .awaiting g ∧
    y.directory.status c = { x.directory.status c with
      call := { x.directory.call c with
        pending := .idle
        replies := (x.directory.call c).replies ++ [(g, data)] } }
  others : ∀ c', ¬ (c'.home = c.home ∧ c'.id = c.id) → y.directory.status c' = x.directory.status c'

/-- **Some channels got the buffer through the protocol,** each once and in this order, and those with
a mask heard the sender. -/
structure Delivered (x y : Exchange ν) (cs : List Channel) (sender : Option Endpoint)
    (data : Bytes) : Prop where
  inbox : y.inbox = x.inbox ++ cs.map fun c => ⟨c, data⟩
  heard : ∀ c ∈ cs, c.remote.isMask = true →
    y.directory.status c = { x.directory.status c with lastSender := sender }
  others : ∀ c, (∀ c' ∈ cs, c'.remote.isMask = true → c'.id ≠ c.id) →
    y.directory.status c = x.directory.status c

/-- **What becomes of a buffer** that is for some channels. -/
structure Handed (x y : Exchange ν) (cs : List Channel) (sender : Option Endpoint) (data : Bytes) :
    Prop where
  answered : (∃ c ∈ cs, x.directory.isAwaiting c = true) →
    ∃ c ∈ cs, x.directory.isAwaiting c = true ∧ Answered x y c data
  delivered : (∀ c ∈ cs, x.directory.isAwaiting c = false) → Delivered x y cs sender data
  lost : cs = [] → y = { x with journal := y.journal }
  entries : y.directory.entries = x.directory.entries
  rest : y = { x with directory := y.directory, inbox := y.inbox, journal := y.journal }

/-- What the protocol is handed of a buffer. -/
def deliveries (x : Exchange ν) (cs : List Channel) (data : Bytes) : List Delivery :=
  if cs.any x.directory.isAwaiting = true then [] else cs.map fun c => ⟨c, data⟩

theorem Handed.inbox {cs : List Channel} {sender : Option Endpoint} {data : Bytes}
    (h : Handed x y cs sender data) : y.inbox = x.inbox ++ x.deliveries cs data := by
  unfold deliveries
  split_ifs with hany
  · obtain ⟨c, -, -, hanswered⟩ := h.answered (List.any_eq_true.mp hany)
    rw [hanswered.inbox, List.append_nil]
  · refine (h.delivered fun c hc => ?_).inbox
    exact Bool.eq_false_iff.mpr fun ha => hany (List.any_eq_true.mpr ⟨c, hc, ha⟩)

/-! ### Handing a buffer on -/

theorem audience_eq_matching (id : SocketId) (role : Role) (sender : Option Endpoint)
    (x : Exchange ν) : x.audience id role sender = x.matching id role sender := by
  unfold audience matching
  cases role with
  | outbound => rfl
  | listener | accepted =>
    cases x.listener with
    | none => rfl
    | some l =>
      cases sender with
      | none => rfl
      | some e => exact recipients_eq_nearest x.directory

theorem entries_foldl_deliver (sender : Option Endpoint) (data : Bytes) (cs : List Channel)
    (x : Exchange ν) :
    (cs.foldl (deliver sender data) x).directory.entries = x.directory.entries := by
  induction cs generalizing x with
  | nil => rfl
  | cons c cs ih =>
    refine (ih _).trans ?_
    unfold deliver modifyStatus onDirectory
    cases sender with
    | none => rfl
    | some far =>
      dsimp only
      split_ifs <;> rfl

/-- Where the sender is not known, nobody hears anything. -/
theorem directory_foldl_deliver_none (data : Bytes) (cs : List Channel) (x : Exchange ν) :
    (cs.foldl (deliver none data) x).directory = x.directory := by
  induction cs generalizing x with
  | nil => rfl
  | cons c cs ih => exact ih _

/-- A channel that is handed a buffer remembers the sender, if it has a mask. -/
theorem status_deliver (far : Endpoint) (data : Bytes) (x : Exchange ν) (c c' : Channel) :
    (deliver (some far) data x c).directory.status c' =
      if c.remote.isMask = true ∧ x.directory.Keeps c ∧ c'.home = c.home ∧ c'.id = c.id then
        { x.directory.status c' with lastSender := some far }
      else x.directory.status c' := by
  unfold deliver
  dsimp only
  by_cases hm : c.remote.isMask = true
  · rw [if_pos hm]
    simp only [hm, true_and]
    exact status_modifyStatus ..
  · rw [if_neg hm, if_neg fun h => hm h.1]

theorem status_foldl_deliver (far : Endpoint) (data : Bytes) (cs : List Channel) (x : Exchange ν)
    (c' : Channel) : (cs.foldl (deliver (some far) data) x).directory.status c' =
      if ∃ c ∈ cs, c.remote.isMask = true ∧ x.directory.Keeps c ∧ c'.home = c.home ∧ c'.id = c.id then
        { x.directory.status c' with lastSender := some far }
      else x.directory.status c' := by
  induction cs generalizing x with
  | nil => simp
  | cons c cs ih =>
    have hkeeps := (Undisturbed.deliver (some far) data x c).keeps
    rw [List.foldl_cons, ih, status_deliver]
    simp only [hkeeps, List.exists_mem_cons_iff]
    by_cases hcs : ∃ c ∈ cs,
        c.remote.isMask = true ∧ x.directory.Keeps c ∧ c'.home = c.home ∧ c'.id = c.id
    · rw [if_pos hcs]
      refine Eq.trans ?_ (if_pos (.inr hcs)).symm
      split_ifs <;> rfl
    · rw [if_neg hcs]
      exact if_congr (or_iff_left hcs).symm rfl rfl

theorem answered_modifyCall {c : Channel} (hc : x.directory.isAwaiting c = true) (data : Bytes)
    (t : Traffic) : Answered x ((x.onDirectory (·.modifyCall c fun b => (b.fulfil data).2)).record t) c
      data := by
  obtain ⟨g, hg⟩ := isAwaiting_iff.mp hc
  have hkeeps : x.directory.Keeps c := keeps_of_pending fun h => nomatch h.symm.trans hg
  have hstatus : ∀ c', (x.directory.modifyCall c fun b => (b.fulfil data).2).status c' =
      if x.directory.Keeps c ∧ c'.home = c.home ∧ c'.id = c.id then
        { x.directory.status c' with call := ((x.directory.status c').call.fulfil data).2 }
      else x.directory.status c' := fun c' => status_modifyStatus ..
  refine ⟨rfl, ⟨g, hg, (hstatus c).trans ?_⟩, fun c' hc' => (hstatus c').trans (if_neg fun h => hc' h.2)⟩
  rw [if_pos ⟨hkeeps, rfl, rfl⟩, CallBox.fulfil, show (x.directory.status c).call.pending = _ from hg]
  rfl

/-- The channels are in the directory, and for those with a mask the sender is known. -/
theorem delivered_foldl_deliver (h : x.directory.core.Numbered) {cs : List Channel}
    {sender : Option Endpoint} (hcs : ∀ c ∈ cs, (∃ e ∈ x.directory.entries, e.channel = c) ∧
      (c.remote.isMask = true → sender ≠ none)) (data : Bytes) (t : Traffic) :
    Delivered x ((cs.foldl (deliver sender data) x).record t) cs sender data where
  inbox := by
    obtain ⟨_, heq⟩ := foldl_deliver_eq sender data cs x
    rw [heq]
    rfl
  heard c hc hm := by
    obtain ⟨⟨e, he, rfl⟩, hsender⟩ := hcs c hc
    obtain ⟨far, rfl⟩ := Option.ne_none_iff_exists'.mp (hsender hm)
    have hkeeps := keeps_of_mem h he
    exact (status_foldl_deliver far data cs x e.channel).trans (if_pos ⟨_, hc, hm, hkeeps, rfl, rfl⟩)
  others c hc := by
    cases sender with
    | none => exact congrArg (fun d : Directory => d.status c) (directory_foldl_deliver_none data cs x)
    | some far =>
      refine (status_foldl_deliver far data cs x c).trans (if_neg ?_)
      rintro ⟨c', hc', hm, -, -, hid⟩
      exact hc c' hc' hm hid.symm

/-- **Handing a buffer on** does with it what becomes of it, and nothing else. -/
theorem handed_route (h : x.outline.Sound) {id : SocketId} {s : Socket}
    (hs : x.sockets.find? id = some s) (sender : Option Endpoint) (data : Bytes) :
    Handed x (x.route id s.role sender data) (x.matching id s.role sender) sender data := by
  have hmem : ∀ c ∈ x.matching id s.role sender, (∃ e ∈ x.directory.entries, e.channel = c) ∧
      (c.remote.isMask = true → sender ≠ none) := by
    intro c hc
    rw [← audience_eq_matching] at hc
    obtain ⟨hentry, hmask⟩ := exists_of_mem_audience h hs hc
    refine ⟨hentry, fun hm hnone => ?_⟩
    obtain ⟨-, far, hfar, -⟩ := hmask hm
    exact nomatch hnone.symm.trans hfar
  unfold route
  rw [audience_eq_matching]
  dsimp only
  cases hfind : (x.matching id s.role sender).find? x.directory.isAwaiting with
  | some c =>
    -- The first channel that awaits a reply gets it, whoever else the buffer is for.
    have hc := List.mem_of_find?_eq_some hfind
    have ha : x.directory.isAwaiting c = true := List.find?_some hfind
    exact ⟨fun _ => ⟨c, hc, ha, answered_modifyCall ha data _⟩,
      fun hnone => absurd ((hnone c hc).symm.trans ha) Bool.false_ne_true,
      fun hempty => absurd (hempty ▸ hc) List.not_mem_nil, entries_modifyCall .., rfl⟩
  | none =>
    have hnone := List.find?_eq_none.mp hfind
    obtain ⟨_, heq⟩ := foldl_deliver_eq sender data (x.matching id s.role sender) x
    refine ⟨fun ⟨c, hc, ha⟩ => absurd ha (hnone c hc),
      fun _ => delivered_foldl_deliver h.numbered hmem data _, fun hempty => ?_,
      entries_foldl_deliver sender data (x.matching id s.role sender) x, ?_⟩
    · rw [hempty]
      rfl
    · dsimp only
      rw [heq]
      rfl

end Exchange

end Switchboard
