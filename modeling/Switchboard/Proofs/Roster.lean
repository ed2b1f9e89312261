import Switchboard.Proofs.Calls.Books
import Switchboard.Proofs.Limits.Confined
import Switchboard.Proofs.Removal

/-!
# Who is registered

The channels of an exchange stand in the order of their numbers, no two of them are for the same
subject and remote, and each is one that the settings in effect allow (`Exchange.Roster`).

Several operations have a part in that, each where it does something else.  What they do to the
channels and the settings is one of three things (`Turnover`): some channels go; or one comes, which
was looked for and not found, and was vetted; or other settings take effect, which were checked against
each other and against the masks that are in use.  The numbers are a matter of the outline: they only
grow, so a number that was given out is never another channel's (`Reachable.registered`).
-/

namespace Switchboard

open Net Settings Directory Outline

/-- What a channel is bound to: nobody else has the same subject and remote. -/
def Channel.binding (c : Channel) : Subject × Remote :=
  (c.subject, c.remote)

/-- **Flags that do not contradict each other:** a wider circle is open only with the narrower ones,
and sharing between the directions only without masks. -/
theorem Sharing.check_eq_ok_iff (s : Sharing) : s.check = .ok () ↔
    (s.binding = true → s.item = true) ∧
      (s.directions = true → s.item = true ∧ s.binding = true ∧ s.masks = false) := by
  obtain ⟨item, binding, directions, masks⟩ := s
  cases item <;> cases binding <;> cases directions <;> cases masks <;>
    simp [Sharing.check, Sharing.conflict?]

namespace Directory

theorem vet_eq_ok_iff (s : Subject) (r : Remote) (masks : Bool) :
    vet s r masks = .ok () ↔ (r.isMask = true → s.direction = .inbound ∧ masks = true) := by
  unfold vet
  cases r.isMask <;> cases s.direction <;> cases masks <;> simp

/-- Where nobody is found, nobody is bound to the pair. -/
theorem not_mem_of_bound? {d : Directory} {s : Subject} {r : Remote} (h : d.bound? s r = none) :
    (s, r) ∉ d.channels.map Channel.binding := by
  intro hmem
  obtain ⟨c, hc, hpair⟩ := List.mem_map.mp hmem
  obtain ⟨e, he, rfl⟩ := List.mem_map.mp hc
  obtain ⟨rfl, rfl⟩ := Prod.mk.inj hpair
  have hfind := List.find?_eq_none.mp (Option.map_eq_none_iff.mp h) e he
  simp at hfind

/-- Changing nothing but links changes no channel. -/
theorem map_channel_map {f : Entry → Entry} (hf : ∀ e, (f e).channel = e.channel)
    (entries : List Entry) : (entries.map f).map (·.channel) = entries.map (·.channel) := by
  rw [List.map_map]
  exact List.map_congr_left fun e _ => hf e

end Directory

namespace Exchange

variable {ν : Type} {x y z : Exchange ν}

/-- **Who is registered, and that the settings in effect allow it.** -/
structure Roster (x : Exchange ν) : Prop where
  ascending : (x.directory.channels.map (·.id)).Pairwise (· < ·)
  below : ∀ c ∈ x.directory.channels, c.id < x.directory.statuses.length
  distinct : (x.directory.channels.map Channel.binding).Nodup
  concrete : ∀ c ∈ x.directory.channels, c.direction = .outbound → c.remote.isMask = false
  allowed : ∀ c ∈ x.directory.channels, c.remote.isMask = true → x.profile.sharing.masks = true
  flags : x.profile.sharing.check = .ok ()
  /-- Sharing between the directions and masked channels never come together. -/
  apart : x.profile.sharing.directions = true → ∀ c ∈ x.directory.channels, c.remote.isMask = false

/-- **What happens to the channels and the settings in one step.** -/
inductive Turnover (x y : Exchange ν) : Prop
  | went (hc : y.directory.channels.Sublist x.directory.channels) (hp : y.profile = x.profile)
  | came (s : Subject) (r : Remote) (hv : vet s r x.profile.sharing.masks = .ok ())
      (hb : x.directory.bound? s r = none)
      (hc : y.directory.channels = x.directory.channels ++ [(x.directory.append s r).1])
      (hp : y.profile = x.profile)
  | settled (hs : y.profile.sharing.check = .ok ())
      (hm : y.profile.sharing.masks = true ∨ x.directory.channels.any (·.remote.isMask) = false)
      (hc : y.directory.channels = x.directory.channels)

/-- The channels suit other settings that leave the masks on where they are in use. -/
theorem masks_of_channels {p : Profile}
    (hm : p.sharing.masks = true ∨ x.directory.channels.any (·.remote.isMask) = false) :
    ∀ c ∈ x.directory.channels, c.remote.isMask = true → p.sharing.masks = true :=
  fun c hc hmask => hm.resolve_right fun hnone => List.any_eq_false.mp hnone c hc hmask

theorem Turnover.of_eq (hc : y.directory.channels = x.directory.channels)
    (hp : y.profile = x.profile) : Turnover x y :=
  .went (hc ▸ List.Sublist.refl _) hp

/-! ### The numbers -/

theorem map_id_channels (x : Exchange ν) : x.directory.channels.map (·.id) =
    x.outline.directory.entries.map fun e => e.channel.id :=
  List.map_map

/-- What a roster says beside the numbers is enough, where they are in order. -/
theorem Roster.of_sound (h : x.outline.Sound)
    (hdistinct : (x.directory.channels.map Channel.binding).Nodup)
    (hallowed : ∀ c ∈ x.directory.channels, c.remote.isMask = true → x.profile.sharing.masks = true)
    (hflags : x.profile.sharing.check = .ok ()) : x.Roster where
  ascending := map_id_channels x ▸ h.numbered.ascending
  below c hc := by
    obtain ⟨e, he, rfl⟩ := List.mem_map.mp hc
    exact length_senders x ▸ h.numbered.below e he
  distinct := hdistinct
  concrete c hc := by
    obtain ⟨e, he, rfl⟩ := List.mem_map.mp hc
    exact h.concrete e he
  allowed := hallowed
  flags := hflags
  apart hd c hc := by
    have hoff := (((Sharing.check_eq_ok_iff _).mp hflags).2 hd).2.2
    by_contra hmask
    exact nomatch hoff.symm.trans (hallowed c hc (eq_true_of_ne_false hmask))

/-- **Every turnover keeps the roster.** -/
theorem Roster.turnover (h : x.Roster) (hsound : y.outline.Sound) (ht : Turnover x y) :
    y.Roster := by
  cases ht with
  | went hc hp =>
    exact .of_sound hsound (h.distinct.sublist (hc.map _))
      (fun c hmem => hp ▸ h.allowed c (hc.subset hmem)) (hp ▸ h.flags)
  | came s r hv hb hc hp =>
    refine .of_sound hsound ?_ (fun c hmem => ?_) (hp ▸ h.flags)
    · rw [hc, List.map_append, List.map_singleton, List.nodup_append]
      refine ⟨h.distinct, List.nodup_singleton _, fun pair hpair pair' hpair' => ?_⟩
      -- Had the pair been bound, its channel would have been found, and nobody would have come.
      rw [List.mem_singleton.mp hpair']
      rintro rfl
      exact not_mem_of_bound? hb hpair
    · rw [hp]
      rw [hc, List.mem_append, List.mem_singleton] at hmem
      rcases hmem with hold | rfl
      · exact h.allowed c hold
      · exact fun hmask => ((vet_eq_ok_iff s r _).mp hv hmask).2
  | settled hs hm hc =>
    -- The pairs are as they were; it is the settings that have to suit the channels.
    exact .of_sound hsound (hc ▸ h.distinct) (hc ▸ masks_of_channels hm) hs

/-! ### Steps -/

variable [Network ν]

theorem channels_moveListener (p : Profile) (ownEnd : Endpoint) (x : Exchange ν) :
    (x.moveListener p ownEnd).directory.channels = x.directory.channels := by
  obtain ⟨next, -, heq⟩ := outline_moveListener p ownEnd x
  have hrebind : (x.outline.rebind p.transport next).entries.map (·.channel) =
      x.directory.channels := by
    unfold Outline.rebind
    split
    · rfl
    · exact map_channel_map (channel_relinkEntry _ _) _
  have hchannels : (x.moveListener p ownEnd).directory.channels =
      (x.moveListener p ownEnd).outline.entries.map (·.channel) := rfl
  rw [hchannels, heq]
  split_ifs
  · exact (map_channel_map (channel_detachEntry _) _).trans hrebind
  · exact hrebind

theorem channels_deactivate (x : Exchange ν) :
    x.deactivate.directory.channels = x.directory.channels := by
  unfold deactivate close
  dsimp only
  split_ifs
  · rfl
  · have hentries (d : Directory) : (d.cancelCalls d.channels).unlinkAll.entries =
        d.entries.map fun e => { e with socket := none } := by
      have h := congrArg Core.entries (core_unlinkAll (d.cancelCalls d.channels))
      exact h.trans (congrArg (List.map _) (entries_cancelCalls _ d))
    rw [Directory.channels, hentries, directory_discard]
    exact map_channel_map (f := fun e => { e with socket := none }) (fun _ => rfl) _

theorem channels_retain (kept : List Channel) (x : Exchange ν) :
    (x.retain kept).directory.channels =
      x.directory.channels.filter fun c => kept.any (·.id == c.id) := by
  have hentries := congrArg Outline.entries (outline_retain kept x)
  have hchannels : (x.retain kept).directory.channels =
      (x.retain kept).outline.entries.map (·.channel) := rfl
  rw [hchannels, hentries, Directory.channels, List.filter_map]
  rfl

theorem turnover_singleStep (hstep : SingleStep x y) : Turnover x y := by
  have hcall (c : Channel) (f : CallBox → CallBox) :
      (x.onDirectory (·.modifyCall c f)).directory.channels = x.directory.channels :=
    congrArg (List.map Entry.channel) (congrArg Core.entries (core_modifyCall c f x.directory))
  cases hstep with
  | adopted p hs hm ht => exact .settled hs hm rfl
  | moved p ownEnd hs hm ho =>
    have hp := profile_moveListener p ownEnd x
    exact .settled (by rwa [hp]) (by rwa [hp]) (channels_moveListener p ownEnd x)
  | enrolled s r hv hb => exact .came s r hv hb (List.map_append ..) rfl
  | @joined c id ho hc hu hid => exact .of_eq (channels_join c id x) (profile_join c id x)
  | @connected c remote ownEnd ho hc hu hd hr hn =>
    exact .of_eq (channels_join c _ _) (profile_join c _ _)
  | retained kept =>
    exact .went (channels_retain kept x ▸ List.filter_sublist) (profile_retain kept x)
  | rearmed =>
    obtain ⟨_, _, heq⟩ := armPending_eq x
    exact .of_eq (by rw [heq]) (by rw [heq])
  | began c hb => exact .of_eq (hcall c _) rfl
  | collected c g => exact .of_eq (hcall c _) rfl
  | finished c g => exact .of_eq (hcall c _) rfl
  | faulted id =>
    obtain ⟨_, _, _, _, _, _, heq⟩ := reportFault_eq id x
    exact .of_eq (Undisturbed.reportFault id x).channels (by rw [heq])
  | _ => exact .of_eq rfl rfl

/-- **Every step is a turnover.** -/
theorem turnover_step (h : x.outline.Sound) (hstep : Step x y) : Turnover x y := by
  cases hstep with
  | plain hstep =>
    cases hstep with
    | single hstep => exact turnover_singleStep hstep
    | retried => exact .of_eq (Undisturbed.retryDue x).channels (profile_retryDue x)
    | @passed y ho hpass =>
      obtain ⟨_, _, heq⟩ := armPending_eq y
      have hchannels := channels_passSteps h hpass
      have hprofile := profile_passSteps hpass
      rw [heq]
      exact .of_eq hchannels hprofile
  | deactivated => exact .of_eq (channels_deactivate x) (profile_deactivate x)
  | told => exact .of_eq rfl rfl

theorem Roster.steps (h : x.Roster) (hsound : x.outline.Sound) (hsteps : Steps x y) : y.Roster := by
  induction hsteps with
  | refl => exact h
  | tail hbefore hstep ih =>
    have hmid := hsound.moves (moves_steps hsound hbefore)
    exact ih.turnover (hmid.moves (moves_step hmid hstep)) (turnover_step hmid hstep)

omit [Network ν] in
/-- A new exchange has nobody registered, and flags that were checked. -/
theorem roster_create {name : String} {profile : Profile} {network : ν}
    (h : create name profile network = .ok x) : x.Roster := by
  have hsound := sound_create h
  unfold create at h
  split at h
  · exact nomatch h
  · rename_i hflags
    obtain rfl := Except.ok.inj h
    exact .of_sound hsound .nil nofun hflags

/-! ### Runs -/

/-- **In every state there is, the roster is kept.** -/
theorem Reachable.roster (h : x.Reachable) : x.Roster := by
  obtain ⟨name, profile, network, start, ops, hc, rfl⟩ := h
  exact (roster_create hc).steps (sound_create hc) (steps_run start ops)

theorem length_statuses_run (h : x.outline.Sound) (ops : List (Operation ν)) :
    x.directory.statuses.length ≤ (x.run ops).directory.statuses.length := by
  rw [← length_senders, ← length_senders]
  exact (grows_moves (moves_run h ops)).senders

/-- **Who is registered.**  In every state there is, the channels have numbers of their own, in order
and below the next one; no two are bound to the same pair; and each of them suits the settings in
effect, whose flags do not contradict each other.  Numbers are given out once: whatever follows, a
channel whose number had been given out is a channel that was there, and it has been there all the
time. -/
theorem Reachable.registered (h : x.Reachable) : x.Roster ∧
    ∀ ops, x.directory.statuses.length ≤ (x.run ops).directory.statuses.length ∧
      ∀ c ∈ (x.run ops).directory.channels, c.id < x.directory.statuses.length →
        ∀ mid, mid <+: ops → c ∈ (x.run mid).directory.channels := by
  refine ⟨h.roster, fun ops => ⟨length_statuses_run h.sound ops, fun c hc hold mid hmid => ?_⟩⟩
  obtain ⟨rest, rfl⟩ := hmid
  have hgrows := grows_moves (moves_run (h.run mid).sound rest)
  rw [run_append] at hc
  -- Whoever came after that moment has a number that was not given out then.
  refine (hgrows.mem_channels hc).resolve_right (Nat.not_le.mpr ?_)
  exact Nat.lt_of_lt_of_le hold (length_statuses_run h.sound mid)

/-- At the lab, a channel is let go and its pair is bound again: it gets a new number, and the channel
that stayed has been there all the time. -/
theorem registered_lab :
    let ops : List (Operation Narrow) := [.reconfigure [(⟨"lamp", "*", .inbound⟩, .mask none none)],
      .bind ⟨"lamp", "*", .outbound⟩ (.endpoint (.of (.v4 .unspecified) 9))]
    lab.Reachable ∧ (lab.run ops).directory.channels.map (·.id) = [0, 2] ∧ lab.Roster ∧
      ∀ c ∈ (lab.run ops).directory.channels, c.id < 2 →
        ∀ mid, mid <+: ops → c ∈ (lab.run mid).directory.channels := by
  intro ops
  obtain ⟨hroster, hrun⟩ := Reachable.registered reachable_lab
  have hnext : lab.directory.statuses.length = 2 := by decide +kernel
  exact ⟨reachable_lab, by decide +kernel, hroster, hnext ▸ (hrun ops).2⟩

end Exchange

end Switchboard
