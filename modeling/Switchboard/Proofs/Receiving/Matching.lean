import Switchboard.Proofs.Directory
import Switchboard.Proofs.Receiving.Nearest

/-!
# Who matches a sender, and who matches it best

A remote matches a sender when its host is open or the sender's, and its port is open or the
sender's; a concrete remote matches its own endpoint only, the scope included (`Remote.Matches`).  In
which tier it does so is not a matter of the sender: it is told by the parts that are open
(`Remote.breadth`, `Remote.tier?_eq`).

So the recipients of what a sender sent are told without tiers that are searched for: the inbound
channels on the listener that match the sender, and of these the ones that leave no more open than any
other of them, all of them, in the order in which they were made (`Directory.recipients_best`).
-/

namespace Switchboard

open Net

/-! ### One remote -/

namespace Remote

/-- **Does the remote match the sender?**  Host and port are each left open or the sender's. -/
def Matches (r : Remote) (sender : Endpoint) : Prop :=
  match r with
  | .endpoint e => e = sender
  | .mask host port =>
    (host = none ∨ host = some sender.address) ∧ (port = none ∨ port = some sender.port)

instance (r : Remote) (sender : Endpoint) : Decidable (r.Matches sender) :=
  match r with
  | .endpoint e => inferInstanceAs (Decidable (e = sender))
  | .mask host port => inferInstanceAs (Decidable
      ((host = none ∨ host = some sender.address) ∧ (port = none ∨ port = some sender.port)))

/-- The tier of a remote, by what it leaves open: an open host is preferred to an open port. -/
def breadth (r : Remote) : Tier :=
  match r.host?, r.port? with
  | some _, some _ => .exact
  | none, some _ => .anyHost
  | some _, none => .anyPort
  | none, none => .any

/-- **A remote that matches does so in the tier of what it leaves open.** -/
theorem tier?_eq (r : Remote) (sender : Endpoint) :
    r.tier? sender = if r.Matches sender then some r.breadth else none := by
  cases r with
  | endpoint e => rfl
  | mask host port =>
    cases host <;> cases port <;> simp [tier?, Matches, breadth, host?, port?]

end Remote

namespace Directory

/-- The channel of the entry is an inbound one on the listener, and its remote matches the sender. -/
def Hears (listener : SocketId) (sender : Endpoint) (e : Entry) : Prop :=
  e.channel.direction = .inbound ∧ e.socket = some listener ∧ e.channel.remote.Matches sender

instance (listener : SocketId) (sender : Endpoint) (e : Entry) :
    Decidable (Hears listener sender e) :=
  inferInstanceAs (Decidable (_ ∧ _ ∧ _))

theorem hears?_eq (listener : SocketId) (sender : Endpoint) (e : Entry) :
    hears? listener sender e =
      if Hears listener sender e then some e.channel.remote.breadth else none := by
  unfold hears?
  rw [Remote.tier?_eq]
  by_cases hin : e.channel.subject.direction = .inbound ∧ e.socket = some listener
  · have hiff : e.channel.remote.Matches sender ↔ Hears listener sender e :=
      ⟨fun h => ⟨hin.1, hin.2, h⟩, fun h => h.2.2⟩
    rw [if_pos hin]
    simp only [hiff]
  · rw [if_neg hin, if_neg fun h : Hears listener sender e => hin ⟨h.1, h.2.1⟩]

/-! ### The best of them -/

/-- The channel of the entry hears the sender, and no other channel that does leaves less open. -/
def HearsBest (d : Directory) (listener : SocketId) (sender : Endpoint) (e : Entry) : Prop :=
  Hears listener sender e ∧ ∀ e' ∈ d.entries, Hears listener sender e' →
    e.channel.remote.breadth.rank ≤ e'.channel.remote.breadth.rank

instance (d : Directory) (listener : SocketId) (sender : Endpoint) (e : Entry) :
    Decidable (d.HearsBest listener sender e) :=
  inferInstanceAs (Decidable (_ ∧ ∀ e' ∈ d.entries, _ → _))

variable {d : Directory} {listener : SocketId} {sender : Endpoint}

theorem nearest_eq_select :
    d.nearest listener sender = d.select fun e => decide (d.HearsBest listener sender e) := by
  unfold nearest select
  refine congrArg (List.map Entry.channel) (List.filter_congr fun e _ => ?_)
  have hall (b : Nat) (e' : Entry) : ((hears? listener sender e').all fun t' => b ≤ t'.rank) =
      decide (Hears listener sender e' → b ≤ e'.channel.remote.breadth.rank) := by
    rw [hears?_eq]
    split_ifs with h <;> simp [h]
  rw [hears?_eq]
  by_cases he : Hears listener sender e
  · rw [if_pos he, Option.any_some, Bool.eq_iff_iff]
    simp only [hall, List.all_eq_true, decide_eq_true_eq, HearsBest, he, true_and]
  · rw [if_neg he, Option.any_none]
    exact (decide_eq_false fun h => he h.1).symm

/-- Where somebody hears the sender, somebody hears it best. -/
theorem exists_hearsBest {e : Entry} (he : e ∈ d.entries) (h : Hears listener sender e) :
    ∃ e' ∈ d.entries, d.HearsBest listener sender e' := by
  rcases foldl_consider_cases listener sender d.entries with ⟨hnone, -⟩ | ⟨b, ⟨e', he', hb⟩, hleast, -⟩
  · exact absurd (hnone e he) (by rw [hears?_eq, if_pos h]; nofun)
  · rw [hears?_eq, Option.ite_none_right_eq_some] at hb
    obtain ⟨h', heq⟩ := hb
    obtain rfl := Option.some.inj heq
    exact ⟨e', he', h', fun e'' he'' h'' => hleast e'' he'' _ (by rw [hears?_eq, if_pos h''])⟩

/-- **What a sender sent is for those who match it best.**  The recipients are the inbound channels on
the listener whose remote matches the sender, of these the ones of the best tier, all of them, each
once and in the order in which they were made; where one matches, there are some. -/
theorem recipients_best (d : Directory) (listener : SocketId) (sender : Endpoint) :
    d.recipients listener sender = d.select (fun e => decide (d.HearsBest listener sender e)) ∧
      ((∃ e ∈ d.entries, Hears listener sender e) → d.recipients listener sender ≠ []) ∧
      (d.recipients listener sender).Sublist d.channels ∧
      (d.core.Numbered → ((d.recipients listener sender).map (·.id)).Pairwise (· < ·)) := by
  have heq : d.recipients listener sender =
      d.select fun e => decide (d.HearsBest listener sender e) :=
    recipients_eq_nearest d |>.trans nearest_eq_select
  have hsub : (d.recipients listener sender).Sublist d.channels := by
    rw [heq]
    exact List.filter_sublist.map _
  refine ⟨heq, fun ⟨e, he, h⟩ => ?_, hsub, fun hn => ?_⟩
  · obtain ⟨e', he', hbest⟩ := exists_hearsBest he h
    rw [heq]
    exact List.ne_nil_of_mem (List.mem_map_of_mem (List.mem_filter.mpr ⟨he', decide_eq_true hbest⟩))
  · have hasc := hn.ascending
    rw [show (d.core.entries.map fun e => e.channel.id) = d.channels.map (·.id) from
      List.map_map.symm] at hasc
    exact hasc.sublist (hsub.map _)

/-- Inbound channels of every tier on one socket, the widest first; the last but one is outbound, and
the last is on another socket. -/
def ladder : Directory where
  entries :=
    let host : IpAddress := .v4 ⟨10, 0, 0, 7⟩
    let entry (id : ChannelId) (direction : Direction) (r : Remote) (socket : SocketId) : Entry :=
      ⟨⟨0, id, ⟨"lamp", "*", direction⟩, r⟩, some socket⟩
    [entry 0 .inbound (.mask none none) 1, entry 1 .inbound (.mask (some host) none) 1,
      entry 2 .inbound (.mask none (some 5000)) 1, entry 3 .inbound (.mask none (some 5000)) 1,
      entry 4 .outbound (.endpoint (.of host 5000)) 1, entry 5 .inbound (.endpoint (.of host 5000)) 2]
  statuses := List.replicate 6 {}

theorem recipients_ladder :
    let sender : Endpoint := .of (.v4 ⟨10, 0, 0, 7⟩) 5000
    ladder.core.Numbered ∧ (∃ e ∈ ladder.entries, Hears 1 sender e) ∧
      (ladder.recipients 1 sender).map (·.id) = [2, 3] ∧ ladder.recipients 1 sender ≠ [] ∧
      ((ladder.recipients 1 sender).map (·.id)).Pairwise (· < ·) := by
  intro sender
  have hnumbered : ladder.core.Numbered := ⟨by decide, by decide, by decide⟩
  have hhears : ∃ e ∈ ladder.entries, Hears 1 sender e := by decide
  obtain ⟨-, hsome, -, hascending⟩ := recipients_best ladder 1 sender
  exact ⟨hnumbered, hhears, by decide, hsome hhears, hascending hnumbered⟩

end Directory

end Switchboard
