import Switchboard.Directory
import Mathlib.Tactic.SplitIfs

/-!
# The channels that hear a sender best

`Directory.recipients` goes through the channels once and keeps those of the best tier so far.  What
it comes to is told without the course: of the inbound channels on the listener that match the sender,
those for which no other one matches it in a better tier, in the order of the directory
(`recipients_eq_nearest`).  What carries the proof is that the best tier of all entries is known by
itself (`Directory.closest`), and that only those who hear the sender in it stay (`foldl_consider`).
-/

namespace Switchboard

open Net

theorem Tier.eq_of_rank_eq {t t' : Tier} (h : t.rank = t'.rank) : t = t' := by
  cases t <;> cases t' <;> first | rfl | exact nomatch h

namespace Directory

variable {listener : SocketId} {sender : Endpoint}

/-- The tier in which the channel of an entry hears a sender on the listener, if it does. -/
def hears? (listener : SocketId) (sender : Endpoint) (e : Entry) : Option Tier :=
  if e.channel.subject.direction = .inbound ∧ e.socket = some listener then
    e.channel.remote.tier? sender
  else none

/-- **The channels that hear a sender best,** those that no other one hears it better than. -/
def nearest (d : Directory) (listener : SocketId) (sender : Endpoint) : List Channel :=
  d.select fun e => (hears? listener sender e).any fun t =>
    d.entries.all fun e' => (hears? listener sender e').all fun t' => t.rank ≤ t'.rank

/-! ### The best tier -/

/-- The better of a tier and that in which an entry hears the sender. -/
def better (listener : SocketId) (sender : Endpoint) (b : Tier) (e : Entry) : Tier :=
  match hears? listener sender e with
  | some t => if t.rank < b.rank then t else b
  | none => b

/-- The best of a tier and those in which some entries hear the sender. -/
def closest (listener : SocketId) (sender : Endpoint) (entries : List Entry) (b : Tier) : Tier :=
  entries.foldl (better listener sender) b

theorem rank_better_le (b : Tier) (e : Entry) : (better listener sender b e).rank ≤ b.rank := by
  unfold better
  split
  · split_ifs with h
    · exact Nat.le_of_lt h
    · exact Nat.le_refl _
  · exact Nat.le_refl _

theorem rank_better_le_of_hears {e : Entry} {t : Tier} (h : hears? listener sender e = some t)
    (b : Tier) : (better listener sender b e).rank ≤ t.rank := by
  unfold better
  rw [h]
  dsimp only
  split_ifs with hlt
  · exact Nat.le_refl _
  · exact Nat.not_lt.mp hlt

theorem rank_closest_le (entries : List Entry) (b : Tier) :
    (closest listener sender entries b).rank ≤ b.rank := by
  unfold closest
  induction entries generalizing b with
  | nil => exact Nat.le_refl _
  | cons e entries ih => exact Nat.le_trans (ih _) (rank_better_le b e)

theorem rank_closest_le_of_hears {entries : List Entry} {e : Entry} (he : e ∈ entries) {t : Tier}
    (h : hears? listener sender e = some t) (b : Tier) :
    (closest listener sender entries b).rank ≤ t.rank := by
  induction entries generalizing b with
  | nil => exact nomatch he
  | cons e' entries ih =>
    rcases List.mem_cons.mp he with rfl | he
    · exact Nat.le_trans (rank_closest_le entries _) (rank_better_le_of_hears h b)
    · exact ih he _

/-- The best tier is the one at the start, or an entry hears the sender in it. -/
theorem closest_cases (listener : SocketId) (sender : Endpoint) (entries : List Entry) (b : Tier) :
    closest listener sender entries b = b ∨
      ∃ e ∈ entries, hears? listener sender e = some (closest listener sender entries b) := by
  induction entries generalizing b with
  | nil => exact .inl rfl
  | cons e entries ih =>
    rcases ih (better listener sender b e) with hsame | ⟨e', he', hhears⟩
    · have hfirst : better listener sender b e = b ∨
          hears? listener sender e = some (better listener sender b e) := by
        unfold better
        split
        · rename_i t ht
          split_ifs
          · exact .inr ht
          · exact .inl rfl
        · exact .inl rfl
      rw [closest, List.foldl_cons, ← closest, hsame]
      exact hfirst.imp_right fun h => ⟨e, List.mem_cons_self, h⟩
    · exact .inr ⟨e', List.mem_cons_of_mem _ he', hhears⟩

/-! ### Who stays -/

/-- The channels that hear the sender in a tier. -/
def hearingIn (listener : SocketId) (sender : Endpoint) (entries : List Entry) (t : Tier) :
    List Channel :=
  (entries.filter fun e => hears? listener sender e = some t).map (·.channel)

theorem hearingIn_cons (e : Entry) (entries : List Entry) (t : Tier) :
    hearingIn listener sender (e :: entries) t =
      (if hears? listener sender e = some t then [e.channel] else []) ++
        hearingIn listener sender entries t := by
  unfold hearingIn
  rw [List.filter_cons]
  split_ifs <;> simp_all

/-- One entry more is told by the tier in which its channel hears the sender. -/
theorem consider_eq (best : Option Tier × List Channel) (e : Entry) :
    consider listener sender best e =
      match hears? listener sender e, best with
      | none, _ => best
      | some t, (none, _) => (some t, [e.channel])
      | some t, (some b, cs) =>
        if t.rank < b.rank then (some t, [e.channel])
        else if t = b then (some b, cs ++ [e.channel])
        else best := by
  unfold consider hears?
  split_ifs <;> rfl

/-- **Of those who hear the sender, the fold keeps those who do in the best tier,** and who was there
before if no tier was better. -/
theorem foldl_consider (entries : List Entry) (b : Tier) (cs : List Channel) :
    entries.foldl (consider listener sender) (some b, cs) =
      (some (closest listener sender entries b),
        (if closest listener sender entries b = b then cs else []) ++
          hearingIn listener sender entries (closest listener sender entries b)) := by
  induction entries generalizing b cs with
  | nil => simp [closest, hearingIn]
  | cons e entries ih =>
    have hclosest : closest listener sender (e :: entries) b =
        closest listener sender entries (better listener sender b e) := rfl
    rw [List.foldl_cons, consider_eq, hearingIn_cons, hclosest]
    cases ht : hears? listener sender e with
    | none =>
      have hb : better listener sender b e = b := by rw [better, ht]
      rw [hb]
      exact ih b cs
    | some t =>
      dsimp only
      by_cases hlt : t.rank < b.rank
      · -- Who was there before is heard no better, and goes.
        have hb : better listener sender b e = t := by rw [better, ht]; exact if_pos hlt
        have hle : (closest listener sender entries t).rank ≤ t.rank := rank_closest_le entries t
        have hne : closest listener sender entries t ≠ b := fun h => by
          rw [h] at hle
          exact Nat.not_lt.mpr hle hlt
        rw [if_pos hlt, hb, ih, if_neg hne, List.nil_append]
        simp only [Option.some.injEq, eq_comm]
      · have hb : better listener sender b e = b := by rw [better, ht]; exact if_neg hlt
        have hle : (closest listener sender entries b).rank ≤ b.rank := rank_closest_le entries b
        rw [if_neg hlt, hb]
        by_cases heq : t = b
        · subst heq
          rw [if_pos rfl, ih]
          by_cases hsame : closest listener sender entries t = t
          · simp [hsame]
          · simp [hsame, Ne.symm hsame]
        · -- The best tier is no worse than that of those who are there.
          have hne : t ≠ closest listener sender entries b := by
            intro h
            rw [← h] at hle
            exact heq (Tier.eq_of_rank_eq (Nat.le_antisymm hle (Nat.not_lt.mp hlt)))
          rw [if_neg heq, ih]
          simp [hne]

/-- What the whole fold comes to. -/
theorem foldl_consider_cases (listener : SocketId) (sender : Endpoint) (entries : List Entry) :
    (∀ e ∈ entries, hears? listener sender e = none) ∧
        (entries.foldl (consider listener sender) (none, [])).2 = [] ∨
      ∃ b, (∃ e ∈ entries, hears? listener sender e = some b) ∧
        (∀ e ∈ entries, ∀ t, hears? listener sender e = some t → b.rank ≤ t.rank) ∧
          (entries.foldl (consider listener sender) (none, [])).2 =
            hearingIn listener sender entries b := by
  induction entries with
  | nil => exact .inl ⟨nofun, rfl⟩
  | cons e entries ih =>
    rw [List.foldl_cons, consider_eq]
    cases he : hears? listener sender e with
    | none =>
      rcases ih with ⟨hnone, hempty⟩ | ⟨b, ⟨e', he', hb⟩, hleast, heq⟩
      · exact .inl ⟨List.forall_mem_cons.mpr ⟨he, hnone⟩, hempty⟩
      · refine .inr ⟨b, ⟨e', List.mem_cons_of_mem _ he', hb⟩, List.forall_mem_cons.mpr ⟨?_, hleast⟩, ?_⟩
        · exact fun t ht => nomatch he.symm.trans ht
        · rw [hearingIn_cons, he, if_neg nofun, List.nil_append]
          exact heq
    | some t =>
      refine .inr ⟨closest listener sender entries t, ?_, List.forall_mem_cons.mpr ⟨?_, ?_⟩, ?_⟩
      · rcases closest_cases listener sender entries t with hsame | ⟨e', he', hb⟩
        · exact ⟨e, List.mem_cons_self, he.trans (congrArg some hsame.symm)⟩
        · exact ⟨e', List.mem_cons_of_mem _ he', hb⟩
      · rintro t' ht'
        obtain rfl := Option.some.inj (he.symm.trans ht')
        exact rank_closest_le entries t
      · exact fun e' he' t' ht' => rank_closest_le_of_hears he' ht' t
      · dsimp only
        rw [foldl_consider, hearingIn_cons, he]
        simp only [Option.some.injEq, eq_comm]

/-- **The recipients are the channels that hear the sender best.** -/
theorem recipients_eq_nearest (d : Directory) :
    d.recipients listener sender = d.nearest listener sender := by
  unfold recipients nearest select
  rcases foldl_consider_cases listener sender d.entries
    with ⟨hnone, hempty⟩ | ⟨b, ⟨e₀, he₀, hb⟩, hleast, heq⟩
  · rw [hempty, List.filter_eq_nil_iff.mpr fun e he => by simp [hnone e he], List.map_nil]
  · rw [heq, hearingIn]
    refine congrArg (List.map Entry.channel) (List.filter_congr fun e he => ?_)
    cases ht : hears? listener sender e with
    | none => simp
    | some t =>
      rw [Bool.eq_iff_iff]
      simp only [decide_eq_true_eq, Option.some.injEq, Option.any_some, List.all_eq_true]
      constructor
      · rintro rfl e' he'
        cases ht' : hears? listener sender e' with
        | none => rfl
        | some t' => simpa using hleast e' he' t' ht'
      · intro hall
        have hle := hall e₀ he₀
        rw [hb, Option.all_some, decide_eq_true_eq] at hle
        exact Tier.eq_of_rank_eq (Nat.le_antisymm hle (hleast e he t ht))

end Directory

end Switchboard
