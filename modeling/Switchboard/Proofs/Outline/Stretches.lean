import Switchboard.Proofs.Outline.Order
import Mathlib.Data.List.Chain

/-!
# Stretches

Pieces that go on where the one before them stopped are joined to stretches (`Piece.join`), which
carry the same bytes.  Where a break between pieces only comes after the end of a write, or when its
channel has left, a stretch is all that there is of its write (`Piece.joined_of_chain`).
-/

namespace Switchboard.Piece

/-- Puts a piece before others, and joins it with the first if that goes on where it stopped. -/
def glue (p : Piece) : List Piece → List Piece
  | [] => [p]
  | q :: qs =>
    if q.write = p.write.advance p.count then ⟨p.socket, p.write, p.count + q.count⟩ :: qs
    else p :: q :: qs

/-- Joins the pieces that go on where the one before them stopped. -/
def join (ps : List Piece) : List Piece :=
  ps.foldr glue []

theorem exists_of_glue (p : Piece) (ps : List Piece) :
    ∃ q qs, glue p ps = q :: qs ∧ q.write = p.write := by
  unfold glue
  split
  · exact ⟨p, [], rfl, rfl⟩
  · split_ifs
    · exact ⟨_, _, rfl, rfl⟩
    · exact ⟨_, _, rfl, rfl⟩

theorem flatMap_bytes_glue (p : Piece) (ps : List Piece) :
    (glue p ps).flatMap bytes = p.bytes ++ ps.flatMap bytes := by
  unfold glue
  split
  · rfl
  · rename_i q qs
    split_ifs with hgoes
    · rw [List.flatMap_cons, List.flatMap_cons, ← List.append_assoc]
      unfold bytes
      dsimp only
      rw [hgoes, Write.remaining_advance, List.take_add]
    · rfl

/-- Joining changes no byte. -/
theorem flatMap_bytes_join (ps : List Piece) : (join ps).flatMap bytes = ps.flatMap bytes := by
  induction ps with
  | nil => rfl
  | cons p ps ih =>
    rw [List.flatMap_cons, ← ih]
    exact flatMap_bytes_glue p (join ps)

/-- A piece with what goes on after it ends its write if that does. -/
theorem isLast_append {p q : Piece} (hgoes : q.write = p.write.advance p.count)
    (hcount : p.count ≤ p.write.remaining.length) (h : q.isLast = true) :
    (⟨p.socket, p.write, p.count + q.count⟩ : Piece).isLast = true := by
  have hq : q.count = q.write.remaining.length := beq_iff_eq.mp h
  rw [hgoes, Write.remaining_advance, List.length_drop] at hq
  refine beq_iff_eq.mpr ?_
  change p.count + q.count = p.write.remaining.length
  omega

/-- **The second pieces are what some pieces come to:** of later and later writes, all but the end
the last of their write or of a channel that has left, and each beginning with the first piece of
its write. -/
structure Joined (left : Channel → Prop) (ps js : List Piece) : Prop where
  ascending : js.Pairwise (·.write.ticket < ·.write.ticket)
  ended : ∀ p ∈ js.dropLast, p.isLast = true ∨ left p.write.channel
  first : ∀ p ∈ js, ∃ before q after, ps = before ++ q :: after ∧ q.write = p.write ∧
    ∀ r ∈ before, r.write.ticket ≠ p.write.ticket

variable {left : Channel → Prop} {p m : Piece} {ps ms : List Piece}

/-- The first piece of a write is so also after a piece of an earlier one. -/
theorem Joined.first_cons (h : Joined left ps ms) {q : Piece} (hq : q ∈ ms)
    (hlt : p.write.ticket < q.write.ticket) : ∃ before r after, p :: ps = before ++ r :: after ∧
      r.write = q.write ∧ ∀ r' ∈ before, r'.write.ticket ≠ q.write.ticket := by
  obtain ⟨before, r, after, heq, hw, hbefore⟩ := h.first q hq
  refine ⟨p :: before, r, after, by rw [heq, List.cons_append], hw, fun r' hr' => ?_⟩
  rcases List.mem_cons.mp hr' with rfl | hr'
  · exact Nat.ne_of_lt hlt
  · exact hbefore r' hr'

theorem Joined.singleton (left : Channel → Prop) (p : Piece) : Joined left [p] [p] where
  ascending := List.pairwise_singleton _ _
  ended q hq := nomatch hq
  first q hq := by
    obtain rfl := List.mem_singleton.mp hq
    exact ⟨[], q, [], rfl, rfl, fun r hr => nomatch hr⟩

/-- A piece before one that goes on where it stopped. -/
theorem Joined.goes_on (h : Joined left ps (m :: ms)) (hgoes : m.write = p.write.advance p.count)
    (hcount : p.count ≤ p.write.remaining.length) :
    Joined left (p :: ps) (⟨p.socket, p.write, p.count + m.count⟩ :: ms) := by
  have hticket : m.write.ticket = p.write.ticket := by
    rw [hgoes]
    rfl
  obtain ⟨hhead, hasc⟩ := List.pairwise_cons.mp h.ascending
  constructor
  · exact List.pairwise_cons.mpr ⟨fun r hr => hticket ▸ hhead r hr, hasc⟩
  · cases ms with
    | nil => exact fun r hr => nomatch hr
    | cons m' ms =>
      have hended := h.ended
      intro r hr
      rw [List.dropLast_cons_cons] at hr hended
      rcases List.mem_cons.mp hr with rfl | hr
      · refine (hended m List.mem_cons_self).imp (isLast_append hgoes hcount) fun hleft => ?_
        rwa [hgoes] at hleft
      · exact hended r (List.mem_cons_of_mem _ hr)
  · intro r hr
    rcases List.mem_cons.mp hr with rfl | hr
    · exact ⟨[], p, ps, rfl, rfl, fun r' hr' => nomatch hr'⟩
    · exact h.first_cons (List.mem_cons_of_mem _ hr) (hticket ▸ hhead r hr)

/-- A piece that ends its write, before pieces of later ones. -/
theorem Joined.later (h : Joined left ps (m :: ms)) (hlt : p.write.ticket < m.write.ticket)
    (hend : p.isLast = true ∨ left p.write.channel) : Joined left (p :: ps) (p :: m :: ms) := by
  have hall : ∀ r ∈ m :: ms, p.write.ticket < r.write.ticket := by
    intro r hr
    rcases List.mem_cons.mp hr with rfl | hr
    · exact hlt
    · exact hlt.trans ((List.pairwise_cons.mp h.ascending).1 r hr)
  constructor
  · exact List.pairwise_cons.mpr ⟨hall, h.ascending⟩
  · intro r hr
    rw [List.dropLast_cons_cons] at hr
    rcases List.mem_cons.mp hr with rfl | hr
    · exact hend
    · exact h.ended r hr
  · intro r hr
    rcases List.mem_cons.mp hr with rfl | hr
    · exact ⟨[], r, ps, rfl, rfl, fun r' hr' => nomatch hr'⟩
    · exact h.first_cons hr (hall r hr)

/-- **Where every piece goes on where the one before it stopped, or is of a later write after one
that ended its own or whose channel has left,** the stretches are what the pieces come to. -/
theorem joined_of_chain (hcount : ∀ p ∈ ps, p.count ≤ p.write.remaining.length)
    (h : ps.IsChain fun p q => q.write = p.write.advance p.count ∨
      p.write.ticket < q.write.ticket ∧ (p.isLast = true ∨ left p.write.channel)) :
    Joined left ps (join ps) := by
  induction ps with
  | nil => exact ⟨.nil, fun p hp => (nomatch hp), fun p hp => nomatch hp⟩
  | cons p ps ih =>
    cases ps with
    | nil => exact .singleton left p
    | cons q ps =>
      rw [List.isChain_cons_cons] at h
      obtain ⟨hnext, hchain⟩ := h
      have hrest := ih (fun r hr => hcount r (List.mem_cons_of_mem _ hr)) hchain
      -- The stretches of the rest begin where its first piece does.
      obtain ⟨m, ms, hjoin, hm⟩ := exists_of_glue q (join ps)
      change join (q :: ps) = m :: ms at hjoin
      change Joined left (p :: q :: ps) (glue p (join (q :: ps)))
      rw [hjoin] at hrest ⊢
      rw [← hm] at hnext
      unfold glue
      dsimp only
      split_ifs with hgoes
      · exact hrest.goes_on hgoes (hcount p List.mem_cons_self)
      · obtain ⟨hlt, hend⟩ := hnext.resolve_left hgoes
        exact hrest.later hlt hend

end Switchboard.Piece
