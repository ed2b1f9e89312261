import Switchboard.Proofs.Outline.Basic

/-!
# What only grows

Numbers of sockets and of channels are given out once, and what was sent stays written: a move takes
sockets and channels away, or brings ones with new numbers, and adds to the record of what went out
(`grows_move`).
-/

namespace Switchboard

/-- Who is taken in by a listener is a connection. -/
def Nature.Proper (n : Nature) : Prop :=
  n.role = .accepted → n.medium = .connection

theorem Nature.proper_listening (t : Settings.Transport) : (Nature.listening t).Proper :=
  nofun

theorem Nature.proper_outgoing (t : Settings.Transport) (remote : Net.Endpoint) :
    (Nature.outgoing t remote).Proper :=
  nofun

theorem Nature.proper_taken (remote : Net.Endpoint) : (Nature.taken remote).Proper :=
  fun _ => rfl

namespace Outline

open Relation Directory

/-- **The second outline comes after the first:** what is new in it has a new number. -/
structure Grows (o o' : Outline) : Prop where
  next : o.nextSocket ≤ o'.nextSocket
  sockets : ∀ s ∈ o'.sockets, s ∈ o.sockets ∨ o.nextSocket ≤ s.1
  proper : ∀ s ∈ o'.sockets, s ∈ o.sockets ∨ s.2.Proper
  home : o'.directory.home = o.directory.home
  senders : o.directory.senders.length ≤ o'.directory.senders.length
  channels : ∀ e ∈ o'.entries, (∃ e' ∈ o.entries, e'.channel = e.channel) ∨
    o.directory.senders.length ≤ e.channel.id
  sendings : o.sendings <+: o'.sendings

namespace Grows

theorem refl (o : Outline) : Grows o o where
  next := Nat.le_refl _
  sockets := fun _ hs => .inl hs
  proper := fun _ hs => .inl hs
  home := rfl
  senders := Nat.le_refl _
  channels := fun e he => .inl ⟨e, he, rfl⟩
  sendings := List.prefix_refl _

theorem trans {o o' o'' : Outline} (h : Grows o o') (h' : Grows o' o'') : Grows o o'' where
  next := Nat.le_trans h.next h'.next
  sockets := by
    intro s hs
    rcases h'.sockets s hs with hs | hs
    · exact h.sockets s hs
    · exact .inr (Nat.le_trans h.next hs)
  proper := by
    intro s hs
    rcases h'.proper s hs with hs | hs
    · exact h.proper s hs
    · exact .inr hs
  home := h'.home.trans h.home
  senders := Nat.le_trans h.senders h'.senders
  channels := by
    intro e he
    rcases h'.channels e he with ⟨e', he', hc⟩ | hid
    · rw [← hc]
      exact h.channels e' he'
    · exact .inr (Nat.le_trans h.senders hid)
  sendings := h.sendings.trans h'.sendings

variable {o : Outline}

theorem add {n : Nature} (hn : n.Proper) {next : SocketId} (hnext : o.nextSocket < next) :
    Grows o (o.add n next) :=
  { refl o with
    next := Nat.le_of_lt hnext
    sockets := by
      intro s hs
      rcases List.mem_append.mp hs with hs | hs
      · exact .inl hs
      · rw [List.mem_singleton.mp hs]
        exact .inr (Nat.le_refl _)
    proper := by
      intro s hs
      rcases List.mem_append.mp hs with hs | hs
      · exact .inl hs
      · rw [List.mem_singleton.mp hs]
        exact .inr hn }

/-- Taking sockets out brings nothing new. -/
theorem filter (p : SocketId × Nature → Bool) :
    Grows o { o with sockets := o.sockets.filter p } :=
  { refl o with
    sockets := fun _ hs => .inl (List.mem_filter.mp hs).1
    proper := fun _ hs => .inl (List.mem_filter.mp hs).1 }

/-- Changing links brings nothing new. -/
theorem map {f : Entry → Entry} (hf : ∀ e, (f e).channel = e.channel) :
    Grows o (o.onEntries (·.map f)) :=
  { refl o with
    channels := by
      intro e he
      obtain ⟨e', he', rfl⟩ := List.mem_map.mp he
      exact .inl ⟨e', he', (hf e').symm⟩ }

theorem rebind (t : Settings.Transport) {next : SocketId} (hnext : o.nextSocket < next) :
    Grows o (o.rebind t next) := by
  have hraise : Grows o (o.raise t next) := { add (Nature.proper_listening t) hnext with }
  unfold Outline.rebind
  split
  · exact hraise
  · exact (hraise.trans (filter _)).trans (map (channel_relinkEntry _ _))

theorem substitute (old : SocketId) {next : SocketId} (hnext : o.nextSocket < next)
    {t : Settings.Transport} {remote : Net.Endpoint} :
    Grows o (o.substitute old (.outgoing t remote) next) :=
  ((filter _).trans (add (Nature.proper_outgoing t remote) hnext)).trans
    (map (channel_relinkEntry _ _))

theorem closeOutbound (o : Outline) : Grows o o.closeOutbound :=
  { (filter (!o.isOther ·.1)).trans (map (channel_detachEntry o.isOther)) with }

theorem retain (p : Channel → Bool) (o : Outline) : Grows o (o.retain p) :=
  { refl o with
    sockets := fun _ hs => .inl (List.mem_filter.mp hs).1
    proper := fun _ hs => .inl (List.mem_filter.mp hs).1
    channels := fun e he => .inl ⟨e, (List.mem_filter.mp he).1, rfl⟩ }

end Grows

variable {o o' : Outline}

theorem grows_event (h : Event o o') : Grows o o' := by
  cases h with
  | admitted next remote hs hm hnext => exact .add (Nature.proper_taken remote) hnext
  | dropped hs hr => exact .filter _
  | rescheduled retries h => exact { Grows.refl o with }
  | announced cs h => exact { Grows.refl o with }
  | remembered sender he hm hd ht =>
    exact { Grows.refl o with
      senders := Nat.le_of_eq (List.length_set ..).symm }

theorem grows_passMove (h : PassMove o o') : Grows o o' := by
  cases h with
  | event h => exact grows_event h
  | sent count => exact { Grows.refl o with sendings := List.prefix_append _ _ }

theorem grows_passMoves (h : PassMoves o o') : Grows o o' := by
  induction h with
  | refl => exact .refl o
  | tail _ hstep ih => exact ih.trans (grows_passMove hstep)

/-- **A move brings new numbers only.** -/
theorem grows_move (h : Move o o') : Grows o o' := by
  cases h with
  | event h => exact grows_event h
  | passed p h hp hstay => exact { grows_passMoves h with }
  | opened next ho hnext => exact { Grows.add (Nature.proper_listening o.transport) hnext with }
  | closed ho =>
    have hmap : Grows o (o.onEntries (·.map ({ · with socket := none }))) := .map fun _ => rfl
    exact { hmap with
      sockets := fun _ hs => (nomatch hs)
      proper := fun _ hs => (nomatch hs) }
  | cleared ho => exact { Grows.refl o with }
  | adopted t ht => exact { Grows.refl o with }
  | moved t next ho hnext =>
    split
    · exact (Grows.rebind t hnext).trans (.closeOutbound _)
    · exact .rebind t hnext
  | @enrolled c hh hid hd =>
    refine { Grows.refl o with senders := by simp, channels := fun e he => ?_ }
    rcases List.mem_append.mp he with he | he
    · exact .inl ⟨e, he, rfl⟩
    · rw [List.mem_singleton.mp he]
      exact .inr (Nat.le_of_eq hid.symm)
  | joined sharing ho hc hid => exact .map (channel_linkEntry _ _ sharing _)
  | @connected c remote next sharing ho hc hr hnext =>
    have hadd := Grows.add (Nature.proper_outgoing o.transport remote) hnext
    exact hadd.trans (.map (channel_linkEntry _ _ sharing _))
  | substituted next ho hs hr hf hnext => exact .substitute _ hnext
  | retained p => exact .retain p o
  | queued data call ho he hid hl => exact { Grows.refl o with }
  | told => exact { Grows.refl o with }

theorem grows_moves (h : Moves o o') : Grows o o' := by
  induction h with
  | refl => exact .refl o
  | tail _ hstep ih => exact ih.trans (grows_move hstep)

end Outline

end Switchboard
