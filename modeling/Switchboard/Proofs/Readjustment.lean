import Switchboard.Proofs.Announcements.Silence
import Switchboard.Proofs.Roster
import Switchboard.Proofs.Supervision.Outcomes

/-!
# Other settings over the same transport

Settings may be read while the exchange is in service.  As long as the transport stays, they touch the
listener at most: it stays where it is, or a new one is opened where the settings say, and those who
were on the old one go along (`MovesListener`).  Everything else is as it was, down to the state of
each socket, the attempts, the writes and the calls (`Readjusted`).

The new settings are in effect before the listener moves, and would be taken back if it could not.  So
what has to be shown is that a move that succeeds is what `moveListener` does to the listener, and that
the new number, which no channel is linked to, brings nobody else along.
-/

namespace Switchboard.Exchange

open Net Settings Directory Outline

variable {ν : Type} [Network ν] {x y : Exchange ν} {old : SocketId} {p : Profile}

/-- **The listener moved where the settings in effect say,** and its channels went along. -/
structure MovesListener (old : SocketId) (ownEnd : Endpoint) (x y : Exchange ν) : Prop where
  was : x.listener = some old
  /-- The network opened the new one at the endpoint of the settings. -/
  bound : ∃ network, Network.listen y.profile.transport x.nextSocket y.profile.listenerEndpoint
    x.network = (.ok ownEnd, network)
  listener : y.listener = some x.nextSocket
  sockets : y.sockets =
    x.sockets.erase old ++ [(x.nextSocket, Socket.listening y.profile.transport ownEnd)]
  found : y.sockets.find? x.nextSocket = some (Socket.listening y.profile.transport ownEnd)
  gone : y.sockets.find? old = none
  /-- Exactly those who were on the old listener are on the new one. -/
  moved : ∀ id, y.directory.socketOf id = some x.nextSocket ↔ x.directory.socketOf id = some old

/-- **Other settings took effect,** and only the listener noticed. -/
structure Readjusted (p : Profile) (x y : Exchange ν) : Prop where
  profile : y.profile = p
  flags : p.sharing.check = .ok ()
  allowed : (∃ c ∈ y.directory.channels, c.remote.isMask = true) → p.sharing.masks = true
  /-- Every other socket is as it was. -/
  others : y.sockets.filter (·.2.role != .listener) = x.sockets.filter (·.2.role != .listener)
  /-- So is the directory, but the links to the listener lead to where it is now. -/
  directory : y.directory = { x.directory with
    entries := x.directory.entries.map fun e =>
      if e.socket = x.listener then { e with socket := y.listener } else e }
  rest : y = { x with
    profile := y.profile
    sockets := y.sockets
    directory := y.directory
    listener := y.listener
    nextSocket := y.nextSocket
    journal := y.journal
    network := y.network }
  stays : x.profile.port = p.port → x.profile.listenerAddress = p.listenerAddress →
    y = { x with profile := p }
  moves : x.profile.port ≠ p.port ∨ x.profile.listenerAddress ≠ p.listenerAddress →
    ∃ old ownEnd, MovesListener old ownEnd x y

/-! ### A listener that stays -/

/-- Where the listener stays, only the settings are others. -/
theorem readjusted_of_same (hs : p.sharing.check = .ok ())
    (hm : p.sharing.masks = true ∨ x.directory.channels.any (·.remote.isMask) = false)
    (hstay : ¬ (x.profile.port ≠ p.port ∨ x.profile.listenerAddress ≠ p.listenerAddress)) :
    Readjusted p x { x with profile := p } where
  profile := rfl
  flags := hs
  allowed := fun ⟨c, hc, hmask⟩ => masks_of_channels hm c hc hmask
  others := rfl
  directory := by
    have hsame (e : Entry) :
        (if e.socket = x.listener then { e with socket := x.listener } else e) = e := by
      split_ifs with hl
      · rw [← hl]
      · rfl
    simp only [hsame, List.map_id']
  rest := rfl
  stays := fun _ _ => rfl
  moves := fun hmove => absurd hmove hstay

/-! ### A listener that moves -/

/-- The exchange after its listener gave way to a new one. -/
theorem takeOver_eq (h : x.outline.Sound) (hl : x.listener = some old) (p : Profile)
    (ownEnd : Endpoint) (network : ν) : ∃ nextSocket journal network',
      ((raiseListener p ownEnd { x with network }).closeSocket old).onDirectory
          (·.relink old x.nextSocket) =
        { x with
          profile := p
          sockets := x.sockets.erase old ++ [(x.nextSocket, Socket.listening p.transport ownEnd)]
          directory := x.directory.relink old x.nextSocket
          listener := some x.nextSocket
          nextSocket
          journal
          network := network' } := by
  have hne : (x.nextSocket != old) = true := bne_iff_ne.mpr (h.listener_ne hl).symm
  obtain ⟨sockets, network', journal, heq⟩ :=
    closeSocket_eq old (raiseListener p ownEnd { x with network })
  have hsockets : sockets =
      x.sockets.erase old ++ [(x.nextSocket, Socket.listening p.transport ownEnd)] := by
    have hclosed := sockets_closeSocket old (raiseListener p ownEnd { x with network })
    rw [heq] at hclosed
    refine hclosed.trans ((List.filter_append ..).trans (congrArg (x.sockets.erase old ++ ·) ?_))
    exact List.filter_cons_of_pos hne
  rw [heq, hsockets]
  exact ⟨_, _, _, rfl⟩

/-- A move that succeeds opened a listener and put it in the place of the old one. -/
theorem rebindListener_ok (hl : x.listener = some old)
    (hok : (rebindListener { x with profile := p }).1 = .ok ()) :
    ∃ ownEnd network, Network.listen p.transport x.nextSocket p.listenerEndpoint x.network =
        (.ok ownEnd, network) ∧
      (rebindListener { x with profile := p }).2 =
        ((raiseListener p ownEnd { x with network }).closeSocket old).onDirectory
          (·.relink old x.nextSocket) := by
  unfold rebindListener openListener at hok ⊢
  dsimp only at hok ⊢
  rcases hlisten : Network.listen p.transport x.nextSocket p.listenerEndpoint x.network with
    ⟨_ | ownEnd, network⟩
  · rw [hlisten] at hok
    exact nomatch hok
  · refine ⟨ownEnd, network, rfl, ?_⟩
    rw [hl]
    rfl

omit [Network ν] in
/-- The old listener is the only socket with that role. -/
theorem filter_role_erase (h : x.outline.Sound) (hl : x.listener = some old) :
    (x.sockets.erase old).filter (·.2.role != .listener) =
      x.sockets.filter (·.2.role != .listener) := by
  obtain ⟨n, hn, hrole⟩ := h.listener old hl
  rw [Sockets.erase, List.filter_filter]
  refine List.filter_congr fun s hs => ?_
  cases hother : s.2.role != .listener with
  | false => exact Bool.false_and _
  | true =>
    -- A number has one nature, and that of the old listener is told by its role.
    have hne : s.1 ≠ old := by
      rintro rfl
      have hnature := h.nature_eq (Sockets.mem_natures.mpr ⟨s.2, hs, rfl⟩) hn
      exact bne_iff_ne.mp hother ((congrArg Nature.role hnature).trans hrole)
    simp [hne]

/-- **What moving the listener does,** where there is one. -/
theorem readjusted_of_moved (h : x.outline.Sound) (hl : x.listener = some old)
    (hmove : x.profile.port ≠ p.port ∨ x.profile.listenerAddress ≠ p.listenerAddress)
    (hs : p.sharing.check = .ok ())
    (hm : p.sharing.masks = true ∨ x.directory.channels.any (·.remote.isMask) = false)
    (hok : (rebindListener { x with profile := p }).1 = .ok ()) :
    Readjusted p x (rebindListener { x with profile := p }).2 := by
  obtain ⟨ownEnd, network, hlisten, hrebind⟩ := rebindListener_ok hl hok
  obtain ⟨nextSocket, journal, network', heq⟩ := takeOver_eq h hl p ownEnd network
  have hne : old ≠ x.nextSocket := h.listener_ne hl
  have hfind (i : SocketId) : Sockets.find? (x.sockets.erase old ++
        [(x.nextSocket, Socket.listening p.transport ownEnd)]) i =
      ((x.sockets.erase old).find? i).or
        (if i = x.nextSocket then some (Socket.listening p.transport ownEnd) else none) :=
    Sockets.find?_add (x.sockets.erase old) x.nextSocket _ i
  have hchannels : (x.directory.relink old x.nextSocket).channels = x.directory.channels :=
    channels_relink ..
  rw [hrebind, heq]
  exact {
    profile := rfl
    flags := hs
    allowed := fun ⟨c, hc, hmask⟩ => masks_of_channels hm c (hchannels ▸ hc) hmask
    others := by
      dsimp only
      rw [List.filter_append, filter_role_erase h hl, List.filter_cons_of_neg (by simp [Socket.listening]),
        List.filter_nil, List.append_nil]
    directory := by rw [hl]; rfl
    rest := rfl
    stays := fun hport haddress => absurd haddress (hmove.resolve_left (not_not_intro hport))
    moves := fun _ => ⟨old, ownEnd, {
      was := hl
      bound := ⟨network, hlisten⟩
      listener := rfl
      sockets := rfl
      found := by
        dsimp only
        rw [hfind, if_pos rfl, Sockets.find?_erase, if_neg hne.symm, find?_nextSocket h, Option.none_or]
      gone := by
        dsimp only
        rw [hfind, Sockets.find?_erase, if_pos rfl, if_neg hne, Option.none_or]
      -- Nobody was linked to the new number before, so nobody else is linked to it now.
      moved := socketOf_relink fun e he => socket_ne_nextSocket h he }⟩ }

/-! ### Settings that are read -/

/-- **What other settings do to an exchange in service,** over the same transport.  Where the port and
the address are the same, only the settings are others.  Where not, the listener moves, and exactly
its own channels with it.  Nothing else changes either way, and the settings in effect afterwards suit
each other and the channels. -/
theorem Reachable.readjusted (h : x.Reachable) (ho : x.isOpen = true) {c : Configuration}
    (hread : Profile.read c x.name = .ok p) (ht : p.transport = x.profile.transport)
    (hok : (x.updateProfile c).1 = .ok ()) : Readjusted p x (x.updateProfile c).2 := by
  have hs := Profile.check_sharing_of_read hread
  unfold updateProfile at hok ⊢
  rw [hread] at hok ⊢
  dsimp only at hok ⊢
  split at hok
  · exact nomatch hok
  · rename_i hmasks
    rw [if_neg hmasks]
    have hm : p.sharing.masks = true ∨ x.directory.channels.any (·.remote.isMask) = false :=
      (not_and_or.mp hmasks).imp eq_true_of_ne_false eq_false_of_ne_true
    split at hok
    · rename_i hmove
      obtain ⟨old, hl⟩ := Option.ne_none_iff_exists'.mp (h.sound.opened ho)
      have hmoved := readjusted_of_moved h.sound hl (hmove.2.resolve_left (not_not_intro ht.symm)) hs hm
      rw [if_pos hmove]
      split at hok <;> rename_i heq <;> rw [heq] at hmoved
      · exact nomatch hok
      · dsimp only
        rw [if_neg (not_not_intro ht.symm)]
        exact hmoved rfl
    · rename_i hstay
      rw [if_neg hstay]
      exact readjusted_of_same hs hm fun hmove => hstay ⟨ho, .inr hmove⟩

/-- The lab is told another port: the masked channel goes along with the listener, and the outbound one
stays on its socket. -/
theorem readjusted_lab :
    let c : Configuration := ⟨.table [("port", .integer 25003)]⟩
    let p : Profile := { port := 25003 }
    let y := (lab.updateProfile c).2
    (lab.Reachable ∧ lab.isOpen = true ∧ Profile.read c lab.name = .ok p ∧
        p.transport = lab.profile.transport ∧ (lab.updateProfile c).1 = .ok ()) ∧
      Readjusted p lab y ∧
        (lab.directory.socketOf 0 = some 1000 ∧ y.directory.socketOf 0 = some 1003) ∧
          lab.directory.socketOf 1 = some 1002 ∧ y.directory.socketOf 1 = some 1002 := by
  intro c p y
  have hopen : lab.isOpen = true := by decide +kernel
  have hread : Profile.read c lab.name = .ok p := by rfl
  have htransport : p.transport = lab.profile.transport := by decide +kernel
  have hok : (lab.updateProfile c).1 = .ok () := by decide +kernel
  refine ⟨⟨reachable_lab, hopen, hread, htransport, hok⟩,
    Reachable.readjusted reachable_lab hopen hread htransport hok, ?_⟩
  decide +kernel

end Switchboard.Exchange
