import Switchboard.Settings.Profile

/-!
# What a profile that was read keeps to

The sharing flags of a profile that was read do not contradict each other (`check_sharing_of_read`).
-/

namespace Switchboard.Settings

/-- A computation that succeeds goes through its first part. -/
theorem exists_ok_of_bind {ε α β : Type} {a : Except ε α} {f : α → Except ε β} {b : β}
    (h : a >>= f = .ok b) : ∃ v, a = .ok v ∧ f v = .ok b := by
  cases a with
  | error e => cases h
  | ok v => exact ⟨v, rfl, h⟩

theorem Profile.check_of_readSharing {c : Configuration} {name : String} {s : Sharing}
    (h : readSharing c name = .ok s) : s.check = .ok () := by
  unfold readSharing at h
  obtain ⟨item, -, h⟩ := exists_ok_of_bind h
  obtain ⟨binding, -, h⟩ := exists_ok_of_bind h
  obtain ⟨directions, -, h⟩ := exists_ok_of_bind h
  obtain ⟨masks, -, h⟩ := exists_ok_of_bind h
  obtain ⟨_, hcheck, h⟩ := exists_ok_of_bind h
  cases h
  exact hcheck

/-- **The sharing flags of a profile that was read do not contradict each other.** -/
theorem Profile.check_sharing_of_read {c : Configuration} {name : String} {p : Profile}
    (h : Profile.read c name = .ok p) : p.sharing.check = .ok () := by
  unfold Profile.read at h
  obtain ⟨_, -, h⟩ := exists_ok_of_bind h
  obtain ⟨transport, -, h⟩ := exists_ok_of_bind h
  obtain ⟨bufferSize, -, h⟩ := exists_ok_of_bind h
  obtain ⟨retryInterval, -, h⟩ := exists_ok_of_bind h
  obtain ⟨port, -, h⟩ := exists_ok_of_bind h
  obtain ⟨listenerAddress, -, h⟩ := exists_ok_of_bind h
  obtain ⟨pollInterval, -, h⟩ := exists_ok_of_bind h
  obtain ⟨pollCapacity, -, h⟩ := exists_ok_of_bind h
  obtain ⟨sharing, hsharing, h⟩ := exists_ok_of_bind h
  cases h
  exact check_of_readSharing hsharing

end Switchboard.Settings
