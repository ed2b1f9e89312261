import Switchboard.Proofs.Profile
import Mathlib.Data.List.Basic
import Mathlib.Tactic.SplitIfs

/-!
# Settings under a name

The settings of a name are laid over those at the root, key by key.  The *overlay* of a name is the
flat configuration that comes of it: each known key with the value under the name, or with the one at
the root where there is nothing under the name, be it a null or a value of the wrong kind
(`Configuration.overlay`).

Reading a profile under a name is reading the overlay at the root (`Profile.read_overlay`): the same
profile comes out, or the same error, but for the key that the error names.  That holds where the
name stands for nothing or for a table in which somebody reads every key; where nobody reads a key of
the table, the key is refused before anything else is looked at.

A reader looks keys up in a fixed order and stops at the first failure, so what has to be shown is
that each look-up comes to the same (`alike_optional`), and that parts that come to the same do so
one after the other (`Alike.bind`).
-/

namespace Switchboard

namespace Settings

/-! ### Paths that go on -/

namespace Path

theorem steps?_none_of_ne {c : Char} (hdot : c ≠ '.') (hbracket : c ≠ '[') (cs : List Char) :
    steps? none (c :: cs) = none := by
  rw [steps?] <;> simp_all

theorem steps?_some_of_ne {c : Char} (hdot : c ≠ '.') (hbracket : c ≠ '[') (name cs : List Char) :
    steps? (some name) (c :: cs) =
      if isNameChar c = true then steps? (some (c :: name)) cs else none := by
  rw [steps?] <;> simp_all

theorem subscript?_of_ne {c : Char} (h : c ≠ ']') (seen cs : List Char) :
    steps?.subscript? seen (c :: cs) = steps?.subscript? (c :: seen) cs := by
  rw [steps?.subscript?]
  simpa using h

/-- Where the rest of a path may go on, so may the path. -/
theorem map_cons_append {rest rest' : Option (List Step)} {steps more : List Step} {s : Step}
    (h : ∀ steps, rest = some steps → rest' = some (steps ++ more))
    (hs : rest.map (s :: ·) = some steps) : rest'.map (s :: ·) = some (steps ++ more) := by
  obtain ⟨steps, hrest, rfl⟩ := Option.map_eq_some_iff.mp hs
  rw [h steps hrest]
  rfl

/-- **A path goes on after a dot,** with a path that begins with a name. -/
theorem steps?_append_dot {key : List Char} {more : List Step}
    (hkey : steps? (some []) key = some more) (cs : List Char) :
    (∀ name steps, steps? name cs = some steps →
      steps? name (cs ++ '.' :: key) = some (steps ++ more)) ∧
    ∀ seen steps, steps?.subscript? seen cs = some steps →
      steps?.subscript? seen (cs ++ '.' :: key) = some (steps ++ more) := by
  induction cs with
  | nil =>
    refine ⟨fun name steps h => ?_, fun seen steps h => nomatch h⟩
    rw [List.nil_append]
    match name, h with
    | none, h =>
      obtain rfl := Option.some.inj h
      exact hkey
    | some (c :: name), h =>
      obtain rfl := Option.some.inj h
      rw [steps?, if_neg (List.cons_ne_nil c name), hkey]
      rfl
  | cons c cs ih =>
    obtain ⟨hsteps, hsubscript⟩ := ih
    refine ⟨fun name steps h => ?_, fun seen steps h => ?_⟩
    · -- A dot and a bracket end a name; any other character goes on with it.
      rw [List.cons_append]
      by_cases hdot : c = '.'
      · subst hdot
        cases name with
        | none => exact hsteps (some []) steps h
        | some name =>
          rw [steps?] at h ⊢
          split_ifs at h ⊢
          exact map_cons_append (hsteps _) h
      by_cases hbracket : c = '['
      · subst hbracket
        cases name with
        | none => exact hsubscript [] steps h
        | some name =>
          rw [steps?] at h ⊢
          split_ifs at h ⊢
          exact map_cons_append (hsubscript _) h
      cases name with
      | none =>
        rw [steps?_none_of_ne hdot hbracket] at h
        exact nomatch h
      | some name =>
        rw [steps?_some_of_ne hdot hbracket] at h ⊢
        split_ifs at h ⊢
        exact hsteps _ steps h
    · rw [List.cons_append]
      by_cases hclose : c = ']'
      · subst hclose
        rw [steps?.subscript?] at h ⊢
        split at h
        · exact map_cons_append (hsteps none) h
        · exact nomatch h
      · rw [subscript?_of_ne hclose] at h ⊢
        exact hsubscript _ steps h

/-- A known key is a name by itself. -/
theorem read?_of_mem_knownKeys :
    ∀ key ∈ Profile.knownKeys, Path.read? key = some [.field key] := by
  decide +kernel

/-- The empty name is no path. -/
theorem ne_empty_of_read? {name : String} {steps : List Step} (h : read? name = some steps) :
    name ≠ "" := by
  rintro rfl
  exact nomatch h

theorem read?_qualified {name key : String} {steps : List Step} (hname : read? name = some steps)
    (hkey : key ∈ Profile.knownKeys) :
    read? (name ++ "." ++ key) = some (steps ++ [.field key]) := by
  unfold read?
  rw [String.toList_append, String.toList_append]
  change steps? (some []) ((name.toList ++ ['.']) ++ key.toList) = _
  rw [List.append_assoc]
  exact (steps?_append_dot (read?_of_mem_knownKeys key hkey) name.toList).1 _ _ hname

end Path

end Settings

/-! ### Computations that come to the same -/

/-- The failure of a look-up, whatever the key. -/
def LookupError.keyless : LookupError → LookupError
  | .badPath _ => .badPath ""
  | .missing _ => .missing ""
  | .mismatch found wanted _ => .mismatch found wanted ""

/-- **An error without the key that was looked up.**  Two errors are of one kind where they agree in
the rest. -/
def Error.keyless : Error → Error
  | .lookup cause => .lookup cause.keyless
  | e => e

namespace Settings

/-- **Two computations come to the same:** to the same value, or to errors of one kind. -/
def Alike {α : Type} (a b : Except Error α) : Prop :=
  a.mapError Error.keyless = b.mapError Error.keyless

namespace Alike

variable {α β : Type} {a b : Except Error α}

theorem refl (a : Except Error α) : Alike a a :=
  rfl

/-- What comes to the same may be followed by what does. -/
theorem bind {f g : α → Except Error β} (h : Alike a b) (hfg : ∀ v, Alike (f v) (g v)) :
    Alike (a >>= f) (b >>= g) := by
  cases a with
  | error e =>
    cases b with
    | error e' => exact congrArg Except.error (Except.error.inj h)
    | ok v => exact nomatch h
  | ok v =>
    cases b with
    | error e => exact nomatch h
    | ok w =>
      obtain rfl : v = w := Except.ok.inj h
      exact hfg v

theorem ok_iff (h : Alike a b) (v : α) : a = .ok v ↔ b = .ok v := by
  cases a with
  | error e =>
    cases b with
    | error e' => exact iff_of_false nofun nofun
    | ok w => exact nomatch h
  | ok w =>
    cases b with
    | error e => exact nomatch h
    | ok w' =>
      obtain rfl : w = w' := Except.ok.inj h
      exact Iff.rfl

theorem exists_error (h : Alike a b) {e : Error} (ha : a = .error e) :
    ∃ e', b = .error e' ∧ e'.keyless = e.keyless := by
  subst ha
  cases b with
  | error e' => exact ⟨e', rfl, (Except.error.inj h).symm⟩
  | ok v => exact nomatch h

end Alike

/-! ### The overlay -/

theorem Value.at?_singleton (v : Value) (s : Path.Step) : v.at? [s] = v.step? s := by
  simp [at?]

namespace Configuration

/-- The value that a key leads to. -/
def at? (c : Configuration) (key : String) : Option Value :=
  (Path.read? key).bind c.root.at?

/-- The value of a key under a name or, where there is nothing, at the root. -/
def nearest? (c : Configuration) (name key : String) : Option Value :=
  c.at? (name ++ "." ++ key) <|> c.at? key

/-- **The settings under a name, laid over those at the root:** a flat configuration with what there
is for each known key. -/
def overlay (c : Configuration) (name : String) : Configuration :=
  ⟨.table (Profile.knownKeys.filterMap fun key => (c.nearest? name key).map (key, ·))⟩

theorem lookup_filterMap (f : String → Option Value) (keys : List String) (key : String) :
    List.lookup key (keys.filterMap fun k => (f k).map (k, ·)) =
      if key ∈ keys then f key else none := by
  induction keys with
  | nil => rfl
  | cons k keys ih =>
    by_cases hk : key = k
    · subst hk
      cases hf : f key with
      | none => simp [hf, ih]
      | some v => simp [hf]
    · rw [if_congr (List.mem_cons.trans (or_iff_right hk)) rfl rfl, ← ih]
      cases hf : f k with
      | none => simp [hf]
      | some v => simp [hf, List.lookup_cons, beq_false_of_ne hk]

theorem at?_overlay (c : Configuration) (name : String) {key : String}
    (hkey : key ∈ Profile.knownKeys) : (c.overlay name).at? key = c.nearest? name key := by
  have hlookup := lookup_filterMap (c.nearest? name) Profile.knownKeys key
  rw [if_pos hkey] at hlookup
  rw [at?, Path.read?_of_mem_knownKeys key hkey, Option.bind_some, Value.at?_singleton, ← hlookup]
  rfl

/-! ### Look-ups -/

variable {α : Type} (reader : Value → Except (Found × Wanted) α)

/-- What a reader makes of what it finds at a key. -/
def outcome (key : String) : Option Value → Except LookupError α
  | none => .error (.missing key)
  | some v =>
    match reader v with
    | .ok a => .ok a
    | .error (found, wanted) => .error (.mismatch found wanted key)

theorem read_eq_outcome (c : Configuration) {key : String} {steps : List Path.Step}
    (hkey : Path.read? key = some steps) : c.read reader key = outcome reader key (c.at? key) := by
  unfold read find at?
  rw [hkey, Option.bind_some]
  dsimp only
  cases c.root.at? steps <;> rfl

/-- Wherever a value is found, the reader makes the same of it. -/
theorem alike_outcome (key key' : String) (v : Option Value) :
    Alike (optional (outcome reader key v)) (optional (outcome reader key' v)) := by
  cases v with
  | none => rfl
  | some v =>
    unfold outcome
    dsimp only
    split <;> rfl

/-- **Under a name, a look-up takes the nearest value.** -/
theorem exists_named_eq_outcome (c : Configuration) {name key : String} {steps : List Path.Step}
    (hname : Path.read? name = some steps) (hkey : key ∈ Profile.knownKeys) :
    ∃ key', named (c.read reader) name key = outcome reader key' (c.nearest? name key) := by
  have hne := Path.ne_empty_of_read? hname
  unfold named nearest?
  rw [if_neg hne, qualified, if_neg hne,
    read_eq_outcome reader c (Path.read?_qualified hname hkey),
    read_eq_outcome reader c (Path.read?_of_mem_knownKeys key hkey)]
  cases c.at? (name ++ "." ++ key) with
  | none => exact ⟨key, rfl⟩
  | some v =>
    -- What is found under the name stands, be it of the wrong kind.
    refine ⟨name ++ "." ++ key, ?_⟩
    change _ = outcome reader (name ++ "." ++ key) (some v)
    unfold outcome
    dsimp only
    cases reader v <;> rfl

/-- **A look-up under a name comes to the same as one in the overlay.** -/
theorem alike_optional (c : Configuration) {name key : String} {steps : List Path.Step}
    (hname : Path.read? name = some steps) (hkey : key ∈ Profile.knownKeys) :
    Alike (optional (named (c.read reader) name key))
      (optional (named ((c.overlay name).read reader) "" key)) := by
  obtain ⟨key', hnamed⟩ := exists_named_eq_outcome reader c hname hkey
  rw [hnamed, named, if_pos rfl,
    read_eq_outcome reader (c.overlay name) (Path.read?_of_mem_knownKeys key hkey),
    at?_overlay c name hkey]
  exact alike_outcome reader key' key _

end Configuration

namespace Profile

/-! ### Reading a profile -/

section

variable {c : Configuration} {name : String} {steps : List Path.Step}

/-- Reading the parts one by one comes to the same, since each looks a known key up. -/
theorem alike_readTransport (hname : Path.read? name = some steps) :
    Alike (readTransport c name) (readTransport (c.overlay name) "") :=
  (c.alike_optional _ hname (by decide)).bind fun _ => .refl _

theorem alike_readBufferSize (hname : Path.read? name = some steps) :
    Alike (readBufferSize c name) (readBufferSize (c.overlay name) "") :=
  (c.alike_optional _ hname (by decide)).bind fun _ => .refl _

theorem alike_readPort (hname : Path.read? name = some steps) :
    Alike (readPort c name) (readPort (c.overlay name) "") :=
  (c.alike_optional _ hname (by decide)).bind fun _ => .refl _

theorem alike_readListenerAddress (hname : Path.read? name = some steps) :
    Alike (readListenerAddress c name) (readListenerAddress (c.overlay name) "") :=
  (c.alike_optional _ hname (by decide)).bind fun _ => .refl _

theorem alike_readSharing (hname : Path.read? name = some steps) :
    Alike (readSharing c name) (readSharing (c.overlay name) "") :=
  (c.alike_optional _ hname (by decide)).bind fun _ =>
    (c.alike_optional _ hname (by decide)).bind fun _ =>
      (c.alike_optional _ hname (by decide)).bind fun _ =>
        (c.alike_optional _ hname (by decide)).bind fun _ => .refl _

end

/-! ### Keys that nobody reads -/

theorem unknownKey?_named (es : Table) :
    unknownKey? false es = none ∧ (∀ e ∈ es, e.1 ∈ knownKeys) ∨
      ∃ e ∈ es, e.1 ∉ knownKeys ∧ unknownKey? false es = some e.1 := by
  unfold unknownKey?
  cases h : List.find? (fun e => !knownKeys.contains e.1 && !(false && e.2.isTable)) es with
  | none =>
    refine .inl ⟨rfl, fun e he => ?_⟩
    simpa using List.find?_eq_none.mp h e he
  | some e =>
    refine .inr ⟨e, List.mem_of_find?_eq_some h, ?_, rfl⟩
    simpa using List.find?_some h

/-- The overlay has known keys only. -/
theorem checkKeys_overlay (c : Configuration) (name : String) :
    checkKeys (c.overlay name) "" = .ok () := by
  have hnone : unknownKey? true (c.overlay name).root.entries = none := by
    refine Option.map_eq_none_iff.mpr (List.find?_eq_none.mpr fun e he => ?_)
    obtain ⟨key, hkey, hv⟩ := List.mem_filterMap.mp he
    obtain ⟨v, -, rfl⟩ := Option.map_eq_some_iff.mp hv
    simp [hkey]
  simp [checkKeys, bind, Except.bind, hnone]

/-- **Under a name the check is of the table there,** which is empty where there is nothing: it
passes where every key is known, and else an unknown key is refused. -/
theorem checkKeys_named {c : Configuration} {name : String} {steps : List Path.Step} {es : Table}
    (hname : Path.read? name = some steps)
    (hes : c.at? name = none ∧ es = [] ∨ c.at? name = some (.table es)) :
    checkKeys c name = .ok () ∧ (∀ e ∈ es, e.1 ∈ knownKeys) ∨
      ∃ e ∈ es, e.1 ∉ knownKeys ∧ checkKeys c name = .error (.unknownKey e.1) := by
  have hne := Path.ne_empty_of_read? hname
  have hcheck : checkKeys c name =
      (unknownKey? false es).elim (.ok ()) fun key => .error (.unknownKey key) := by
    rw [checkKeys, if_neg hne, Configuration.entriesOf, Configuration.read_eq_outcome _ c hname]
    rcases hes with ⟨hnone, rfl⟩ | htable
    · simp [hnone, Configuration.outcome, unknownKey?, bind, Except.bind]
    · simp only [htable, Configuration.outcome, Configuration.readTable, hne, decide_false, bind,
        Except.bind]
      cases unknownKey? false es <;> rfl
  rw [hcheck]
  rcases unknownKey?_named es with ⟨hnone, hall⟩ | ⟨e, he, hunknown, hsome⟩
  · exact .inl ⟨by rw [hnone]; rfl, hall⟩
  · exact .inr ⟨e, he, hunknown, by rw [hsome]; rfl⟩

/-! ### The profile under a name -/

/-- Where the keys pass, the profile under a name comes to the same as that of the overlay: every
part does. -/
theorem alike_read {c : Configuration} {name : String} {steps : List Path.Step}
    (hname : Path.read? name = some steps) (hcheck : checkKeys c name = .ok ()) :
    Alike (read c name) (read (c.overlay name) "") := by
  unfold read
  rw [hcheck, checkKeys_overlay]
  exact (Alike.refl _).bind fun _ =>
    (alike_readTransport hname).bind fun _ =>
      (alike_readBufferSize hname).bind fun _ =>
        (c.alike_optional _ hname (by decide)).bind fun _ =>
          (alike_readPort hname).bind fun _ =>
            (alike_readListenerAddress hname).bind fun _ =>
              (c.alike_optional _ hname (by decide)).bind fun _ =>
                (c.alike_optional _ hname (by decide)).bind fun _ =>
                  (alike_readSharing hname).bind fun _ => .refl _

/-- **The settings under a name are laid over those at the root.**  Where the name stands for
nothing, or for a table with known keys only, reading a profile under it comes to reading the overlay
at the root: it gives the same profiles, and it fails with errors of the same kind.  Where it stands
for a table with an unknown key, such a key is refused, whatever else there is. -/
theorem read_overlay {c : Configuration} {name : String} {steps : List Path.Step}
    (hname : Path.read? name = some steps) :
    ((c.at? name = none ∨ ∃ es, c.at? name = some (.table es) ∧ ∀ e ∈ es, e.1 ∈ knownKeys) →
      (∀ p, read c name = .ok p ↔ read (c.overlay name) "" = .ok p) ∧
        ∀ e, read c name = .error e →
          ∃ e', read (c.overlay name) "" = .error e' ∧ e'.keyless = e.keyless) ∧
      ∀ es, c.at? name = some (.table es) → (∃ e ∈ es, e.1 ∉ knownKeys) →
        ∃ e ∈ es, e.1 ∉ knownKeys ∧ read c name = .error (.unknownKey e.1) := by
  refine ⟨fun h => ?_, fun es hes hunknown => ?_⟩
  · have hcheck : checkKeys c name = .ok () := by
      rcases h with hnone | ⟨es, hes, hall⟩
      · rcases checkKeys_named hname (.inl ⟨hnone, rfl⟩) with hok | ⟨e, he, -⟩
        · exact hok.1
        · exact nomatch he
      · rcases checkKeys_named hname (.inr hes) with hok | ⟨e, he, hnot, -⟩
        · exact hok.1
        · exact absurd (hall e he) hnot
    exact ⟨(alike_read hname hcheck).ok_iff, fun e => (alike_read hname hcheck).exists_error⟩
  · rcases checkKeys_named hname (.inr hes) with ⟨-, hall⟩ | ⟨e, he, hnot, herror⟩
    · obtain ⟨e, he, hnot⟩ := hunknown
      exact absurd (hall e he) hnot
    · refine ⟨e, he, hnot, ?_⟩
      rw [read, herror]
      rfl

/-- Settings under three names: under `field` the buffer has another size, under `hall` the null of
the port is no number, where no port at all would have led to the root, and under `desk` a key is
unknown. -/
def house : Configuration :=
  ⟨.table [
    ("buffersize", .integer 512), ("port", .integer 700),
    ("field", .table [("buffersize", .text "4096")]),
    ("hall", .table [("port", .null)]),
    ("desk", .table [("port", .integer 80), ("baud", .integer 9600)])]⟩

/-- At the house, what is read under `field` has the buffer size from there and the port from the
root, and so has the overlay; under `hall` both fail alike, and under `desk` the unknown key is
refused. -/
theorem read_overlay_house :
    (∀ p, read house "field" = .ok p ↔ read (house.overlay "field") "" = .ok p) ∧
      (∃ p, read house "field" = .ok p ∧ (p.bufferSize = 4096 ∧ p.port = 700) ∧
        read (house.overlay "field") "" = .ok p) ∧
      (∃ e', read (house.overlay "hall") "" = .error e' ∧
        e'.keyless = .lookup (.mismatch .nothing .integer "")) ∧
      ∃ e ∈ [("port", Value.integer 80), ("baud", .integer 9600)],
        e.1 ∉ knownKeys ∧ read house "desk" = .error (.unknownKey e.1) := by
  have hbaud : ∃ e ∈ [("port", Value.integer 80), ("baud", .integer 9600)], e.1 ∉ knownKeys :=
    ⟨("baud", .integer 9600), by simp, by decide⟩
  have hfield : ∀ p, read house "field" = .ok p ↔ read (house.overlay "field") "" = .ok p :=
    ((@read_overlay house "field" _ rfl).1
      (.inr ⟨[("buffersize", .text "4096")], rfl, by decide⟩)).1
  have hread : read house "field" = .ok { bufferSize := 4096, port := 700 } := rfl
  refine ⟨hfield, ⟨_, hread, ⟨rfl, rfl⟩, (hfield _).mp hread⟩, ?_, ?_⟩
  · exact ((@read_overlay house "hall" _ rfl).1
      (.inr ⟨[("port", .null)], rfl, by decide⟩)).2 _ rfl
  · exact (@read_overlay house "desk" _ rfl).2 _ rfl hbaud

end Profile

end Settings

end Switchboard
