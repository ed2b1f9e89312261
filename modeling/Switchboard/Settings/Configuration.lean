import Switchboard.Error
import Switchboard.Settings.Path
import Switchboard.Text.Unicode.Lowercase

/-!
# Configurations

A configuration is built from default values and from values that override them, each under a key
path.  Values are looked up by path and read as numbers, flags, texts or tables, with the
conversions between these kinds that a configuration written as text needs.

* `Configuration.build` sets the defaults, then the overrides.
* `Configuration.find` looks a key up; nothing at the key is different from a null there.
* `Configuration.natural`, `.flag`, `.string` and `.entriesOf` read what was found.
* `Configuration.named` looks under a namespace first, and falls back only where nothing is found.
-/

namespace Switchboard.Settings

open Text

/-- A tree of values with a table at its root. -/
structure Configuration where
  root : Value

namespace Configuration

/-! ### Building -/

/-- The value set at a key, laid over what was there. -/
def set (key : String) (v : Value) (c : Configuration) : Except LookupError Configuration :=
  match Path.read? key with
  | some steps => .ok ⟨c.root.update (fun old => old.merge v) steps⟩
  | none => .error (.badPath key)

/-- The values set at their keys, one after the other. -/
def setAll : List (String × Value) → Configuration → Except LookupError Configuration
  | [], c => .ok c
  | (key, v) :: rest, c => do setAll rest (← c.set key v)

/-- **The configuration of some defaults and of what overrides them.** -/
def build (defaults overrides : List (String × Value)) : Except LookupError Configuration := do
  setAll overrides (← setAll defaults ⟨.table []⟩)

/-! ### Looking up -/

/-- The value at a key. -/
def find (c : Configuration) (key : String) : Except LookupError Value :=
  match Path.read? key with
  | none => .error (.badPath key)
  | some steps =>
    match c.root.at? steps with
    | some v => .ok v
    | none => .error (.missing key)

/-! ### Reading values -/

/-- The largest number of 64 bits. -/
def maxNatural : Nat :=
  0xFFFFFFFFFFFFFFFF

/-- How a message shows a value that could not be read. -/
def found : Value → Found
  | .null => .nothing
  | .boolean b => .boolean b
  | .integer n => if n < 0x8000000000000000 then .signed n else .unsigned n.toNat
  | .real x => .real (String.ofList x.render)
  | .text s => .text s
  | .list _ => .sequence
  | .table _ => .table

/-- A text in lower case. -/
def lower (s : String) : String :=
  String.ofList (Unicode.lowercase s.toList)

/-- A value as a number of 64 bits without a sign.  Words for yes and no count as one and zero, and
a number with a fraction is rounded into the range. -/
def readNatural : Value → Except (Found × Wanted) Nat
  | .integer n => if 0 ≤ n then .ok n.toNat else .error (.signed n, .unsigned)
  | .boolean b => .ok (if b then 1 else 0)
  | .real x => .ok (x.toNatural maxNatural)
  | .text s =>
    if lower s ∈ ["true", "on", "yes"] then .ok 1
    else if lower s ∈ ["false", "off", "no"] then .ok 0
    else
      match natural? maxNatural s.toList with
      | some n => .ok n
      | none => .error (.text s, .integer)
  | v => .error (found v, .integer)

/-- A value as a flag.  A number is set unless it is zero; a message shows a text in lower case. -/
def readFlag : Value → Except (Found × Wanted) Bool
  | .boolean b => .ok b
  | .integer n => .ok (n ≠ 0)
  | .real x => .ok x.isNonzero
  | .text s =>
    if lower s ∈ ["1", "true", "on", "yes"] then .ok true
    else if lower s ∈ ["0", "false", "off", "no"] then .ok false
    else .error (.text (lower s), .boolean)
  | v => .error (found v, .boolean)

/-- A value as a text. -/
def readString : Value → Except (Found × Wanted) String
  | .text s => .ok s
  | .boolean b => .ok (if b then "true" else "false")
  | .integer n => .ok (String.ofList (signedDecimal n))
  | .real x => .ok (String.ofList x.render)
  | v => .error (found v, .string)

/-- A value as a table. -/
def readTable : Value → Except (Found × Wanted) Table
  | .table es => .ok es
  | v => .error (found v, .table)

/-- The value at a key, read by `reader`; a failure names the key. -/
def read {α : Type} (reader : Value → Except (Found × Wanted) α) (c : Configuration)
    (key : String) : Except LookupError α :=
  match c.find key with
  | .error e => .error e
  | .ok v =>
    match reader v with
    | .ok a => .ok a
    | .error (f, w) => .error (.mismatch f w key)

/-- The number at a key. -/
def natural (c : Configuration) (key : String) : Except LookupError Nat :=
  c.read readNatural key

/-- The flag at a key. -/
def flag (c : Configuration) (key : String) : Except LookupError Bool :=
  c.read readFlag key

/-- The text at a key. -/
def string (c : Configuration) (key : String) : Except LookupError String :=
  c.read readString key

/-- The entries of the table at a key. -/
def entriesOf (c : Configuration) (key : String) : Except LookupError Table :=
  c.read readTable key

/-! ### Namespaces -/

/-- The key inside a namespace; the empty name is the root. -/
def qualified (name key : String) : String :=
  if name = "" then key else name ++ "." ++ key

/-- **Looks under the name first and at the root after it.**  Only absence leads to the root: a
value of the wrong kind under the name is an error. -/
def named {α : Type} (get : String → Except LookupError α) (name key : String) :
    Except LookupError α :=
  if name = "" then get key
  else
    match get (qualified name key) with
    | .error (.missing _) => get key
    | r => r

/-- Takes absence for nothing and keeps every other failure. -/
def optional {α : Type} : Except LookupError α → Except Error (Option α)
  | .ok a => .ok (some a)
  | .error (.missing _) => .ok none
  | .error e => .error (.lookup e)

/-- The number under the name or at the root, if there is one. -/
def natural? (c : Configuration) (name key : String) : Except Error (Option Nat) :=
  optional (named c.natural name key)

/-- The flag under the name or at the root, if there is one. -/
def flag? (c : Configuration) (name key : String) : Except Error (Option Bool) :=
  optional (named c.flag name key)

/-- The text under the name or at the root, if there is one. -/
def string? (c : Configuration) (name key : String) : Except Error (Option String) :=
  optional (named c.string name key)

end Configuration

end Switchboard.Settings
