import Switchboard.Text.Binary64

/-!
# Values of a configuration

A configuration is a tree of values.  Entries of a table keep the order in which they were made.

* `Value.update` changes the value at the end of a way through the tree.  Whatever stands in the way
  gives place to the table or the list that is needed.
* `Value.merge` lays one value over another: tables entry by entry, anything else as a whole.
-/

namespace Switchboard.Settings

open Text

/-- A value of a configuration. -/
inductive Value where
  | null
  | boolean (b : Bool)
  | integer (n : Int)
  | real (x : Binary64)
  | text (s : String)
  | list (items : List Value)
  | table (entries : List (String × Value))
  deriving Inhabited

/-- The entries of a table. -/
abbrev Table := List (String × Value)

/-- One step from a value to a value inside it; a negative index counts from the end. -/
inductive Path.Step where
  | field (name : String)
  | index (i : Int)
  deriving Repr, DecidableEq

namespace Table

/-- The value of a key. -/
def find? (t : Table) (key : String) : Option Value :=
  List.lookup key t

/-- The table with a value for a key, in the place of the former one or else at the end. -/
def put (key : String) (v : Value) : Table → Table
  | [] => [(key, v)]
  | (k, w) :: rest => if k = key then (key, v) :: rest else (k, w) :: put key v rest

end Table

namespace Value

/-- The entries of a value; what is no table has none. -/
def entries : Value → Table
  | .table es => es
  | _ => []

/-- The items of a value; what is no list has none. -/
def items : Value → List Value
  | .list vs => vs
  | _ => []

/-- Is the value a table? -/
def isTable : Value → Bool
  | .table _ => true
  | _ => false

/-! ### The way through the tree -/

/-- The place that an index names in a list of the given length: `.inl` a place, counted from the
front and perhaps past the end, or `.inr` how far before the front it lies. -/
def place (i : Int) (length : Nat) : Nat ⊕ Nat :=
  if 0 ≤ i then .inl i.toNat
  else if (-i).toNat ≤ length then .inl (length - (-i).toNat)
  else .inr ((-i).toNat - length)

/-- The value one step further, if there is one. -/
def step? : Value → Path.Step → Option Value
  | .table es, .field name => Table.find? es name
  | .list vs, .index i =>
    match place i vs.length with
    | .inl n => vs[n]?
    | .inr _ => none
  | _, _ => none

/-- The value at the end of a way, if there is one. -/
def at? (v : Value) (steps : List Path.Step) : Option Value :=
  steps.foldlM step? v

/-- The list made long enough to hold a place: with nothing at the end, or before the front. -/
def pad (i : Int) (vs : List Value) : List Value × Nat :=
  match place i vs.length with
  | .inl n => (vs ++ List.replicate (n + 1 - vs.length) .null, n)
  | .inr k => (List.replicate k .null ++ vs, 0)

/-- **Changes the value at the end of a way,** which is made where it does not exist. -/
def update (f : Value → Value) : List Path.Step → Value → Value
  | [], v => f v
  | .field name :: steps, v =>
    let es := v.entries
    .table (Table.put name (update f steps ((Table.find? es name).getD .null)) es)
  | .index i :: steps, v =>
    let (vs, n) := pad i v.items
    .list (vs.modify n (update f steps))

/-! ### Laying values over values -/

mutual

/-- **One value over another:** a table goes into a table entry by entry, and anything else
replaces what was there. -/
def merge (old : Value) : Value → Value
  | .table es => .table (mergeEntries old.entries es)
  | v => v

/-- The entries of one table over those of another. -/
def mergeEntries (old : Table) : List (String × Value) → Table
  | [] => old
  | (key, v) :: rest =>
    mergeEntries (Table.put key (merge ((Table.find? old key).getD .null) v) old) rest

end

end Value

end Switchboard.Settings
