import Switchboard.Settings.Value

/-!
# Key paths

A key of a configuration is a path: a name, followed by further names after dots and by indices in
brackets.  A name has ASCII letters, digits, underscores and hyphens; an index is a decimal integer,
perhaps negative, with blanks and tabs around it.
-/

namespace Switchboard.Settings.Path

open Text

/-- May the character stand in a name? -/
def isNameChar (c : Char) : Bool :=
  c.isAlphanum || c == '_' || c == '-'

/-- Is the character a blank that may stand inside brackets? -/
def isSpace (c : Char) : Bool :=
  c == ' ' || c == '\t'

/-- The integer of an index: decimal digits after an optional minus sign, within 64 bits. -/
def index? : List Char → Option Int
  | '-' :: ds => (digits? 10 0x8000000000000000 ds).map fun n => -(n : Int)
  | ds => (digits? 10 0x7FFFFFFFFFFFFFFF ds).map fun n => (n : Int)

/-- The index between brackets, without the blanks around it. -/
def bracketed? (cs : List Char) : Option Int :=
  index? ((cs.dropWhile isSpace).reverse.dropWhile isSpace).reverse

/-- Reads a path piece by piece.  `name` holds the characters of the current name, the last one
first, and `none` stands for the end of a piece, after which a dot or a bracket must follow. -/
def steps? : Option (List Char) → List Char → Option (List Step)
  | none, [] => some []
  | some [], [] => none
  | some name, [] => some [.field (String.ofList name.reverse)]
  | some name, '.' :: cs =>
    if name = [] then none
    else (steps? (some []) cs).map (.field (String.ofList name.reverse) :: ·)
  | none, '.' :: cs => steps? (some []) cs
  | some name, '[' :: cs =>
    if name = [] then none
    else (subscript? [] cs).map (.field (String.ofList name.reverse) :: ·)
  | none, '[' :: cs => subscript? [] cs
  | some name, c :: cs => if isNameChar c then steps? (some (c :: name)) cs else none
  | none, _ :: _ => none
where
  /-- Reads on inside brackets, whose characters so far are `seen`, the last one first. -/
  subscript? (seen : List Char) : List Char → Option (List Step)
    | [] => none
    | ']' :: cs =>
      match bracketed? seen.reverse with
      | some i => (steps? none cs).map (.index i :: ·)
      | none => none
    | c :: cs => subscript? (c :: seen) cs

/-- **The steps of a key,** if it is a path. -/
def read? (key : String) : Option (List Step) :=
  steps? (some []) key.toList

end Switchboard.Settings.Path
