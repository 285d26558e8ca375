import ActivityForge.Number.Shortest
import ActivityForge.Reading.Fault
import ActivityForge.Text.Literal

/-!
# Trees

What a text in some notation reads to before it is given a shape.  A tree keeps what its reader
could tell about each scalar, the members of mappings with their repetitions, and the place where
a broken text stops to make sense: reading stops there, so a fault lies only in the last part of
the last part.  A value may also be flawed in a way that matters only if the value is kept.
-/

namespace ActivityForge.Reading

/-- The value of a scalar. -/
inductive Atom
  | unit
  | bool (b : Bool)
  | int (n : Int)
  /-- An integer beyond the range that values can have. -/
  | wide (n : Int)
  | float (x : Float)
  | text (s : String)
  /-- A text that does not fit the type it is marked with. -/
  | misfit

/-- A scalar, by the ways in which it can be read. -/
structure Scalar where
  atom : Atom
  /-- What it says where a text is expected. -/
  text? : Option String
  /-- What it says where a flag is expected. -/
  flag? : Option Bool
  /-- Whether it stands for no value where a value is optional; `none` if that cannot be told. -/
  absent? : Option Bool
  /-- Whether it stands for an empty list, map or record. -/
  isHollow : Bool

inductive Tree
  | scalar (s : Scalar)
  /-- A list, with the fault that cuts it off if it is not closed. -/
  | list (items : List Tree) (cut : Option Fault)
  /-- A mapping, with the fault that cuts it off if it is not closed. -/
  | dict (members : List (Tree × Tree)) (cut : Option Fault)
  /-- A value marked with a type of its own. -/
  | tagged (value : Tree)
  /-- A value that is written somewhere else. -/
  | alias (anchor : Nat)
  /-- A value that cannot be kept; it can be skipped unless `skipped` has a fault too. -/
  | flawed (kept : Fault) (skipped : Option Fault)

mutual

/-- The fault that is met when the value is skipped. -/
def Tree.skip? : Tree → Option Fault
  | .scalar _ | .alias _ => none
  | .list items cut => (skipItems? items).or cut
  | .dict members cut => (skipMembers? members).or cut
  | .tagged value => value.skip?
  | .flawed _ skipped => skipped

def skipItems? : List Tree → Option Fault
  | [] => none
  | item :: items => item.skip?.or (skipItems? items)

def skipMembers? : List (Tree × Tree) → Option Fault
  | [] => none
  | (key, value) :: members => key.skip?.or (value.skip?.or (skipMembers? members))

end

/-! ## Formats -/

/-- What distinguishes the notations that trees are read from. -/
structure Format where
  /-- Whether a record may be written as the list of its fields. -/
  positional : Bool
  /-- How a value that is nothing is called. -/
  unitName : String
  /-- How a floating point number is written in a message. -/
  floatText : Float → String
  /-- How many containers may be nested in a value that is kept. -/
  maxDepth : Nat
  /-- The fault of deeper nesting. -/
  tooDeep : Fault

/-- The kind and value of an atom, as messages name what was found. -/
def Format.describe (f : Format) : Atom → String
  | .unit => f.unitName
  | .bool b => "boolean \x60" ++ toString b ++ "\x60"
  | .int n => "integer \x60" ++ toString n ++ "\x60"
  | .wide n => "integer \x60" ++ toString n ++ "\x60 as " ++ (if n < 0 then "i128" else "u128")
  | .float x => "floating point \x60" ++ f.floatText x ++ "\x60"
  | .text s => "string " ++ Text.literal s
  | .misfit => ""

/-- The fault of an atom in the place of what is expected. -/
def Format.mismatch (f : Format) (a : Atom) (expected : String) : Fault :=
  match a with
  | .misfit => .unreadable
  | _ => .wrongType (f.describe a) expected

/-- A text that has been read to a tree. -/
structure Source where
  format : Format
  root : Tree
  /-- The values that aliases stand for. -/
  anchors : Nat → Option Tree
  /-- How many aliases may be followed. -/
  jumps : Nat
  /-- What is wrong behind the value, if anything. -/
  after : Option Fault

end ActivityForge.Reading
