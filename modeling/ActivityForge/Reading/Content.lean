import ActivityForge.Reading.Tree

/-!
# Contents

A `Content` is a value that has been kept whole, without faults, aliases or marks.  `keepWhole`
turns a tree into its content, in document order and up to the first fault.
-/

namespace ActivityForge.Reading

inductive Content
  | unit
  | bool (b : Bool)
  | int (n : Int)
  | float (x : Float)
  | text (s : String)
  | list (items : List Content)
  | map (members : List (Content × Content))

instance : Inhabited Content := ⟨.unit⟩

mutual

/-- How deep lists and maps are nested in a content. -/
def Content.depth : Content → Nat
  | .list items => depthItems items + 1
  | .map members => depthMembers members + 1
  | _ => 0

def depthItems : List Content → Nat
  | [] => 0
  | item :: items => max item.depth (depthItems items)

def depthMembers : List (Content × Content) → Nat
  | [] => 0
  | (key, value) :: members => max key.depth (max value.depth (depthMembers members))

end

/-- Reading with faults, while a limited number of aliases is followed. -/
abbrev Walk := StateT Nat (Except Fault)

/-- Stops with a fault. -/
def Walk.stop {α : Type} (f : Fault) : Walk α := StateT.lift (.error f)

/-- Stops if there is a fault. -/
def Walk.stopIf : Option Fault → Walk Unit
  | some f => stop f
  | none => pure ()

namespace Source

/-- The value that a tree stands for: an alias is followed, which uses up one jump. -/
def follow (src : Source) : Tree → Walk Tree
  | .alias anchor => do
    let left ← get
    match left, src.anchors anchor with
    | left + 1, some target => set left; pure target
    | _, _ => Walk.stop .unreadable
  | tree => pure tree

/-- The value that a tree stands for, without its mark. -/
def settle (src : Source) (tree : Tree) : Walk Tree := do
  match ← src.follow tree with
  | .tagged value => pure value
  | value => pure value

/-- The content of a scalar. -/
def keepScalar (src : Source) (s : Scalar) : Walk Content :=
  match s.atom with
  | .unit => pure .unit
  | .bool b => pure (.bool b)
  | .int n => pure (.int n)
  | .float x => pure (.float x)
  | .text t => pure (.text t)
  | .wide _ | .misfit => Walk.stop (src.format.mismatch s.atom "any value")

/-- The content of a tree whose inner values are kept by `inner`, if any may be nested. -/
def keepBy (src : Source) (inner : Option (Tree → Walk Content)) (tree : Tree) : Walk Content := do
  match ← src.follow tree, inner with
  | .scalar s, _ => src.keepScalar s
  | .list items cut, some keep => do
    let kept ← items.mapM keep
    Walk.stopIf cut
    pure (.list kept)
  | .dict members cut, some keep => do
    let kept ← members.mapM fun (key, value) => do
      let k ← keep key
      let v ← keep value
      pure (k, v)
    Walk.stopIf cut
    pure (.map kept)
  | .list .., none | .dict .., none => Walk.stop src.format.tooDeep
  | .flawed kept _, _ => Walk.stop kept
  | .tagged _, _ | .alias _, _ => Walk.stop .unreadable

/-- The content of a tree in which at most `depth` containers are nested. -/
def keepWhole (src : Source) : Nat → Tree → Walk Content
  | 0 => src.keepBy none
  | depth + 1 => src.keepBy (some (src.keepWhole depth))

end Source

end ActivityForge.Reading
