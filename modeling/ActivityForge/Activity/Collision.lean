import ActivityForge.Activity
import ActivityForge.Log

/-!
# Colliding names

Two activities must not share the snake case form of their names.  `settleNames` goes through
the activities in order and gives each whose form is taken the first free suffix `_2`, `_3`, ….
-/

namespace ActivityForge.Activity

/-- A name with a numbered suffix. -/
def suffixed (original : String) (n : Nat) : Name := Name.ofText (original ++ "_" ++ toString n)

/-- The first name with a suffix from 2 on that is not taken; one of as many suffixes as there are
taken names and one more is free. -/
def freshName (taken : List String) (original : String) : Name :=
  let candidates := (List.range (taken.length + 1)).map fun i => suffixed original (i + 2)
  (candidates.find? fun name => !taken.contains name.snake).getD (suffixed original 2)

/-- The activity with a name whose form is not taken. -/
def settleName (taken : List String) (a : Activity) : Activity :=
  if taken.contains a.name.snake then { a with name := freshName taken a.name.original } else a

/-- The warning about a renamed activity. -/
def renameNote (a : Activity) (name : Name) : Log :=
  warn ("duplicate operation id \x60" ++ a.name.original ++ "\x60 (" ++ a.method.text ++ " " ++ a.path
    ++ "), renamed to \x60" ++ name.original ++ "\x60")

/-- The activities with names whose forms differ from each other and from those taken. -/
def settleNames (taken : List String) : List Activity → List Activity
  | [] => []
  | a :: rest =>
    let settled := settleName taken a
    settled :: settleNames (settled.name.snake :: taken) rest

/-- The warnings of `settleNames`, one for each renamed activity. -/
def settleNotes (taken : List String) : List Activity → Log
  | [] => []
  | a :: rest =>
    let settled := settleName taken a
    (if taken.contains a.name.snake then renameNote a settled.name else [])
      ++ settleNotes (settled.name.snake :: taken) rest

end ActivityForge.Activity
