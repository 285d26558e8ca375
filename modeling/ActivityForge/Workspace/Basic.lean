import ActivityForge.Path

/-!
# Workspaces

A `Workspace` holds files and directories, and one directory that relative paths start from.
Paths are followed as they are written: `find` takes each name on the way for a directory that
has to be there, and two points for a step upwards.
-/

namespace ActivityForge

/-- The names that lead from the root to a file or directory. -/
abbrev Location := List String

/-- The order of locations by their names, from the root downwards. -/
def Location.precedes : Location → Location → Bool
  | [], _ => true
  | _ :: _, [] => false
  | a :: as, b :: bs => if a = b then precedes as bs else a ≤ b

namespace Workspace

inductive Entry
  | file (content : ByteArray)
  | directory
deriving Inhabited

def Entry.isDirectory : Entry → Bool
  | file _ => false
  | directory => true

/-- Whether two entries are directories or files with the same content. -/
def Entry.agrees : Entry → Entry → Bool
  | file a, file b => a.data = b.data
  | directory, directory => true
  | _, _ => false

/-- Why a file or directory cannot be used. -/
inductive Fault
  | notFound
  | alreadyThere
  | notDirectory
  | isDirectory
  | nameTooLong
  | nulInName
  | notText
deriving DecidableEq, Repr

def Fault.message : Fault → String
  | notFound => "No such file or directory (os error 2)"
  | alreadyThere => "File exists (os error 17)"
  | notDirectory => "Not a directory (os error 20)"
  | isDirectory => "Is a directory (os error 21)"
  | nameTooLong => "File name too long (os error 36)"
  | nulInName => "file name contained an unexpected NUL byte"
  | notText => "stream did not contain valid UTF-8"

end Workspace

structure Workspace where
  /-- What there is below the root. -/
  entries : List (Location × Workspace.Entry)
  /-- The directory that relative paths start from. -/
  here : Location

namespace Workspace

/-- Nothing but a directory to start from and the directories above it. -/
def ofDirectory (here : Location) : Workspace :=
  ⟨(List.range here.length).map fun n => (here.take (n + 1), .directory), here⟩

/-- What is at a location; the root is always a directory. -/
def get? (w : Workspace) (l : Location) : Option Entry :=
  if l = [] then some .directory else w.entries.lookup l

/-- Puts an entry at a location: in its place if there is one, else behind all others. -/
def putEntry : List (Location × Entry) → Location → Entry → List (Location × Entry)
  | [], l, e => [(l, e)]
  | (l', e') :: rest, l, e => if l' = l then (l, e) :: rest else (l', e') :: putEntry rest l e

def put (w : Workspace) (l : Location) (e : Entry) : Workspace :=
  { w with entries := putEntry w.entries l e }

theorem lookup_putEntry (entries : List (Location × Entry)) (l : Location) (e : Entry)
    (k : Location) :
    (putEntry entries l e).lookup k = if k = l then some e else entries.lookup k := by
  induction entries with
  | nil => by_cases h : k = l <;> simp [putEntry, List.lookup_cons, beq_eq_false_iff_ne.mpr, h]
  | cons p rest ih =>
    obtain ⟨l', e'⟩ := p
    by_cases h' : l' = l
    · subst h'
      by_cases h : k = l' <;> simp [putEntry, List.lookup_cons, beq_eq_false_iff_ne.mpr, h]
    · by_cases hk : k = l'
      · subst hk
        simp [putEntry, h']
      · simp [putEntry, List.lookup_cons, h', beq_eq_false_iff_ne.mpr hk, ih]

theorem get?_put (w : Workspace) (l : Location) (e : Entry) (k : Location) (hk : k ≠ []) :
    (w.put l e).get? k = if k = l then some e else w.get? k := by
  simp [get?, put, hk, lookup_putEntry]

/-! ## Following paths -/

/-- One step along a path, into a directory or upwards. -/
def enter (w : Workspace) (l : Location) (name : String) : Except Fault Location :=
  if name = ".." then .ok l.dropLast
  else if name.utf8ByteSize > 255 then .error .nameTooLong
  else
    match w.get? (l ++ [name]) with
    | some .directory => .ok (l ++ [name])
    | some (.file _) => .error .notDirectory
    | none => .error .notFound

/-- Where a path ends: at a directory on its way, or at a name in one that may not be there. -/
inductive Target
  | directory (l : Location)
  | name (l : Location) (endsInSlash : Bool)

/-- Follows a path up to its last name. -/
def target (w : Workspace) (path : String) : Except Fault Target := do
  if path.isEmpty then throw .notFound
  if path.contains '\x00' then throw .nulInName
  if path.utf8ByteSize ≥ 4096 then throw .nameTooLong
  let steps := Path.steps path
  let l ← steps.way.foldlM w.enter (if steps.fromRoot then [] else w.here)
  match steps.last with
  | none => pure (.directory l)
  | some name =>
    if name = ".." then pure (.directory l.dropLast)
    else if name.utf8ByteSize > 255 then throw .nameTooLong
    else pure (.name (l ++ [name]) steps.endsInSlash)

/-- What a path leads to. -/
def find (w : Workspace) (path : String) : Except Fault Entry := do
  match ← w.target path with
  | .directory _ => pure .directory
  | .name l endsInSlash =>
    match w.get? l with
    | none => throw .notFound
    | some (.file content) => if endsInSlash then throw .notDirectory else pure (.file content)
    | some .directory => pure .directory

def contains (w : Workspace) (path : String) : Bool := (w.find path).isOk

def isFile (w : Workspace) (path : String) : Bool :=
  match w.find path with
  | .ok (.file _) => true
  | _ => false

def isDirectory (w : Workspace) (path : String) : Bool :=
  match w.find path with
  | .ok .directory => true
  | _ => false

/-- The text of a file. -/
def read (w : Workspace) (path : String) : Except Fault String := do
  match ← w.find path with
  | .directory => throw .isDirectory
  | .file content =>
    match String.fromUTF8? content with
    | some text => pure text
    | none => throw .notText

/-! ## Listing -/

/-- Everything below the directory that paths start from: a directory ends in a slash and comes
right before what it contains, and entries of one directory come in the order of their names. -/
def listing (w : Workspace) : List String :=
  let below := w.entries.filterMap fun (l, e) =>
    if w.here.isPrefixOf l && w.here ≠ l then some (l.drop w.here.length, e) else none
  (below.mergeSort fun a b => Location.precedes a.1 b.1).map fun (l, e) =>
    "/".intercalate l ++ (if e.isDirectory then "/" else "")

end Workspace

end ActivityForge
