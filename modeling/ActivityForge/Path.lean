import ActivityForge.Text.Line

/-!
# Paths as written

A path as the text it is written as: its components, its file name and extension, the paths of
the directories above it, and the steps that lead along it.
-/

namespace ActivityForge.Path

/-- The components of a path, without empty ones and those that stay in place. -/
def components (path : String) : List String :=
  ((Text.splitAt '/' path.toList).map String.ofList).filter fun c => c ≠ "" && c ≠ "."

/-- The last component, unless it leads upwards. -/
def fileName? (path : String) : Option String :=
  match (components path).getLast? with
  | some name => if name = ".." then none else some name
  | none => none

/-- What follows the last point of the file name, if the point does not begin it. -/
def extension? (path : String) : Option String := do
  let name := (← fileName? path).toList
  let after := (name.reverse.takeWhile (· ≠ '.')).reverse
  if after.length + 1 < name.length then some (String.ofList after) else none

/-- Whether the file has the extension `json`, in any case. -/
def isJson (path : String) : Bool :=
  match extension? path with
  | some e => e.toList.map Char.toLower = "json".toList
  | none => false

/-! ## Joined and shortened paths -/

def isAbsolute (path : String) : Bool := path.startsWith "/"

/-- A path inside a directory. -/
def join (directory path : String) : String :=
  if directory.isEmpty || directory.endsWith "/" then directory ++ path
  else directory ++ "/" ++ path

/-- The pieces of a path without those at its end that stay in place; a path that begins in
place keeps that piece. -/
def dropIdle (pieces : List String) : List String :=
  let kept := (pieces.reverse.dropWhile fun p => p = "" || p = ".").reverse
  if kept.isEmpty && pieces.head? = some "." then ["."] else kept

/-- The path without its last component; nothing is above the root and the empty path. -/
def parent? (path : String) : Option String :=
  match dropIdle ((Text.splitAt '/' path.toList).map String.ofList) with
  | [] => none
  | pieces =>
    match dropIdle pieces.dropLast with
    | [] => some (if isAbsolute path then "/" else "")
    | above => some ("/".intercalate above)

/-- At most `n` paths, each above the one before it. -/
def ascend : Nat → String → List String
  | 0, _ => []
  | n + 1, path => path :: ((parent? path).map (ascend n)).getD []

/-- The path and all paths above it. -/
def ancestors (path : String) : List String := ascend (path.length + 1) path

/-! ## Steps -/

/-- How a path leads to its end. -/
structure Steps where
  fromRoot : Bool
  /-- The names of directories on the way; two points lead upwards. -/
  way : List String
  /-- The last component, if the path does not end where the way does. -/
  last : Option String
  /-- Whether the path ends in a slash, so that it can only be a directory. -/
  endsInSlash : Bool

def steps (path : String) : Steps :=
  let pieces := (Text.splitAt '/' path.toList).map String.ofList
  let trimmed := (pieces.reverse.dropWhile (· = "")).reverse
  { fromRoot := isAbsolute path
    way := trimmed.dropLast.filter fun p => p ≠ "" && p ≠ "."
    last := trimmed.getLast?.filter (· ≠ ".")
    endsInSlash := trimmed.length < pieces.length }

end ActivityForge.Path
