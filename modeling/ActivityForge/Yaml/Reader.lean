import ActivityForge.Dict
import ActivityForge.Yaml.Lexer
import ActivityForge.Yaml.Scalar

/-!
# Reading YAML

`Yaml.source` reads a YAML text to a tree.  The readers consume tokens and return what they found
with a flag that tells whether the text goes on; if it does not, the last part of the tree carries
the fault.
-/

namespace ActivityForge.Yaml

open Reading (Fault Format Source Tree)

/-- A value with an anchor. -/
structure Anchored where
  /-- Its place among the values with anchors, in the order in which they begin. -/
  place : Nat
  anchor : Nat
  value : Tree

structure Progress where
  /-- The tokens that are left. -/
  tokens : List Token
  /-- What tag handles stand for. -/
  handles : Dict String
  /-- The numbers that the names of anchors stand for. -/
  names : Dict Nat
  /-- How many values with anchors have begun. -/
  begun : Nat
  anchored : List Anchored
  /-- How many scalars, aliases, and starts and ends of collections have been read. -/
  events : Nat

abbrev Reader := StateM Progress

/-- A value, and whether the text goes on behind it. -/
abbrev Found := Tree × Bool

def malformed : Tree := .flawed .malformed (some .malformed)

/-- The text breaks off here. -/
def broken : Found := (malformed, false)

namespace Reader

def next? : Reader (Option Token) := return (← get).tokens.head?

def advance : Reader Unit := modify fun p => { p with tokens := p.tokens.drop 1 }

/-- Counts events. -/
def count (n : Nat) : Reader Unit := modify fun p => { p with events := p.events + n }

/-- Whether the next token is one of these. -/
def isNext (tokens : List Token) : Reader Bool := return (← next?).any tokens.contains

/-! ## Marks in front of values -/

/-- The anchor and the tag of a value. -/
structure Marks where
  anchor : Option String
  tag : Option String

/-- What a tag stands for; nothing if its handle is not known. -/
def resolveTag (handle suffix : String) : Reader (Option String) := do
  if handle.isEmpty then return some suffix
  return ((← get).handles.get? handle).map (· ++ suffix)

/-- An anchor and a tag in either order; nothing if the tag has an unknown handle. -/
def marks : Reader (Option Marks) := do
  let anchor : Reader (Option String) := do
    match ← next? with
    | some (.anchor name) => advance; return some name
    | _ => return none
  let first ← anchor
  let (tag, known) ← match ← next? with
    | some (.tag handle suffix) => do
      advance
      let tag ← resolveTag handle suffix
      pure (tag, tag.isSome)
    | _ => pure (none, true)
  let last ← if first.isNone && tag.isSome then anchor else pure none
  return if known then some ⟨first.or last, tag⟩ else none

/-- Begins a value with an anchor: its place and number.  A new name takes the number of names
before it, and so does a name that is used again. -/
def begin : Option String → Reader (Option (Nat × Nat))
  | none => return none
  | some name => do
    let p ← get
    let anchor := p.names.length
    set { p with names := p.names.put name anchor, begun := p.begun + 1 }
    return some (p.begun, anchor)

/-- Ends a value, with its own mark if the tag is one of the document's own. -/
def finish (start : Option (Nat × Nat)) (tag : Option String) (value : Tree) (goesOn : Bool) :
    Reader Found := do
  let value := if tag.any isLocal then .tagged value else value
  if let some (place, anchor) := start then
    modify fun p => { p with anchored := ⟨place, anchor, value⟩ :: p.anchored }
  return (value, goesOn)

/-- A scalar. -/
def scalar (m : Marks) (text : String) (style : Style) : Reader Found := do
  let start ← begin m.anchor
  count 1
  finish start m.tag (.scalar (scalarOf text style m.tag)) true

/-- A value that is left out. -/
def absent : Reader Found := scalar ⟨none, none⟩ "" .plain

/-- The items or members of a collection that have been read, last first, and whether it has been
closed. -/
abbrev Part (α : Type) := List α × Bool

def listOf (items : Part Tree) : Tree :=
  .list items.1.reverse (if items.2 then none else some .malformed)

def dictOf (members : Part (Tree × Tree)) : Tree :=
  .dict members.1.reverse (if members.2 then none else some .malformed)

/-- Consumes the token that closes a collection. -/
def close {α : Type} (found : List α) : Reader (Part α) := do
  advance
  count 1
  return (found, true)

/-! ## Values -/

/-- A collection with its marks. -/
def collection {α : Type} (m : Marks) (build : Part α → Tree) (parts : Reader (Part α)) :
    Reader Found := do
  let start ← begin m.anchor
  count 1
  let found ← parts
  finish start m.tag (build found) found.2

/-- A value of which there is nothing but its marks. -/
def unwritten (m : Marks) : Reader Found :=
  if m.anchor.isSome || m.tag.isSome then scalar m "" .plain else return broken

/-- A value, or nothing if one of these tokens comes first. -/
def orAbsent (ends : List Token) (found : Reader Found) : Reader Found := do
  if ← isNext ends then absent else found

/-- The value behind a key, if there is one. -/
def behindKey (ends : List Token) (found : Reader Found) : Reader Found := do
  match ← next? with
  | some .value => advance; orAbsent ends found
  | some _ => absent
  | none => return broken

/-- Goes on with more parts behind one, if the text goes on there. -/
def followed {α : Type} (found : List α) (goesOn : Bool) (more : List α → Reader (Part α)) :
    Reader (Part α) :=
  if goesOn then more found else return (found, false)

mutual

/-- A value.  Outside of flow collections it may be a block, and where a block mapping expects it
also a list at the column of the mapping. -/
def value (inBlock atColumn : Bool) : Nat → Reader Found
  | 0 => return broken
  | fuel + 1 => do
    if let some (.alias name) ← next? then
      advance
      match (← get).names.get? name with
      | some anchor => count 1; return (.alias anchor, true)
      | none => return broken
    let some m ← marks | return broken
    match ← next?, inBlock, atColumn with
    | some (.scalar text style), _, _ =>
      advance
      scalar { m with tag := m.tag.filter (· ≠ "!") } text style
    | some .flowSequenceStart, _, _ => advance; collection m listOf (flowItems [] fuel)
    | some .flowMappingStart, _, _ => advance; collection m dictOf (flowMembers [] fuel)
    | some .blockEntry, _, true => collection m listOf (openItems [] fuel)
    | some .blockSequenceStart, true, _ => advance; collection m listOf (blockItems [] fuel)
    | some .blockMappingStart, true, _ => advance; collection m dictOf (blockMembers [] fuel)
    | some _, _, _ => unwritten m
    | none, _, _ => return broken

/-- The items of a block sequence. -/
def blockItems (found : List Tree) : Nat → Reader (Part Tree)
  | 0 => return (found, false)
  | fuel + 1 => do
    match ← next? with
    | some .blockEntry =>
      advance
      let (item, goesOn) ← orAbsent [.blockEntry, .blockEnd] (value true false fuel)
      followed (item :: found) goesOn (blockItems · fuel)
    | some .blockEnd => close found
    | _ => return (found, false)

/-- The items of a block sequence at the column of the mapping around it: no token closes it. -/
def openItems (found : List Tree) : Nat → Reader (Part Tree)
  | 0 => return (found, false)
  | fuel + 1 => do
    match ← next? with
    | some .blockEntry =>
      advance
      let (item, goesOn) ← orAbsent [.blockEntry, .key, .value, .blockEnd] (value true false fuel)
      followed (item :: found) goesOn (openItems · fuel)
    | some _ => count 1; return (found, true)
    | none => return (found, false)

/-- The members of a block mapping. -/
def blockMembers (found : List (Tree × Tree)) : Nat → Reader (Part (Tree × Tree))
  | 0 => return (found, false)
  | fuel + 1 => do
    let ends : List Token := [.key, .value, .blockEnd]
    match ← next? with
    | some .key =>
      advance
      let (key, goesOn) ← orAbsent ends (value true true fuel)
      let (val, goesOn) ← if goesOn then behindKey ends (value true true fuel) else pure broken
      followed ((key, val) :: found) goesOn (blockMembers · fuel)
    | some .blockEnd => close found
    | _ => return (found, false)

/-- The items of a flow sequence. -/
def flowItems (found : List Tree) : Nat → Reader (Part Tree)
  | 0 => return (found, false)
  | fuel + 1 => do
    if !found.isEmpty && !(← isNext [.flowSequenceEnd]) then
      if ← isNext [.flowEntry] then advance else return (found, false)
    match ← next? with
    | some .key =>
      advance
      let (item, goesOn) ← collection ⟨none, none⟩ dictOf (flowPair fuel)
      followed (item :: found) goesOn (flowItems · fuel)
    | some .flowSequenceEnd => close found
    | some _ =>
      let (item, goesOn) ← value false false fuel
      followed (item :: found) goesOn (flowItems · fuel)
    | none => return (found, false)

/-- The only member of a mapping that is an item of a flow sequence, behind its mark.  A token that
comes in place of the key is lost. -/
def flowPair : Nat → Reader (Part (Tree × Tree))
  | 0 => return ([], false)
  | fuel + 1 => do
    let (key, goesOn) ←
      if ← isNext [.value, .flowEntry, .flowSequenceEnd] then advance; absent
      else value false false fuel
    let (val, goesOn) ←
      if goesOn then behindKey [.flowEntry, .flowSequenceEnd] (value false false fuel)
      else pure broken
    if goesOn && (← next?).isSome then
      count 1
      return ([(key, val)], true)
    return ([(key, val)], false)

/-- The members of a flow mapping; one without a mark is a key without a value. -/
def flowMembers (found : List (Tree × Tree)) : Nat → Reader (Part (Tree × Tree))
  | 0 => return (found, false)
  | fuel + 1 => do
    if !found.isEmpty && !(← isNext [.flowMappingEnd]) then
      if ← isNext [.flowEntry] then advance else return (found, false)
    match ← next? with
    | some .key =>
      advance
      let (key, goesOn) ← orAbsent [.value, .flowEntry, .flowMappingEnd] (value false false fuel)
      let (val, goesOn) ←
        if goesOn then behindKey [.flowEntry, .flowMappingEnd] (value false false fuel)
        else pure broken
      followed ((key, val) :: found) goesOn (flowMembers · fuel)
    | some .flowMappingEnd => close found
    | some _ =>
      let (key, goesOn) ← value false false fuel
      let (val, goesOn) ← if goesOn && (← next?).isSome then absent else pure broken
      followed ((key, val) :: found) goesOn (flowMembers · fuel)
    | none => return (found, false)

end

/-! ## Documents -/

/-- Directives of a document, with the handles that they define: at most one version, which has to
be known, and no handle twice. -/
def directives (hasVersion : Bool) (handles : Dict String) :
    List Token → Option (Dict String × List Token)
  | .versionDirective major minor :: rest =>
    if hasVersion || major ≠ 1 || !(minor = 1 || minor = 2) then none
    else directives true handles rest
  | .tagDirective handle lead :: rest =>
    if handles.contains handle then none else directives hasVersion (handles.put handle lead) rest
  | rest => some (handles, rest)

/-- The handles that every document has unless it defines them itself. -/
def withDefaults (handles : Dict String) : Dict String :=
  handles ++ [("!", "!"), ("!!", coreLead)]

/-- The value of a document behind its start. -/
def content (fuel : Nat) : Reader Found := do
  match ← next? with
  | some (.versionDirective ..) | some (.tagDirective ..) | some .documentStart
  | some .documentEnd | some .streamEnd => absent
  | _ => value true false fuel

/-- The value of the first document. -/
def document (fuel : Nat) : Reader Found := do
  let p ← get
  match p.tokens with
  | .versionDirective .. :: _ | .tagDirective .. :: _ | .documentStart :: _ =>
    match directives false [] p.tokens with
    | some (handles, .documentStart :: rest) =>
      set { p with tokens := rest, handles := withDefaults handles }
      content fuel
    | _ => return broken
  | _ => value true false fuel

end Reader

/-! ## Texts -/

def format : Format where
  positional := false
  unitName := "unit value"
  floatText := Number.plainFloatText
  maxDepth := 128
  tooDeep := .unreadable

/-- The value of a text without a document. -/
def void : Tree :=
  .scalar { atom := .unit, text? := none, flag? := none, absent? := some true, isHollow := true }

/-- The value with an anchor's number that begins last. -/
def lastAnchored? (anchored : List Anchored) (anchor : Nat) : Option Tree :=
  let later (best : Option Anchored) (a : Anchored) : Option Anchored :=
    if a.anchor = anchor && best.all (·.place < a.place) then some a else best
  (anchored.foldl later none).map (·.value)

/-- What tells that nothing but the end of the text follows. -/
def isOver (tokens : List Token) : Bool := tokens.dropWhile (· = .documentEnd) = [.streamEnd]

/-- Reads a text that holds one document. -/
def source (text : String) : Source :=
  let found := tokens text
  if found = [.streamEnd] then
    { format := format, root := void, anchors := fun _ => none, jumps := 0, after := none }
  else
    let start : Progress :=
      { tokens := found, handles := Reader.withDefaults [], names := [], begun := 0, anchored := [],
        events := 0 }
    let ((root, goesOn), p) := (Reader.document (4 * (found.length + 2))).run start
    { format := format
      root := root
      anchors := lastAnchored? p.anchored
      jumps := 100 * p.events
      after := if goesOn && isOver p.tokens then none else some .malformed }

end ActivityForge.Yaml
