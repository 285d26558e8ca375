import ActivityForge.Dict
import ActivityForge.Reading.Content

/-!
# Shapes

A `Shape α` says how values of type `α` are written: `keep` walks over a tree in document order,
stops at the first fault and keeps what matters as a content, and `value?` turns a kept content
into the value.  Shapes are built from `text`, `flag`, `optional`, `list`, `dict`, `record` and,
for values that are kept whole before they are matched, `whole` and `choice`.  The fields of a
record are a `Fields α`.
-/

namespace ActivityForge.Reading

structure Shape (α : Type) where
  keep : Source → Nat → Tree → Walk Content
  value? : Content → Option α

namespace Source

/-- The fault of a tree in the place of what is expected. -/
def mismatch (src : Source) (expected : String) : Tree → Fault
  | .scalar s => src.format.mismatch s.atom expected
  | .list .. => .wrongType "sequence" expected
  | .dict .. => .wrongType "map" expected
  | .flawed kept _ => kept
  | .tagged _ | .alias _ => .unreadable

/-- The text that a tree stands for. -/
def keepText (src : Source) (expected : String) (tree : Tree) : Walk String := do
  let value ← src.settle tree
  match value with
  | .scalar { text? := some t, .. } => pure t
  | _ => Walk.stop (src.mismatch expected value)

/-- The name of a field; anything but a text stops the reading without a message. -/
def keepFieldName (src : Source) (tree : Tree) : Walk String := do
  match ← src.settle tree with
  | .scalar { text? := some t, .. } => pure t
  | .flawed kept _ => Walk.stop kept
  | _ => Walk.stop .unreadable

end Source

namespace Content

def text? : Content → Option String
  | text s => some s
  | _ => none

def flag? : Content → Option Bool
  | bool b => some b
  | _ => none

def list? {α : Type} (item? : Content → Option α) : Content → Option (List α)
  | list items => items.mapM item?
  | _ => none

def dict? {α : Type} (value? : Content → Option α) : Content → Option (Dict α)
  | map members => do
    let pairs ← members.mapM fun (key, value) => do
      let k ← key.text?
      let v ← value? value
      pure (k, v)
    pure (Dict.ofPairs pairs)
  | _ => none

end Content

namespace Shape

def text : Shape String where
  keep src _ tree := Content.text <$> src.keepText "a string" tree
  value? := Content.text?

def flag : Shape Bool where
  keep src _ tree := do
    let value ← src.settle tree
    match value with
    | .scalar { flag? := some b, .. } => pure (.bool b)
    | _ => Walk.stop (src.mismatch "a boolean" value)
  value? := Content.flag?

/-- A value that may be absent. -/
def optional {α : Type} (s : Shape α) : Shape (Option α) where
  keep src depth tree := do
    let value ← src.follow tree
    match value with
    | .scalar { absent? := some true, .. } => pure .unit
    | .scalar { absent? := none, .. } => Walk.stop .unreadable
    | _ => s.keep src depth value
  value?
    | .unit => some none
    | c => (s.value? c).map some

def list {α : Type} (s : Shape α) : Shape (List α) where
  keep src depth tree := do
    let value ← src.settle tree
    match value, depth with
    | .list items cut, depth + 1 =>
      let kept ← items.mapM (s.keep src depth)
      Walk.stopIf cut
      pure (.list kept)
    | .list .., 0 => Walk.stop src.format.tooDeep
    | .scalar { isHollow := true, .. }, _ => pure (.list [])
    | _, _ => Walk.stop (src.mismatch "a sequence" value)
  value? := Content.list? s.value?

def dict {α : Type} (s : Shape α) : Shape (Dict α) where
  keep src depth tree := do
    let value ← src.settle tree
    match value, depth with
    | .dict members cut, depth + 1 =>
      let kept ← members.mapM fun (key, value) => do
        let k ← src.keepText "a string" key
        let v ← s.keep src depth value
        pure (Content.text k, v)
      Walk.stopIf cut
      pure (.map kept)
    | .dict .., 0 => Walk.stop src.format.tooDeep
    | .scalar { isHollow := true, .. }, _ => pure (.map [])
    | _, _ => Walk.stop (src.mismatch "a map" value)
  value? := Content.dict? s.value?

/-- A value that is kept whole and matched afterwards, as part of a larger one. -/
def whole {α : Type} (value? : Content → Option α) : Shape α where
  keep src depth tree := src.keepWhole depth tree
  value? := value?

/-- A value that is kept whole and then has to fit one of the forms of `name`. -/
def choice {α : Type} (name : String) (value? : Content → Option α) : Shape α where
  keep src depth tree := do
    let kept ← src.keepWhole depth tree
    if (value? kept).isNone then Walk.stop (.noVariant name)
    pure kept
  value? := value?

end Shape

/-! ## Records -/

/-- A field of a record. -/
structure Field where
  key : String
  /-- Whether a mapping has to have the field. -/
  isRequired : Bool
  /-- Whether the field may be missing at the end of a record written as a list. -/
  mayLack : Bool
  keep : Source → Nat → Tree → Walk Content

/-- The fields of a record and how it is built from their contents. -/
structure Fields (α : Type) where
  fields : List Field
  build? : Dict Content → Option α

namespace Fields

variable {α β : Type}

/-- A record that is made by `make` from the fields that follow. -/
def make (f : α) : Fields α := ⟨[], fun _ => some f⟩

/-- Adds a field, whose value is `value?` of its content if it is there and `missing` if not. -/
def withField (r : Fields (α → β)) (field : Field) (value? : Content → Option α)
    (missing : Option α) : Fields β where
  fields := r.fields ++ [field]
  build? members := do
    let f ← r.build? members
    let a ← match members.lookup field.key with
      | some c => value? c
      | none => missing
    pure (f a)

/-- A field that has to be there. -/
def required (r : Fields (α → β)) (key : String) (s : Shape α) : Fields β :=
  r.withField ⟨key, true, false, s.keep⟩ s.value? none

/-- A field that may be left out. -/
def optional (r : Fields (Option α → β)) (key : String) (s : Shape α) : Fields β :=
  r.withField ⟨key, false, false, s.optional.keep⟩ s.optional.value? (some none)

/-- A field that has a default value. -/
def defaulted (r : Fields (α → β)) (key : String) (s : Shape α) (value : α) : Fields β :=
  r.withField ⟨key, false, true, s.keep⟩ s.value? (some value)

/-- The name of the field that a key of a kept mapping stands for: its text, or for a number the
name of the field in that place. -/
def keyName? (r : Fields α) : Content → Option (Option String)
  | .text s => some (some s)
  | .int n => if n < 0 then none else some ((r.fields[n.toNat]?).map Field.key)
  | _ => none

/-- The members of a kept mapping that are fields, provided that every key can be one. -/
def members? (r : Fields α) : List (Content × Content) → Option (Dict Content)
  | [] => some []
  | (key, value) :: rest => do
    let name ← r.keyName? key
    let others ← r.members? rest
    match name with
    | some k => if (r.fields.map Field.key).contains k then some ((k, value) :: others) else some others
    | none => some others

/-- The record written as a mapping: no field twice, and none missing. -/
def ofMap? (r : Fields α) : Content → Option α
  | .map entries => do
    let members ← r.members? entries
    if members.keys.Nodup then r.build? members else none
  | _ => none

/-- The record written as the list of its fields in order. -/
def ofList? (r : Fields α) : Content → Option α
  | .list items =>
    if items.length ≤ r.fields.length && (r.fields.drop items.length).all Field.mayLack then
      r.build? ((r.fields.map Field.key).zip items)
    else none
  | _ => none

/-- The record written in either way. -/
def value? (r : Fields α) (c : Content) : Option α := (r.ofMap? c).or (r.ofList? c)

/-- Keeps the members of a mapping that are fields; `seen` are the fields met before. -/
def keepMembers (fields : List Field) (src : Source) (depth : Nat) (seen : List String) :
    List (Tree × Tree) → Walk (List (Content × Content))
  | [] => pure []
  | (key, value) :: rest => do
    let name ← src.keepFieldName key
    match fields.find? (·.key = name) with
    | some field =>
      if seen.contains name then Walk.stop (.duplicateField name)
      let kept ← field.keep src depth value
      let others ← keepMembers fields src depth (name :: seen) rest
      pure ((.text name, kept) :: others)
    | none =>
      Walk.stopIf value.skip?
      keepMembers fields src depth seen rest

/-- The first field that has to be there and is not. -/
def firstMissing? (fields : List Field) (kept : List (Content × Content)) : Option Fault :=
  (fields.find? fun f => f.isRequired && !(kept.any fun (k, _) => k.text? = some f.key)).map
    fun f => .missingField f.key

/-- Keeps the items of a list as the fields in order; `index` is the place of the next field. -/
def keepPlaces (name : String) (count : Nat) (src : Source) (depth : Nat) (cut : Option Fault)
    (index : Nat) : List Field → List Tree → Walk (List (Content × Content))
  | [], [] => do
    Walk.stopIf cut
    pure []
  | [], _ :: _ => Walk.stop .malformed
  | field :: fields, item :: items => do
    let kept ← field.keep src depth item
    let others ← keepPlaces name count src depth cut (index + 1) fields items
    pure ((.text field.key, kept) :: others)
  | field :: fields, [] => do
    Walk.stopIf cut
    if !field.mayLack then Walk.stop (.wrongLength index name count)
    keepPlaces name count src depth cut (index + 1) fields []

end Fields

/-- A record with a name for messages. -/
def Shape.record {α : Type} (name : String) (r : Fields α) : Shape α where
  keep src depth tree := do
    let value ← src.settle tree
    match value, depth with
    | .dict members cut, depth + 1 =>
      let kept ← Fields.keepMembers r.fields src depth [] members
      Walk.stopIf cut
      Walk.stopIf (Fields.firstMissing? r.fields kept)
      pure (.map kept)
    | .list items cut, depth + 1 =>
      if src.format.positional then
        let kept ← Fields.keepPlaces name r.fields.length src depth cut 0 r.fields items
        pure (.map kept)
      else Walk.stop (src.mismatch ("struct " ++ name) value)
    | .scalar { isHollow := true, .. }, _ =>
      Walk.stopIf (Fields.firstMissing? r.fields [])
      pure (.map [])
    | .dict .., 0 | .list .., 0 => Walk.stop src.format.tooDeep
    | _, _ => Walk.stop (src.mismatch ("struct " ++ name) value)
  value? := r.ofMap?

/-- Reads a text that has become a tree as a value of a shape. -/
def Shape.read {α : Type} (s : Shape α) (src : Source) : Except Fault α := do
  let (kept, _) ← (s.keep src src.format.maxDepth src.root).run src.jumps
  match src.after, s.value? kept with
  | some f, _ => throw f
  | none, some value => pure value
  | none, none => throw .unreadable

end ActivityForge.Reading
