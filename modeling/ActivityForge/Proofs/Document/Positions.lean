import ActivityForge.Document.Basic
import ActivityForge.Proofs.Json.Kept

/-!
# Positions in a document

Which records a document is made of, and what stands in their fields: `Record.slots` lists the
fields of each in the order in which they are written in a list.  `Within q x x' p t t'` says that
`t`, read in the position `p`, has `x` in a position `q` somewhere, and that `t'` has `x'` there.
-/

namespace ActivityForge.Document

open Json (object textTree)
open Reading

/-- The records of a document. -/
inductive Record
  | document
  | info
  | components
  | pathItem
  | operation
  | parameter
  | requestBody
  | response
  | mediaType
  | schema
  | reference
deriving DecidableEq, Repr

/-- What stands in a place of a document. -/
inductive Position
  /-- A value without any parts that are named: a text, a flag, a list of texts, …. -/
  | plain
  | exampleValue
  | record (k : Record)
  /-- A reference, or else the record. -/
  | choice (k : Record)
  | list (item : Position)
  | map (value : Position)
deriving DecidableEq, Repr

/-- A field of a record. -/
structure Slot where
  key : String
  /-- Whether `null` stands for no value. -/
  isOptional : Bool
  position : Position
deriving DecidableEq, Repr

def Record.slots : Record → List Slot
  | document =>
    [⟨"openapi", false, .plain⟩, ⟨"info", false, .record info⟩,
      ⟨"paths", false, .map (.record pathItem)⟩, ⟨"components", true, .record components⟩]
  | info => [⟨"title", false, .plain⟩, ⟨"description", true, .plain⟩, ⟨"version", false, .plain⟩]
  | components =>
    [⟨"schemas", false, .map (.choice schema)⟩, ⟨"responses", false, .map (.choice response)⟩,
      ⟨"parameters", false, .map (.choice parameter)⟩,
      ⟨"requestBodies", false, .map (.choice requestBody)⟩]
  | pathItem =>
    [⟨"parameters", false, .list (.choice parameter)⟩, ⟨"get", true, .record operation⟩,
      ⟨"post", true, .record operation⟩, ⟨"put", true, .record operation⟩,
      ⟨"delete", true, .record operation⟩, ⟨"patch", true, .record operation⟩]
  | operation =>
    [⟨"operationId", true, .plain⟩, ⟨"summary", true, .plain⟩, ⟨"description", true, .plain⟩,
      ⟨"tags", false, .plain⟩, ⟨"parameters", false, .list (.choice parameter)⟩,
      ⟨"requestBody", true, .choice requestBody⟩, ⟨"responses", false, .map (.choice response)⟩,
      ⟨"deprecated", true, .plain⟩]
  | parameter =>
    [⟨"name", false, .plain⟩, ⟨"in", false, .plain⟩, ⟨"description", true, .plain⟩,
      ⟨"required", false, .plain⟩, ⟨"schema", true, .choice schema⟩]
  | requestBody =>
    [⟨"description", true, .plain⟩, ⟨"content", false, .map (.record mediaType)⟩,
      ⟨"required", false, .plain⟩]
  | response => [⟨"description", false, .plain⟩, ⟨"content", false, .map (.record mediaType)⟩]
  | mediaType => [⟨"schema", true, .choice schema⟩, ⟨"example", true, .exampleValue⟩]
  | schema =>
    [⟨"type", true, .plain⟩, ⟨"format", true, .plain⟩, ⟨"description", true, .plain⟩,
      ⟨"nullable", true, .plain⟩, ⟨"properties", false, .map (.choice schema)⟩,
      ⟨"required", false, .plain⟩, ⟨"additionalProperties", true, .choice schema⟩,
      ⟨"items", true, .choice schema⟩]
  | reference => [⟨"$ref", false, .plain⟩]

def Record.keys (k : Record) : List String := k.slots.map Slot.key

/-- The key under which a reference has its target. -/
def refKey : String := "$ref"

/-- An object is a reference if it has one target, which is a text; whatever else it has. -/
def IsReference (t : Tree) : Prop :=
  ∃ named target, t = object named ∧
    named.filter (·.1 = refKey) = [(refKey, textTree target)]

/-- In a tree that is read in some position, one part in the position `q` is replaced. -/
inductive Within (q : Position) (x x' : Tree) : Position → Tree → Tree → Prop
  | here : Within q x x' q x x'
  | member {k : Record} {s : Slot} {v v' : Tree} {before after : List (String × Tree)}
      (slot : s ∈ k.slots) (inner : Within q x x' s.position v v') :
      Within q x x' (.record k) (object (before ++ (s.key, v) :: after))
        (object (before ++ (s.key, v') :: after))
  /-- A record may be written as the list of its fields. -/
  | place {k : Record} {s : Slot} {v v' : Tree} {before after : List Tree}
      (slot : k.slots[before.length]? = some s) (inner : Within q x x' s.position v v') :
      Within q x x' (.record k) (.list (before ++ v :: after) none)
        (.list (before ++ v' :: after) none)
  | item {p : Position} {v v' : Tree} {before after : List Tree} (inner : Within q x x' p v v') :
      Within q x x' (.list p) (.list (before ++ v :: after) none)
        (.list (before ++ v' :: after) none)
  | entry {p : Position} {key : String} {v v' : Tree} {before after : List (String × Tree)}
      (inner : Within q x x' p v v') :
      Within q x x' (.map p) (object (before ++ (key, v) :: after))
        (object (before ++ (key, v') :: after))
  | reference {k : Record} {t t' : Tree} (is : IsReference t)
      (inner : Within q x x' (.record .reference) t t') : Within q x x' (.choice k) t t'
  | inline {k : Record} {t t' : Tree} (is : ¬ IsReference t)
      (inner : Within q x x' (.record k) t t') : Within q x x' (.choice k) t t'

end ActivityForge.Document
