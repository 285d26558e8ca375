import ActivityForge.Document.Basic

/-!
# References

A reference `#/components/<section>/<name>` points to a component.  `targetName` takes a
reference apart, `OrRef.resolve` follows a chain of references to an inline value, and
`Schema.check` looks at every reference inside a schema without following any.  A chain that
comes to the same reference twice is a cycle; any other chain ends, because every step uses up
one declared component (`follow`).
-/

namespace ActivityForge.Document

/-- The sections of components. -/
inductive Section
  | schemas
  | parameters
  | requestBodies
  | responses
deriving DecidableEq, Repr

namespace Section

def text : Section → String
  | schemas => "schemas"
  | parameters => "parameters"
  | requestBodies => "requestBodies"
  | responses => "responses"

/-- What every reference starts with. -/
def root : List Char := "#/components/".toList

def referenceChars (s : Section) (name : List Char) : List Char :=
  root ++ (s.text.toList ++ '/' :: name)

/-- The reference to a component of the section. -/
def reference (s : Section) (name : String) : String := String.ofList (s.referenceChars name.toList)

end Section

/-- Why a reference leads nowhere. -/
inductive ReferenceError
  /-- The reference does not name a component at all. -/
  | malformed (target : String)
  | wrongSection (expected : Section) (found target : String)
  | notFound (target : String)
  /-- Following references comes back to this one. -/
  | cycle (target : String)
deriving DecidableEq, Repr

namespace ReferenceError

def message : ReferenceError → String
  | malformed target => "invalid reference format: " ++ target
  | wrongSection expected found target =>
    "invalid reference format: expected section '" ++ expected.text ++ "', got '" ++ found
      ++ "' in " ++ target
  | notFound target => "reference target not found: " ++ target
  | cycle target => "reference target not found: " ++ target ++ " (reference cycle)"

/-- The reference that is to blame if the form is right and the component is missing. -/
def missing? : ReferenceError → Option String
  | notFound target => some target
  | cycle target => some (target ++ " (reference cycle)")
  | malformed _ | wrongSection .. => none

end ReferenceError

/-- The text behind `start`, if the text begins with it. -/
def dropStart? : List Char → List Char → Option (List Char)
  | [], cs => some cs
  | s :: start, c :: cs => if s = c then dropStart? start cs else none
  | _ :: _, [] => none

/-- The text before and behind the first `sep`. -/
def cutAt? (sep : Char) : List Char → Option (List Char × List Char)
  | [] => none
  | c :: cs => if c = sep then some ([], cs) else (cutAt? sep cs).map fun (a, b) => (c :: a, b)

theorem dropStart?_eq_some {start cs rest : List Char} (h : dropStart? start cs = some rest) :
    cs = start ++ rest := by
  induction start generalizing cs with
  | nil => simpa [dropStart?] using h
  | cons s start ih =>
    cases cs with
    | nil => simp [dropStart?] at h
    | cons c cs =>
      simp only [dropStart?] at h
      split at h
      · next hs => simp [hs, ih h]
      · simp at h

theorem cutAt?_eq_some {sep : Char} {cs a b : List Char} (h : cutAt? sep cs = some (a, b)) :
    cs = a ++ sep :: b := by
  induction cs generalizing a with
  | nil => simp [cutAt?] at h
  | cons c cs ih =>
    simp only [cutAt?] at h
    split at h
    · next hc =>
      obtain ⟨rfl, rfl⟩ := Prod.mk.inj (Option.some.inj h)
      simp [hc]
    · obtain ⟨⟨a', b'⟩, hab, he⟩ := Option.map_eq_some_iff.1 h
      obtain ⟨rfl, rfl⟩ := Prod.mk.inj he
      simp [ih hab]

/-- The name that a reference gives to a component of the section. -/
def targetName (s : Section) (target : String) : Except ReferenceError String :=
  match (dropStart? Section.root target.toList).bind (cutAt? '/') with
  | none => .error (.malformed target)
  | some (found, name) =>
    if String.ofList found = s.text then .ok (String.ofList name)
    else .error (.wrongSection s (String.ofList found) target)

/-- Only the reference to a component has its name. -/
theorem eq_reference_of_targetName {s : Section} {target name : String}
    (h : targetName s target = .ok name) : target = s.reference name := by
  simp only [targetName] at h
  split at h
  · simp at h
  · next found rest he =>
    split at h
    · next hs =>
      obtain ⟨mid, hmid, hcut⟩ := Option.bind_eq_some_iff.1 he
      have hname : name = String.ofList rest := (Except.ok.inj h).symm
      have hchars : target.toList = s.referenceChars rest := by
        rw [dropStart?_eq_some hmid, cutAt?_eq_some hcut, Section.referenceChars, ← hs]
        simp
      rw [Section.reference, hname, String.toList_ofList, ← hchars, String.ofList_toList]
    · simp at h

/-! ## Chains of references -/

/-- The declared components whose references have not been seen. -/
def unseen {α : Type} (s : Section) (defs : Dict α) (seen : List String) : List String :=
  defs.keys.filter fun name => !seen.contains (s.reference name)

theorem mem_keys_of_get?_eq_some {α : Type} {d : Dict α} {key : String} {a : α}
    (h : d.get? key = some a) : key ∈ d.keys := by
  induction d with
  | nil => simp [Dict.get?] at h
  | cons p rest ih =>
    obtain ⟨k, v⟩ := p
    simp only [Dict.get?, List.lookup_cons] at h
    split at h
    · next hk => simp [Dict.keys, eq_of_beq hk]
    · exact List.mem_cons_of_mem _ (ih h)

theorem length_unseen_lt {α : Type} {s : Section} {defs : Dict α} {seen : List String}
    {target name : String} {a : α} (hs : seen.contains target = false)
    (ht : targetName s target = .ok name) (hd : defs.get? name = some a) :
    (unseen s defs (target :: seen)).length < (unseen s defs seen).length := by
  have htarget := eq_reference_of_targetName ht
  have hsub : unseen s defs (target :: seen) =
      (unseen s defs seen).filter fun n => !(s.reference n == target) := by
    simp only [unseen, List.filter_filter]
    refine List.filter_congr fun n _ => ?_
    simp only [List.contains_cons, Bool.not_or]
  rw [hsub]
  refine List.length_filter_lt_length_iff_exists.2 ⟨name, ?_, by simp [htarget]⟩
  simp only [unseen, List.mem_filter]
  exact ⟨mem_keys_of_get?_eq_some hd, by rw [← htarget, hs]; rfl⟩

/-- Follows references through the components of a section; `seen` are the references that have
been followed. -/
def follow {α : Type} (s : Section) (defs : Dict (OrRef α)) (seen : List String) :
    OrRef α → Except ReferenceError α
  | .inline a => .ok a
  | .ref target =>
    if _hs : seen.contains target then .error (.cycle target)
    else
      match _ht : targetName s target with
      | .error e => .error e
      | .ok name =>
        match _hd : defs.get? name with
        | none => .error (.notFound target)
        | some next => follow s defs (target :: seen) next
termination_by (unseen s defs seen).length
decreasing_by exact length_unseen_lt (by simpa using _hs) _ht _hd

/-- The inline value that a value or reference leads to. -/
def OrRef.resolve {α : Type} (s : Section) (defs : Dict (OrRef α)) (v : OrRef α) :
    Except ReferenceError α :=
  follow s defs [] v

/-- The components of a section of a document, none if it has no components. -/
def componentsOf {α : Type} (d : Document) (section? : Components → Dict α) : Dict α :=
  match d.components with
  | some c => section? c
  | none => []

def resolveParameter (d : Document) (p : OrRef Parameter) : Except ReferenceError Parameter :=
  p.resolve .parameters (componentsOf d Components.parameters)

def resolveRequestBody (d : Document) (b : OrRef RequestBody) :
    Except ReferenceError RequestBody :=
  b.resolve .requestBodies (componentsOf d Components.requestBodies)

def resolveResponse (d : Document) (r : OrRef Response) : Except ReferenceError Response :=
  r.resolve .responses (componentsOf d Components.responses)

/-! ## References inside schemas -/

/-- A reference has to name a declared schema. -/
def checkTarget (declared : String → Bool) (target : String) : Except ReferenceError Unit := do
  let name ← targetName .schemas target
  if declared name then .ok () else .error (.notFound target)

mutual

/-- Checks the references inside a schema: those of its properties, then those of its items, then
those of its further values. -/
def Schema.check (declared : String → Bool) : Schema → Except ReferenceError Unit
  | .ref target => checkTarget declared target
  | .inline { properties, additional, items, .. } => do
    checkProperties declared properties
    checkItems declared items
    checkAdditional declared additional

def checkProperties (declared : String → Bool) :
    List (String × Schema) → Except ReferenceError Unit
  | [] => .ok ()
  | (_, schema) :: rest => do
    schema.check declared
    checkProperties declared rest

def checkItems (declared : String → Bool) : Option Schema → Except ReferenceError Unit
  | none => .ok ()
  | some schema => schema.check declared

def checkAdditional (declared : String → Bool) :
    Option (Additional Schema) → Except ReferenceError Unit
  | some (.values schema) => schema.check declared
  | some (.allowed _) | none => .ok ()

end

/-- Checks the references inside a schema against the schemas of a document. -/
def checkSchema (d : Document) (schema : Schema) : Except ReferenceError Unit :=
  schema.check d.schemas.contains

end ActivityForge.Document
