import ActivityForge.Proofs.Blueprint.Checks
import ActivityForge.Proofs.Traversal

/-!
# Strict and lenient resolving

A document resolved leniently takes the same steps as the document resolved strictly, up to the
first warning about a missing schema.  `Parallel` relates two such runs: either they are equal and
nothing is warned about, or the strict run stops where the lenient one warns and goes on.  Runs that
are put together from parallel runs are parallel (`Parallel.bind`, `Parallel.mapM`), so that it
holds of whole documents, and strict resolving gives a blueprint exactly if lenient resolving gives
it without such a warning (`lenient_differs_by_warning`).
-/

namespace ActivityForge.Blueprint

open Document (MediaType Method OrRef ReferenceError Schema SchemaBody)
open Logged (note)

/-! ## Warnings about missing schemas -/

/-- The warning about a reference to a missing schema. -/
def danglingEntry (target : String) : Log.Entry :=
  ⟨.warn, "dangling schema reference " ++ target ++ ", emitting it by name"⟩

/-- Nothing is said about missing schemas. -/
def Quiet (log : Log) : Prop := ∀ target, danglingEntry target ∉ log

theorem quiet_nil : Quiet [] := fun _ => List.not_mem_nil

theorem quiet_append {l l' : Log} (h : Quiet l) (h' : Quiet l') : Quiet (l ++ l') :=
  fun target hmem => (List.mem_append.1 hmem).elim (h target) (h' target)

theorem quiet_debug (text : String) : Quiet (debug text) := by
  intro target hmem
  have hlevel := congrArg Log.Entry.level (List.mem_singleton.1 hmem)
  cases hlevel

/-- The warning about a renamed activity is another one: it begins with other letters. -/
theorem quiet_renameNote (a : Activity) (name : Name) : Quiet (Activity.renameNote a name) := by
  intro target hmem
  have htext := congrArg (fun e : Log.Entry => e.text.toList) (List.mem_singleton.1 hmem)
  simp only [danglingEntry, String.toList_append, List.append_assoc] at htext
  cases htext

theorem quiet_settleNotes (taken : List String) (l : List Activity) :
    Quiet (Activity.settleNotes taken l) := by
  induction l generalizing taken with
  | nil => exact quiet_nil
  | cons a rest ih =>
    refine quiet_append ?_ (ih _)
    split
    · exact quiet_renameNote _ _
    · exact quiet_nil

theorem quiet_plainNotes {σ : Type} (body : SchemaBody σ) : Quiet (Document.plainNotes body) := by
  unfold Document.plainNotes
  split
  · exact quiet_debug _
  · split
    · exact quiet_nil
    · exact quiet_debug _

mutual

theorem quiet_schemaNotes : ∀ schema : Schema, Quiet (Document.schemaNotes schema)
  | .ref _ => quiet_nil
  | .inline ⟨type?, format, description, allowsNull, properties, required, additional, items⟩ => by
    simp only [Document.schemaNotes]
    split
    · exact quiet_optionalNotes items
    · cases h : Document.additionalNotes? properties.isEmpty additional with
      | none => exact quiet_plainNotes _
      | some notes => exact quiet_additionalNotes additional h

theorem quiet_optionalNotes : ∀ schema : Option Schema, Quiet (Document.optionalNotes schema)
  | none => quiet_nil
  | some schema => quiet_schemaNotes schema

theorem quiet_additionalNotes {noProperties : Bool} {notes : Log} :
    ∀ additional : Option (Document.Additional Schema),
      Document.additionalNotes? noProperties additional = some notes → Quiet notes
  | none, h => by cases h
  | some (.allowed b), h => by
    simp only [Document.additionalNotes?] at h
    split at h
    · obtain rfl := Option.some.inj h
      exact quiet_nil
    · cases h
  | some (.values schema), h => by
    obtain rfl := Option.some.inj h
    exact quiet_schemaNotes schema

end

/-! ## Parallel runs -/

variable {α β : Type}

/-- A strict and a lenient run of one computation: they are the same and warn about no missing
schema, or the strict run stops at a missing schema where the lenient run goes on with a
warning. -/
inductive Parallel (strict lenient : Resolving α) : Prop
  | same (eq : lenient = strict) (quiet : Quiet strict.log)
  | parted {target : String} {rest : Log} (stop : strict.result = .error (.notFound target))
      (quiet : Quiet strict.log) (warned : lenient.log = strict.log ++ danglingEntry target :: rest)

namespace Parallel

theorem refl {x : Resolving α} (quiet : Quiet x.log) : Parallel x x := .same rfl quiet

theorem pure (a : α) : Parallel (Pure.pure a) (Pure.pure a) := refl quiet_nil

theorem note {log : Log} (h : Quiet log) : Parallel (Logged.note log) (Logged.note log) := refl h

theorem ofExcept (r : Except ReferenceError α) :
    Parallel (Logged.ofExcept r) (Logged.ofExcept r) := refl quiet_nil

/-- Runs that go on in parallel after parallel runs. -/
theorem bind {x y : Resolving α} {f g : α → Resolving β} (h : Parallel x y)
    (hf : ∀ a, Parallel (f a) (g a)) : Parallel (x >>= f) (y >>= g) := by
  cases h with
  | same eq quiet =>
    subst eq
    obtain ⟨log, result⟩ := y
    cases result with
    | error e => exact refl quiet
    | ok a =>
      cases hf a with
      | same eq' quiet' =>
        refine .same ?_ (quiet_append quiet quiet')
        simp only [Bind.bind, eq']
      | @parted target rest stop quiet' warned =>
        have hlog : log ++ (g a).log = (log ++ (f a).log) ++ danglingEntry target :: rest := by
          rw [warned, List.append_assoc]
        exact .parted stop (quiet_append quiet quiet') hlog
  | @parted target rest stop quiet warned =>
    -- the strict run is over; whatever the lenient one does, its log begins with the warning
    have hx : x >>= f = ⟨x.log, .error (.notFound target)⟩ := by simp only [Bind.bind, stop]
    rw [hx]
    cases hy : y.result with
    | error e =>
      refine .parted rfl quiet (?_ : _ = x.log ++ danglingEntry target :: rest)
      rw [Logged.log_bind, hy, warned]
    | ok a =>
      refine .parted rfl quiet (?_ : _ = x.log ++ danglingEntry target :: (rest ++ (g a).log))
      rw [Logged.log_bind, hy, warned]
      simp

theorem mapM {f g : α → Resolving β} (h : ∀ a, Parallel (f a) (g a)) (l : List α) :
    Parallel (l.mapM f) (l.mapM g) := by
  induction l with
  | nil => exact pure []
  | cons a l ih =>
    rw [List.mapM_cons, List.mapM_cons]
    exact (h a).bind fun _ => ih.bind fun _ => pure _

end Parallel

/-! ## The steps of resolving a document -/

section

variable (d : Document) (scope : String)

/-- In strict and in lenient mode the references of a schema are looked at in the same way; of the
errors only that of a missing schema becomes a warning. -/
theorem parallel_checkRefs (schema : Schema) :
    Parallel (checkRefs d ⟨scope, true⟩ schema) (checkRefs d ⟨scope, false⟩ schema) := by
  cases h : Document.checkSchema d schema with
  | ok =>
    rw [checkRefs, checkRefs, h]
    exact .pure ()
  | error e =>
    rw [checkRefs, checkRefs, h]
    cases e with
    | notFound target => exact .parted rfl quiet_nil rfl
    | cycle target => exact absurd h Document.checkSchema_ne_cycle
    | malformed target => exact .ofExcept _
    | wrongSection expected found target => exact .ofExcept _

theorem parallel_checkOptionalRefs (schema : Option Schema) :
    Parallel (checkOptionalRefs d ⟨scope, true⟩ schema)
      (checkOptionalRefs d ⟨scope, false⟩ schema) := by
  cases schema with
  | none => exact .pure ()
  | some schema => exact parallel_checkRefs d scope schema

theorem parallel_typeOf (schema : Option Schema) :
    Parallel (typeOf ⟨scope, true⟩ schema) (typeOf ⟨scope, false⟩ schema) :=
  (Parallel.note (quiet_optionalNotes schema)).bind fun _ => .pure _

theorem parallel_modelOf (key : String) (schema : Schema) :
    Parallel (modelOf ⟨scope, true⟩ key schema) (modelOf ⟨scope, false⟩ key schema) := by
  cases schema with
  | ref target => exact .pure _
  | inline body =>
    refine Parallel.bind (Parallel.mapM (fun property => ?_) _) fun _ => .pure _
    exact (parallel_typeOf scope (some property.2)).bind fun _ => .pure _

theorem parallel_resolveModel (component : String × Schema) :
    Parallel (resolveModel d ⟨scope, true⟩ component) (resolveModel d ⟨scope, false⟩ component) :=
  (parallel_checkRefs d scope component.2).bind fun _ =>
    (parallel_modelOf scope component.1 component.2).bind fun _ =>
      (Parallel.note (quiet_debug _)).bind fun _ => .pure _

theorem parallel_resolveParameter (p : OrRef Document.Parameter) :
    Parallel (resolveParameter d ⟨scope, true⟩ p) (resolveParameter d ⟨scope, false⟩ p) :=
  (Parallel.ofExcept _).bind fun parameter =>
    (parallel_checkOptionalRefs d scope parameter.schema).bind fun _ =>
      (parallel_typeOf scope parameter.schema).bind fun _ => .pure _

theorem parallel_resolvePayload (entry : String × MediaType) :
    Parallel (resolvePayload d ⟨scope, true⟩ entry) (resolvePayload d ⟨scope, false⟩ entry) :=
  (parallel_checkOptionalRefs d scope entry.2.schema).bind fun _ =>
    (parallel_typeOf scope entry.2.schema).bind fun _ => .pure _

theorem parallel_resolveBody (b : OrRef Document.RequestBody) :
    Parallel (resolveBody d ⟨scope, true⟩ b) (resolveBody d ⟨scope, false⟩ b) :=
  (Parallel.ofExcept _).bind fun body =>
    (Parallel.mapM (parallel_resolvePayload d scope) body.content).bind fun _ => .pure _

theorem parallel_resolveResponse (op : Document.Operation) :
    Parallel (resolveResponse d ⟨scope, true⟩ op) (resolveResponse d ⟨scope, false⟩ op) := by
  rw [resolveResponse, resolveResponse]
  cases selectResponse? op with
  | none => exact .pure _
  | some entry =>
    exact (Parallel.ofExcept _).bind fun response =>
      (Parallel.mapM (parallel_resolvePayload d scope) response.content).bind fun _ => .pure _

theorem parallel_finished (op : Document.Operation) (build : Activity.Response → Activity) :
    Parallel
      (resolveResponse d ⟨scope, true⟩ op >>= fun response =>
        note (activityNote (build response)) >>= fun _ => pure (build response))
      (resolveResponse d ⟨scope, false⟩ op >>= fun response =>
        note (activityNote (build response)) >>= fun _ => pure (build response)) :=
  (parallel_resolveResponse d scope op).bind fun _ =>
    (Parallel.note (quiet_debug _)).bind fun _ => .pure _

theorem parallel_resolveActivity (path : String) (ofPath : List Activity.Parameter)
    (entry : Method × Document.Operation) :
    Parallel (resolveActivity d ⟨scope, true⟩ path ofPath entry)
      (resolveActivity d ⟨scope, false⟩ path ofPath entry) := by
  obtain ⟨method, op⟩ := entry
  refine Parallel.bind (Parallel.mapM (parallel_resolveParameter d scope) _) fun own => ?_
  cases op.requestBody with
  | none => exact (Parallel.pure none).bind fun _ => parallel_finished d scope op _
  | some b =>
    exact (parallel_resolveBody d scope b).bind fun body =>
      (Parallel.pure (some body)).bind fun _ => parallel_finished d scope op _

theorem parallel_resolvePath (entry : String × Document.PathItem) :
    Parallel (resolvePath d ⟨scope, true⟩ entry) (resolvePath d ⟨scope, false⟩ entry) :=
  (Parallel.mapM (parallel_resolveParameter d scope) entry.2.parameters).bind fun ofPath =>
    Parallel.mapM (parallel_resolveActivity d scope entry.1 ofPath) entry.2.operations

theorem parallel_ofDocument :
    Parallel (ofDocument d ⟨scope, true⟩) (ofDocument d ⟨scope, false⟩) := by
  refine Parallel.bind (Parallel.mapM (parallel_resolveModel d scope) d.schemas) fun models => ?_
  refine Parallel.bind ?_ fun activities =>
    (Parallel.note (quiet_settleNotes [] activities)).bind fun _ => .pure _
  exact (Parallel.mapM (parallel_resolvePath d scope) d.paths).bind fun _ => .pure _

end

/-! ## Strict and lenient outcomes -/

theorem Parallel.result_eq_ok_iff {x y : Resolving α} (h : Parallel x y) (a : α) :
    x.result = .ok a ↔ y.result = .ok a ∧ Quiet y.log := by
  cases h with
  | same eq quiet => simp [eq, quiet]
  | @parted target rest stop quiet warned =>
    have hmem : danglingEntry target ∈ y.log := by simp [warned]
    simp only [stop, reduceCtorEq, false_iff, not_and]
    exact fun _ hquiet => hquiet target hmem

/-- Strict resolving gives a blueprint exactly if lenient resolving gives the same one and warns
about no missing schema.  Either the two runs are the same, log and errors included, or the strict
run stops with the first missing schema that the lenient run warns about. -/
theorem lenient_differs_by_warning (d : Document) (scope : String) :
    (∀ b, (ofDocument d ⟨scope, true⟩).result = .ok b ↔
      (ofDocument d ⟨scope, false⟩).result = .ok b ∧
        ∀ target, danglingEntry target ∉ (ofDocument d ⟨scope, false⟩).log) ∧
    (ofDocument d ⟨scope, false⟩ = ofDocument d ⟨scope, true⟩ ∨
      ∃ before target after,
        ofDocument d ⟨scope, true⟩ = ⟨before, .error (.notFound target)⟩ ∧
          (ofDocument d ⟨scope, false⟩).log = before ++ danglingEntry target :: after ∧
          ∀ other, danglingEntry other ∉ before) := by
  have h := parallel_ofDocument d scope
  refine ⟨h.result_eq_ok_iff, ?_⟩
  cases h with
  | same eq quiet => exact Or.inl eq
  | parted stop quiet warned => exact Or.inr ⟨_, _, _, by rw [← stop], warned, quiet⟩

end ActivityForge.Blueprint
