import ActivityForge.Proofs.Blueprint.Outcome

/-!
# Documents that lenient resolving accepts

In lenient mode the references inside a schema are looked at up to the first that is not that of a
declared component schema (`FirstFault`).  If it is malformed, resolving fails; if its schema is
merely missing, this is noted and the rest of the schema is not looked at.  So lenient resolving
accepts exactly the documents whose checks are `Tolerated` and fails with the first malformed
reference that is looked at (`malformed_rejected_unless_hidden`), but a malformed reference behind a
dangling one goes unseen (`dangling_reference_hides_malformed`).
-/

namespace ActivityForge

namespace Document

/-! ## References that are not declared -/

/-- The reference has not the form of one to a component schema. -/
def Malformed (target : String) : Prop := ∀ name, target ≠ Section.schemas.reference name

/-- The reference has the right form, but its schema is missing. -/
def Dangles (d : Document) (target : String) : Prop :=
  ∃ name, target = Section.schemas.reference name ∧ name ∉ d.schemas.keys

variable {d : Document}

theorem not_declares_iff {target : String} :
    ¬ d.Declares target ↔ Malformed target ∨ d.Dangles target := by
  constructor
  · intro h
    refine or_iff_not_imp_left.2 fun hform => ?_
    obtain ⟨name, hname⟩ := not_forall_not.1 hform
    exact ⟨name, hname, fun hmem => h ⟨name, hmem, hname⟩⟩
  · rintro (hform | ⟨name, rfl, missing⟩) ⟨other, hmem, heq⟩
    · exact hform other heq
    · exact missing (Section.schemas.reference_injective heq ▸ hmem)

/-- The error of a reference that is not declared tells whether it is malformed. -/
theorem Faulty.missing?_eq_none_iff {declared : List String} {target : String}
    {e : ReferenceError} (h : Faulty .schemas declared target e) :
    e.missing? = none ↔ Malformed target :=
  h.missing?_eq_none_iff_forall

/-- The first reference inside a schema that is not declared, in the order in which they are looked
at. -/
def FirstFault (d : Document) (schema : Schema) (target : String) : Prop :=
  ∃ before after, schema.references = before ++ target :: after ∧ (∀ t ∈ before, d.Declares t) ∧
    ¬ d.Declares target

theorem checkSchema_eq_error_iff {schema : Schema} {e : ReferenceError} :
    checkSchema d schema = .error e ↔
      ∃ target, d.FirstFault schema target ∧ Faulty .schemas d.schemas.keys target e := by
  simp only [checkSchema, Schema.check_eq, forM_eq_error_iff, checkTarget_eq_ok_iff,
    checkTarget_eq_error_iff]
  constructor
  · rintro ⟨before, target, after, order, declared, fault⟩
    refine ⟨target, ⟨before, after, order, declared, ?_⟩, fault⟩
    rintro ⟨name, hname, rfl⟩
    exact not_faulty_reference hname fault
  · rintro ⟨target, ⟨before, after, order, declared, -⟩, fault⟩
    exact ⟨before, target, after, order, declared, fault⟩

/-! ## What lenient resolving tolerates -/

/-- All references inside the schema are declared, or the first that is not only dangles. -/
def Tolerable (d : Document) (schema : Schema) : Prop :=
  d.Sound schema ∨ ∃ target, d.FirstFault schema target ∧ d.Dangles target

/-- The errors that are not tolerated are those of malformed references. -/
theorem tolerable_iff {schema : Schema} :
    d.Tolerable schema ↔ ∀ e, checkSchema d schema = .error e → e.missing? ≠ none := by
  constructor
  · rintro (hsound | ⟨_, first, name, rfl, missing⟩) e he
    · rw [checkSchema_eq_ok_iff.2 hsound] at he
      cases he
    · have hdangles := checkSchema_eq_error_iff.2 ⟨_, first, .notFound rfl missing⟩
      obtain rfl := Except.error.inj (hdangles.symm.trans he)
      exact Option.some_ne_none _
  · intro h
    cases hcheck : checkSchema d schema with
    | ok => exact Or.inl (checkSchema_eq_ok_iff.1 hcheck)
    | error e =>
      obtain ⟨target, first, fault⟩ := checkSchema_eq_error_iff.1 hcheck
      obtain ⟨_, _, -, -, undeclared⟩ := id first
      refine Or.inr ⟨target, first, (not_declares_iff.1 undeclared).resolve_left fun malformed => ?_⟩
      exact h e hcheck (fault.missing?_eq_none_iff.2 malformed)

/-- A schema without dangling references is tolerated only if no reference is malformed, wherever
it stands. -/
theorem not_tolerable_of_mentions {schema : Schema} {target : String}
    (h : schema.Mentions target) (malformed : Malformed target)
    (plain : ∀ other, schema.Mentions other → ¬ d.Dangles other) : ¬ d.Tolerable schema := by
  rintro (hsound | ⟨first, ⟨before, after, order, -, -⟩, dangles⟩)
  · exact not_declares_iff.2 (Or.inl malformed) (hsound target h)
  · exact plain first (Schema.mem_references_iff.1 (by simp [order])) dangles

namespace Check

/-- The chain leads to an inline value, and all its schemas are tolerated. -/
def Tolerated (d : Document) (c : Check) : Prop :=
  ∃ schemas, c.Ends d (.ok schemas) ∧ ∀ schema ∈ schemas, d.Tolerable schema

/-- The error of a check in lenient mode: that of its chain, or that of the first malformed
reference that is looked at inside its schemas. -/
inductive FailsLeniently (d : Document) (c : Check) (e : ReferenceError) : Prop
  | chain (h : c.Ends d (.error e))
  | reference {before after : List Schema} {schema : Schema} {target : String}
      (h : c.Ends d (.ok (before ++ schema :: after))) (tolerable : ∀ s ∈ before, d.Tolerable s)
      (first : d.FirstFault schema target) (malformed : Malformed target)
      (fault : Faulty .schemas d.schemas.keys target e)

end Check

/-- A check of the document comes to look into the schema. -/
def LooksInto (d : Document) (schema : Schema) : Prop :=
  ∃ c ∈ d.checks, ∃ schemas, c.Ends d (.ok schemas) ∧ schema ∈ schemas

theorem tolerable_of_tolerated {schema : Schema} (h : ∀ c ∈ d.checks, c.Tolerated d)
    (hs : d.LooksInto schema) : d.Tolerable schema := by
  obtain ⟨c, hc, schemas, hends, hmem⟩ := hs
  obtain ⟨schemas', hends', htolerable⟩ := h c hc
  rw [← Check.opened_eq_iff] at hends hends'
  obtain rfl : schemas = schemas' := Except.ok.inj (hends.symm.trans hends')
  exact htolerable schema hmem

end Document

/-! ## Lenient resolving performs the checks -/

namespace Blueprint

open Document (Check Malformed ReferenceError Schema Section checkSchema)

variable {d : Document} {scope : String}

/-- In lenient mode an error that blames a missing schema does not count. -/
theorem result_checkRefs_lenient_eq_error (schema : Schema) (e : ReferenceError) :
    (checkRefs d ⟨scope, false⟩ schema).result = .error e ↔
      checkSchema d schema = .error e ∧ e.missing? = none := by
  unfold checkRefs
  cases checkSchema d schema with
  | ok => simp
  | error e' =>
    cases hmissing : e'.missing? with
    | none =>
      have hsame (h : e' = e) : e.missing? = none := h ▸ hmissing
      simpa [hmissing] using hsame
    | some target =>
      have hother (h : e' = e) : e.missing? ≠ none := by simp [← h, hmissing]
      simpa [hmissing] using hother

theorem result_checkRefs_lenient_eq_ok_iff {schema : Schema} :
    (checkRefs d ⟨scope, false⟩ schema).result = .ok () ↔ d.Tolerable schema := by
  rw [Document.tolerable_iff]
  cases h : (checkRefs d ⟨scope, false⟩ schema).result with
  | ok =>
    refine iff_of_true rfl fun e he hmissing => ?_
    rw [(result_checkRefs_lenient_eq_error schema e).2 ⟨he, hmissing⟩] at h
    cases h
  | error e =>
    obtain ⟨he, hmissing⟩ := (result_checkRefs_lenient_eq_error schema e).1 h
    exact iff_of_false (by simp) fun hall => hall e he hmissing

theorem result_checkRefs_lenient_eq_error_iff {schema : Schema} {e : ReferenceError} :
    (checkRefs d ⟨scope, false⟩ schema).result = .error e ↔
      ∃ target, d.FirstFault schema target ∧ Malformed target ∧
        Document.Faulty .schemas d.schemas.keys target e := by
  rw [result_checkRefs_lenient_eq_error, Document.checkSchema_eq_error_iff]
  constructor
  · rintro ⟨⟨target, first, fault⟩, hmissing⟩
    exact ⟨target, first, fault.missing?_eq_none_iff.1 hmissing, fault⟩
  · rintro ⟨target, first, malformed, fault⟩
    exact ⟨⟨target, first, fault⟩, fault.missing?_eq_none_iff.2 malformed⟩

theorem runCheck_lenient_eq_ok_iff {c : Check} :
    runCheck d ⟨scope, false⟩ c = .ok () ↔ c.Tolerated d := by
  simp only [runCheck, bind_eq_ok_iff, Check.opened_eq_iff, forM_eq_ok_iff,
    result_checkRefs_lenient_eq_ok_iff, Check.Tolerated]

theorem runCheck_lenient_eq_error_iff {c : Check} {e : ReferenceError} :
    runCheck d ⟨scope, false⟩ c = .error e ↔ c.FailsLeniently d e := by
  simp only [runCheck, bind_eq_error_iff, Check.opened_eq_iff, forM_eq_error_iff,
    result_checkRefs_lenient_eq_ok_iff, result_checkRefs_lenient_eq_error_iff]
  constructor
  · rintro (h | ⟨_, h, before, schema, after, rfl, tolerable, target, first, malformed, fault⟩)
    · exact .chain h
    · exact .reference h tolerable first malformed fault
  · rintro (h | ⟨h, tolerable, first, malformed, fault⟩)
    · exact Or.inl h
    · exact Or.inr ⟨_, h, _, _, _, rfl, tolerable, _, first, malformed, fault⟩

theorem exists_ofDocument_lenient_iff :
    (∃ b, (ofDocument d ⟨scope, false⟩).result = .ok b) ↔ ∀ c ∈ d.checks, c.Tolerated d := by
  rw [← outcome_eq_ok_iff, outcome_ofDocument_runCheck, forM_eq_ok_iff]
  simp only [runCheck_lenient_eq_ok_iff]

/-- Lenient resolving gives a blueprint exactly if all checks are tolerated, and otherwise the error
of the first that is not: of its chain, or of a malformed reference.  Inside a schema without
dangling references every malformed one is rejected, in whatever order they stand. -/
theorem malformed_rejected_unless_hidden (d : Document) (scope : String) :
    ((∃ b, (ofDocument d ⟨scope, false⟩).result = .ok b) ↔ ∀ c ∈ d.checks, c.Tolerated d) ∧
      (∀ e, (ofDocument d ⟨scope, false⟩).result = .error e ↔
        ∃ before c after, d.checks = before ++ c :: after ∧ (∀ c ∈ before, c.Tolerated d) ∧
          c.FailsLeniently d e) ∧
      ∀ schema target, d.LooksInto schema → schema.Mentions target → Malformed target →
        (∀ other, schema.Mentions other → ¬ d.Dangles other) →
          ∃ e, (ofDocument d ⟨scope, false⟩).result = .error e := by
  refine ⟨exists_ofDocument_lenient_iff, fun e => ?_, ?_⟩
  · rw [← outcome_eq_error_iff, outcome_ofDocument_runCheck, forM_eq_error_iff]
    simp only [runCheck_lenient_eq_ok_iff, runCheck_lenient_eq_error_iff]
  · intro schema target hs ht malformed plain
    cases h : (ofDocument d ⟨scope, false⟩).result with
    | error e => exact ⟨e, rfl⟩
    | ok b =>
      have htolerated := exists_ofDocument_lenient_iff.1 ⟨b, h⟩
      exact absurd (Document.tolerable_of_tolerated htolerated hs)
        (Document.not_tolerable_of_mentions ht malformed plain)

/-! ## Malformed references beside others -/

/-- An object with two properties that are described by references. -/
def pairSchema (first second : String) : Schema :=
  .inline ⟨some (.single "object"), none, none, none,
    [("first", .ref first), ("second", .ref second)], [], none, none⟩

/-- A document with one component schema, of two properties. -/
def pairDocument (first second : String) : Document where
  format := "3.0.3"
  info := ⟨"Pets", none, "1"⟩
  paths := []
  components := some {
    schemas := [("Pet", pairSchema first second)]
    responses := []
    parameters := []
    requestBodies := [] }

/-- A reference into another file. -/
def elsewhere : String := "other.yaml#/Pet"

theorem malformed_elsewhere : Malformed elsewhere := by
  rintro name h
  have htarget := Document.targetName_reference .schemas name
  rw [← h] at htarget
  cases htarget

theorem looksInto_pairDocument (first second : String) :
    (pairDocument first second).LooksInto (pairSchema first second) :=
  ⟨.schema (pairSchema first second), List.mem_cons_self, _, .schema _, List.mem_cons_self⟩

theorem mentions_pairSchema_iff {first second target : String} :
    (pairSchema first second).Mentions target ↔ target = first ∨ target = second := by
  rw [← Schema.mem_references_iff]
  show target ∈ [first, second] ↔ _
  simp

/-- A malformed reference beside a declared one is rejected. -/
theorem malformed_beside_declared : ∃ e,
    (ofDocument (pairDocument (Section.schemas.reference "Pet") elsewhere)
      ⟨"models", false⟩).result = .error e := by
  obtain ⟨-, -, rejected⟩ := malformed_rejected_unless_hidden
    (pairDocument (Section.schemas.reference "Pet") elsewhere) "models"
  refine rejected _ elsewhere (looksInto_pairDocument _ _)
    (mentions_pairSchema_iff.2 (Or.inr rfl)) malformed_elsewhere fun other hother => ?_
  rintro ⟨name, rfl, missing⟩
  obtain h | h := mentions_pairSchema_iff.1 hother
  · obtain rfl := Section.schemas.reference_injective h
    exact missing List.mem_cons_self
  · exact malformed_elsewhere name h.symm

/-- Behind a dangling reference a malformed one goes unseen, before it it is rejected. -/
theorem dangling_reference_hides_malformed :
    (Malformed elsewhere ∧
      (pairDocument (Section.schemas.reference "Missing") elsewhere).LooksInto
        (pairSchema (Section.schemas.reference "Missing") elsewhere) ∧
      (pairSchema (Section.schemas.reference "Missing") elsewhere).Mentions elsewhere ∧
      ∃ b, (ofDocument (pairDocument (Section.schemas.reference "Missing") elsewhere)
        ⟨"models", false⟩).result = .ok b) ∧
    ∃ e, (ofDocument (pairDocument elsewhere (Section.schemas.reference "Missing"))
      ⟨"models", false⟩).result = .error e := by
  refine ⟨⟨malformed_elsewhere, looksInto_pairDocument _ _,
    mentions_pairSchema_iff.2 (Or.inr rfl), ?_⟩, .malformed elsewhere, ?_⟩
  · rw [← outcome_eq_ok_iff, outcome_ofDocument_runCheck]
    rfl
  · rw [← outcome_eq_error_iff, outcome_ofDocument_runCheck]
    rfl

end Blueprint

end ActivityForge
