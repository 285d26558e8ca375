import ActivityForge.Proofs.Source.ModuleTree
import ActivityForge.Proofs.Source.Members
import ActivityForge.Proofs.Source.Uniqueness
import ActivityForge.Proofs.Text.Quotes

/-!
# Names of the document in the generated files

The names of properties and the identifiers of operations get into the generated files as literals,
and what these denote are the names of the document, whatever characters they consist of: on the
wire a field has the name of its property, and an operation is looked up by its identifier, unless
an operation before it has taken the form of that (`literals_denote_names`).
-/

namespace ActivityForge.Source

open Activity (IsFirstFree Settles forms)
open Document (Endpoint Schema)

/-- The name that an operation is looked up by, behind others whose forms are `earlier`: its
identifier, or if its form is taken, this with the first number with which it is not. -/
inductive LookedUpBy (earlier : List String) (e : Endpoint) : String → Prop
  | own {id : String} (h : Identifies e id) (free : (Name.ofText id).snake ∉ earlier) :
      LookedUpBy earlier e id
  | numbered {id : String} {n : Nat} (h : Identifies e id)
      (taken : (Name.ofText id).snake ∈ earlier) (first : IsFirstFree earlier id n) :
      LookedUpBy earlier e (id ++ "_" ++ toString n)

/-- What the literals in the generated files denote. -/
structure DenotesNames (d : Document) (b : Blueprint) (s : Settings) : Prop where
  /-- The fields of a struct have the names of the properties, in their order. -/
  properties : List.Forall₂
    (fun component file => ∃ fields, fieldsOf? file.lines = some fields ∧
      fields.map WrittenField.wireName = component.2.properties.map Prod.fst)
    d.structured (modelSources b)
  /-- There is one arm for each operation, in their order. -/
  arms : ∃ arms, matchArms (Contract.ofBlueprint b s).lines = some arms ∧
    (armNames arms).length = d.endpoints.length ∧
    ∀ (i : Nat) (e : Endpoint) (name : String), d.endpoints[i]? = some e →
      (armNames arms)[i]? = some name → LookedUpBy (forms (b.activities.take i)) e name

variable {d : Document} {o : Options} {b : Blueprint}

/-! ## Properties -/

theorem wireNames_modelSource (info : Document.Info) (scope : String)
    (component : String × Schema) :
    ∃ fields, fieldsOf? (modelSource info (Blueprint.modelFrom scope component)).lines = some fields ∧
      fields.map WrittenField.wireName = component.2.properties.map Prod.fst := by
  refine ⟨_, fieldsOf?_modelFile info _, ?_⟩
  rw [Blueprint.fields_modelFrom, List.map_map, List.map_map]
  rfl

theorem wireNames_modelSources (h : (Blueprint.ofDocument d o).result = .ok b) :
    List.Forall₂
      (fun component file => ∃ fields, fieldsOf? file.lines = some fields ∧
        fields.map WrittenField.wireName = component.2.properties.map Prod.fst)
      d.structured (modelSources b) := by
  rw [modelSources, emittedModels_eq h, List.map_map, List.forall₂_map_right_iff,
    List.forall₂_same]
  exact fun component _ => wireNames_modelSource b.info o.modelScope component

/-! ## Operations -/

/-- An activity that is settled behind others goes by the name of its operation. -/
theorem lookedUpBy_of_settles {earlier : List String} {e : Endpoint} {draft a : Activity}
    (hid : Identifies e draft.name.original) (hname : draft.name = Name.ofText draft.name.original)
    (h : Settles earlier draft a) : LookedUpBy earlier e a.name.original := by
  by_cases htaken : draft.name.snake ∈ earlier
  · obtain ⟨n, hfirst, heq⟩ := h.renamed htaken
    rw [hname] at htaken
    rw [heq]
    exact .numbered hid htaken hfirst
  · rw [h.kept.2 htaken]
    rw [hname] at htaken
    exact .own hid htaken

/-- Every activity is settled behind those before it, from what its operation is described by. -/
theorem exists_settles (h : (Blueprint.ofDocument d o).result = .ok b) {i : Nat} {e : Endpoint}
    {a : Activity} (he : d.endpoints[i]? = some e) (ha : b.activities[i]? = some a) :
    ∃ draft, Blueprint.Describes d o.modelScope e draft ∧
      Settles (forms (b.activities.take i)) draft a := by
  obtain ⟨drafts, hdrafts, hb⟩ := Blueprint.exists_drafts h
  obtain ⟨hi, rfl⟩ := List.getElem?_eq_some_iff.1 he
  have hdraft : i < drafts.length := hdrafts.length_eq ▸ hi
  have hactivities : b.activities = Activity.settleNames [] drafts := by rw [hb]
  rw [hactivities] at ha ⊢
  have hsettles := Activity.settles_settleNames [] drafts (List.getElem?_eq_getElem hdraft) ha
  exact ⟨drafts[i], List.Forall₂.get hdrafts hi hdraft, by simpa using hsettles⟩

theorem length_activities (h : (Blueprint.ofDocument d o).result = .ok b) :
    b.activities.length = d.endpoints.length := by
  obtain ⟨drafts, hdrafts, hb⟩ := Blueprint.exists_drafts h
  rw [hb, hdrafts.length_eq]
  exact (Activity.forall₂_renames_settleNames [] drafts).length_eq.symm

theorem denotesNames_of_ofDocument (h : (Blueprint.ofDocument d o).result = .ok b) (s : Settings) :
    DenotesNames d b s where
  properties := wireNames_modelSources h
  arms := by
    refine ⟨_, matchArms_contract b s, ?_, fun i e name he hname => ?_⟩
    · rw [armNames_armsOf, List.length_map, length_activities h]
    · rw [armNames_armsOf, List.getElem?_map] at hname
      obtain ⟨a, ha, rfl⟩ := Option.map_eq_some_iff.1 hname
      obtain ⟨draft, hdescribes, hsettles⟩ := exists_settles h he ha
      exact lookedUpBy_of_settles hdescribes.identifier hdescribes.name hsettles

/-- Every text has a literal that denotes it and no other text.  So the literals in the generated
files denote the names of the document. -/
theorem literals_denote_names :
    (∀ text, Text.IsLiteral text (Text.literal text)) ∧ Function.Injective Text.literal ∧
      ∀ (d : Document) (o : Options) (b : Blueprint) (s : Settings),
        (Blueprint.ofDocument d o).result = .ok b → DenotesNames d b s :=
  ⟨Text.isLiteral_literal, Text.literal_injective, fun _ _ _ s h => denotesNames_of_ofDocument h s⟩

/-- Names with quotes, escapes and line breaks in them. -/
def quotedNames : Document where
  format := "3.0.3"
  info := ⟨"Quoted names", none, "1"⟩
  paths := [("/", ⟨[], some (operation "say \"\\n\"\n"), some (operation "say \"\\n\"\n"), none, none,
    none⟩)]
  components := some ⟨[("Note", schema)], [], [], []⟩
where
  operation (id : String) : Document.Operation := ⟨some id, none, none, [], [], none, [], none⟩
  text : Schema := .inline ⟨some (.single "string"), none, none, none, [], [], none, none⟩
  schema : Schema :=
    .inline ⟨some (.single "object"), none, none, none,
      [("a \"b\"\n", text), ("\\u\x7b41\x7d", text)], [], none, none⟩

theorem quoted_names_denoted : ∃ b,
    (Blueprint.ofDocument quotedNames ⟨"models", true⟩).result = .ok b ∧
      DenotesNames quotedNames b .default := by
  obtain ⟨b, h⟩ := exists_eq_ok_of_isOk
    (x := (Blueprint.ofDocument quotedNames ⟨"models", true⟩).result) (by decide)
  exact ⟨b, h, literals_denote_names.2.2 _ _ b .default h⟩

end ActivityForge.Source
