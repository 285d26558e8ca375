import ActivityForge.Proofs.Activity.Renaming
import ActivityForge.Proofs.Blueprint.Resolution
import ActivityForge.Proofs.Reference.Chain

/-!
# The parameters of an activity

Parameters are told apart by their names and places.  A parameter of an operation takes the place of
the one of its path that is the same, or else comes behind the others; so the parameters of an
activity differ from each other if and only if those of its path do, however often the operation
repeats its own (`nodup_keys_mergeParameters_iff`).  What is merged are the parameters that the
document declares, at the ends of their chains of references (`merges_of_ofDocument`).
-/

namespace ActivityForge

/-- By what a parameter is known on the wire. -/
def Activity.Parameter.key (p : Activity.Parameter) : String × Document.Place :=
  (p.originalName, p.place)

namespace Document

def Parameter.key (p : Parameter) : String × Place := (p.name, p.place)

/-- A parameter, or a reference to one, stands for an inline parameter. -/
def Declared (d : Document) (v : OrRef Parameter) (p : Parameter) : Prop :=
  LeadsTo .parameters (componentsOf d Components.parameters) v p

/-- The operations of a document with the paths that they belong to, in their order. -/
def pathOperations (d : Document) : List (PathItem × Operation) :=
  d.paths.flatMap fun entry => entry.2.operations.map fun e => (entry.2, e.2)

end Document

namespace Blueprint

open Activity (Parameter)
open Document (Declared Operation OrRef PathItem)

/-! ## Merging -/

section Merging

variable (ps own : List Parameter) (p q : Parameter)

theorem sameParameter_iff : sameParameter p q = true ↔ p.key = q.key := by
  simp [sameParameter, Parameter.key]

/-- Merging a parameter changes the keys only if there is a new one. -/
theorem keys_mergeParameter : (mergeParameter ps p).map Parameter.key =
    if p.key ∈ ps.map Parameter.key then ps.map Parameter.key
    else ps.map Parameter.key ++ [p.key] := by
  induction ps with
  | nil => rfl
  | cons q ps ih =>
    by_cases h : q.key = p.key
    · have hsame : sameParameter q p = true := (sameParameter_iff q p).2 h
      simp [mergeParameter, hsame, h]
    · have hother : sameParameter q p = false := by
        rw [← Bool.not_eq_true, sameParameter_iff]
        exact h
      have hne : p.key ≠ q.key := Ne.symm h
      simp only [mergeParameter, hother, Bool.false_eq_true, ↓reduceIte, List.map_cons, ih,
        List.mem_cons, hne, false_or]
      split <;> rfl

theorem nodup_keys_mergeParameter_iff :
    ((mergeParameter ps p).map Parameter.key).Nodup ↔ (ps.map Parameter.key).Nodup := by
  rw [keys_mergeParameter]
  split
  · rfl
  · next h => rw [List.nodup_append_comm, List.singleton_append, List.nodup_cons, and_iff_right h]

/-- Whatever parameters an operation has, none is repeated unless one of the path is. -/
theorem nodup_keys_mergeParameters_iff :
    ((mergeParameters ps own).map Parameter.key).Nodup ↔ (ps.map Parameter.key).Nodup := by
  induction own generalizing ps with
  | nil => rfl
  | cons p own ih =>
    show ((mergeParameters (mergeParameter ps p) own).map Parameter.key).Nodup ↔ _
    rw [ih, nodup_keys_mergeParameter_iff]

end Merging

/-! ## What is merged -/

/-- The parameters are those that the document declares for a path, merged with those of one of its
operations. -/
def Merges (d : Document) (scope : String) (e : PathItem × Operation) (ps : List Parameter) :
    Prop :=
  ∃ shared own : List Document.Parameter,
    List.Forall₂ (Declared d) e.1.parameters shared ∧
    List.Forall₂ (Declared d) e.2.parameters own ∧
    ps = mergeParameters (shared.map (parameterOf scope)) (own.map (parameterOf scope))

variable {d : Document} {o : Options}

theorem declared_of_resolveParameter {v : OrRef Document.Parameter} {p : Parameter}
    (h : (resolveParameter d o v).result = .ok p) :
    ∃ declared, Declared d v declared ∧ p = parameterOf o.modelScope declared := by
  simp only [result_resolveParameter, bind_eq_ok_iff, pure_eq_ok_iff] at h
  obtain ⟨declared, hdeclared, -, -, rfl⟩ := h
  exact ⟨declared, Document.chainEnds_ok_iff.1 (Document.resolve_eq_iff.1 hdeclared), rfl⟩

theorem declared_of_resolveParameters {vs : List (OrRef Document.Parameter)} {ps : List Parameter}
    (h : (vs.mapM fun v => (resolveParameter d o v).result) = .ok ps) :
    ∃ declared, List.Forall₂ (Declared d) vs declared ∧
      ps = declared.map (parameterOf o.modelScope) := by
  rw [mapM_eq_ok_iff] at h
  induction h with
  | nil => exact ⟨[], .nil, rfl⟩
  | cons hv _ ih =>
    obtain ⟨p, hp, rfl⟩ := declared_of_resolveParameter hv
    obtain ⟨rest, hrest, rfl⟩ := ih
    exact ⟨p :: rest, .cons hp hrest, rfl⟩

theorem merges_of_resolveActivity {item : PathItem} {path : String}
    {shared : List Document.Parameter}
    (hshared : List.Forall₂ (Declared d) item.parameters shared)
    {entry : Document.Method × Operation} {a : Activity}
    (h : (resolveActivity d o path (shared.map (parameterOf o.modelScope)) entry).result = .ok a) :
    Merges d o.modelScope (item, entry.2) a.parameters := by
  simp only [result_resolveActivity, bind_eq_ok_iff, pure_eq_ok_iff] at h
  obtain ⟨own, hown, body, -, response, -, rfl⟩ := h
  obtain ⟨declared, hdeclared, rfl⟩ := declared_of_resolveParameters hown
  exact ⟨shared, declared, hshared, hdeclared, rfl⟩

theorem merges_of_resolvePath {entry : String × PathItem} {drafts : List Activity}
    (h : (resolvePath d o entry).result = .ok drafts) :
    List.Forall₂ (fun e a => Merges d o.modelScope e a.parameters)
      (entry.2.operations.map fun e => (entry.2, e.2)) drafts := by
  rw [result_resolvePath, bind_eq_ok_iff] at h
  obtain ⟨ofPath, hpath, h⟩ := h
  obtain ⟨shared, hshared, rfl⟩ := declared_of_resolveParameters hpath
  rw [List.forall₂_map_left_iff]
  exact (mapM_eq_ok_iff.1 h).imp fun _ _ => merges_of_resolveActivity hshared

/-- Settling names does not touch the parameters. -/
theorem merges_of_ofDocument {b : Blueprint} (h : (ofDocument d o).result = .ok b) :
    List.Forall₂ (fun e a => Merges d o.modelScope e a.parameters) d.pathOperations
      b.activities := by
  simp only [result_ofDocument, bind_eq_ok_iff, pure_eq_ok_iff, mapM_eq_ok_iff] at h
  obtain ⟨models, -, perPath, hpaths, rfl⟩ := h
  have hdrafts : List.Forall₂ (fun e a => Merges d o.modelScope e a.parameters) d.pathOperations
      perPath.flatten :=
    List.rel_flatten (List.forall₂_map_left_iff.2 (hpaths.imp fun _ _ => merges_of_resolvePath))
  have hsettled := Activity.map_settleNames (f := Activity.parameters)
    (fun a b hab => by rw [hab]) [] perPath.flatten
  rw [← List.forall₂_map_right_iff (R := Merges d o.modelScope)] at hdrafts ⊢
  rw [hsettled]
  exact hdrafts

end Blueprint

end ActivityForge
