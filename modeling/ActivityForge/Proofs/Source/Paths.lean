import ActivityForge.Proofs.Blueprint.Acceptance
import ActivityForge.Proofs.Name.Characters
import ActivityForge.Proofs.Source.Emitted

/-!
# Paths of generated files

The files are named after the contract and after the component schemas with properties, each by a
derivation of its own.  Contract, implementation and models never get in each other's way; two
files share a path if and only if two component schemas have the same module, a component schema
has the module `mod`, or the contract has it (`ofDocument_nodup_paths_iff`).  That does happen:
nothing keeps the modules of component schemas apart (`homonymous_schemas_share_a_path`).
-/

namespace ActivityForge

namespace Source

open Blueprint (modelFrom)

/-- The paths of the files outside the directory of the models. -/
def outerPaths (s : Settings) : List String :=
  [moduleOfContract s ++ ".rs"]
    ++ (if s.generateImplementation then [moduleOfContract s ++ "_impl.rs"] else [])
    ++ ["mod.rs"]

/-- The paths of the files in the directory of the models. -/
def modelPaths (b : Blueprint) (s : Settings) : List String :=
  if s.generateModels then (modelArtifacts b).map (·.path) else []

theorem perm_paths (b : Blueprint) (s : Settings) :
    ((generate b s).map (·.path)).Perm (outerPaths s ++ modelPaths b s) := by
  have hpaths : (generate b s).map (·.path) =
      ([moduleOfContract s ++ ".rs"]
        ++ if s.generateImplementation then [moduleOfContract s ++ "_impl.rs"] else [])
      ++ (modelPaths b s ++ ["mod.rs"]) := by
    unfold generate modelPaths
    split <;> split <;>
      simp [contractArtifact, implementationArtifact, rootArtifact]
  rw [hpaths, outerPaths, List.append_assoc _ ["mod.rs"]]
  exact List.perm_append_comm.append_left _

theorem generate_ne_nil (b : Blueprint) (s : Settings) : generate b s ≠ [] := by
  simp [generate]

/-! ## Outside the directory of the models -/

theorem nodup_outerPaths_iff (s : Settings) :
    (outerPaths s).Nodup ↔ moduleOfContract s ≠ "mod" := by
  have hsuffix (m : String) : m ++ ".rs" ≠ m ++ "_impl.rs" := fun h =>
    absurd ((String.append_right_inj m).1 h) (by decide)
  have himpl (m : String) : m ++ "_impl.rs" ≠ "mod.rs" := by
    intro h
    have hlength := congrArg String.length h
    rw [String.length_append] at hlength
    have hlonger : "mod.rs".length < "_impl.rs".length := by decide
    omega
  have hmod (m : String) : m ++ ".rs" = "mod.rs" ↔ m = "mod" := by
    rw [show "mod.rs" = "mod" ++ ".rs" by decide, String.append_left_inj]
  unfold outerPaths
  split <;> simp [hsuffix, himpl, hmod]

theorem eq_of_mem_outerPaths {s : Settings} {p : String} (h : p ∈ outerPaths s) :
    p = moduleOfContract s ++ ".rs" ∨ p = moduleOfContract s ++ "_impl.rs" ∨ p = "mod.rs" := by
  unfold outerPaths at h
  split at h <;> simp at h <;> tauto

theorem slash_not_mem_outerPaths {s : Settings} {p : String} (h : p ∈ outerPaths s) :
    '/' ∉ p.toList := by
  have hmodule : '/' ∉ (moduleOfContract s).toList := Name.not_mem_memberName (by decide) _
  rcases eq_of_mem_outerPaths h with rfl | rfl | rfl <;> simp [hmodule]

/-! ## In the directory of the models -/

theorem eq_of_mem_modelPaths {b : Blueprint} {s : Settings} {p : String}
    (h : p ∈ modelPaths b s) :
    (∃ m ∈ emittedModels b, p = "models/" ++ modelModule m ++ ".rs") ∨ p = "models/mod.rs" := by
  unfold modelPaths modelArtifacts at h
  split at h
  · split at h
    · cases h
    · rw [List.map_append, List.map_map] at h
      rcases List.mem_append.1 h with h | h
      · obtain ⟨m, hm, rfl⟩ := List.mem_map.1 h
        exact Or.inl ⟨m, hm, rfl⟩
      · exact Or.inr (List.mem_singleton.1 h)
  · cases h

theorem slash_mem_modelPaths {b : Blueprint} {s : Settings} {p : String}
    (h : p ∈ modelPaths b s) : '/' ∈ p.toList := by
  rcases eq_of_mem_modelPaths h with ⟨m, -, rfl⟩ | rfl
  · simp
  · decide

theorem nodup_modelPaths_iff (b : Blueprint) (s : Settings) :
    (modelPaths b s).Nodup ↔ (s.generateModels = true →
      ((emittedModels b).map modelModule).Nodup ∧ "mod" ∉ (emittedModels b).map modelModule) := by
  have hpath : Function.Injective fun m : String => "models/" ++ m ++ ".rs" := fun m m' h =>
    (String.append_right_inj _).1 ((String.append_left_inj _).1 h)
  have hpaths : (modelArtifacts b).map (·.path) = [] ∧ emittedModels b = [] ∨
      (modelArtifacts b).map (·.path) =
        (((emittedModels b).map modelModule) ++ ["mod"]).map fun m => "models/" ++ m ++ ".rs" := by
    unfold modelArtifacts
    split
    · next hnone => exact Or.inl ⟨rfl, List.isEmpty_iff.1 hnone⟩
    · exact Or.inr (by simp [modelArtifact])
  unfold modelPaths
  split
  · next hmodels =>
    rcases hpaths with ⟨hpaths, hnone⟩ | hpaths
    · simp [hpaths, hnone]
    · rw [hpaths, List.nodup_map_iff hpath, List.nodup_append_comm, List.singleton_append,
        List.nodup_cons]
      tauto
  · next hmodels => simp [hmodels]

/-! ## All paths -/

/-- What holds of the paths outside and in the directory of the models holds of all. -/
theorem forall_mem_generate {b : Blueprint} {s : Settings} {P : String → Prop}
    (houter : ∀ p ∈ outerPaths s, P p) (hmodels : ∀ p ∈ modelPaths b s, P p) :
    ∀ a ∈ generate b s, P a.path := by
  intro a ha
  have hpath : a.path ∈ outerPaths s ++ modelPaths b s :=
    (perm_paths b s).subset (List.mem_map.2 ⟨a, ha, rfl⟩)
  exact (List.mem_append.1 hpath).elim (houter _) (hmodels _)

theorem nodup_paths_iff (b : Blueprint) (s : Settings) :
    ((generate b s).map (·.path)).Nodup ↔ moduleOfContract s ≠ "mod" ∧ (s.generateModels = true →
      ((emittedModels b).map modelModule).Nodup ∧ "mod" ∉ (emittedModels b).map modelModule) := by
  have hdisjoint : (outerPaths s).Disjoint (modelPaths b s) := fun p hp hp' =>
    slash_not_mem_outerPaths hp (slash_mem_modelPaths hp')
  rw [(perm_paths b s).nodup_iff, List.nodup_append', nodup_outerPaths_iff, nodup_modelPaths_iff]
  simp [hdisjoint]

/-- The modules of the component schemas with properties. -/
def componentModules (d : Document) : List String :=
  d.structured.keys.map fun key => memberName (Name.ofText key).pascal

/-- The paths of the generated files differ from each other if and only if the component schemas
with properties have different modules, none of them `mod`, and the contract is not in `mod`. -/
theorem ofDocument_nodup_paths_iff {d : Document} {o : Options} {b : Blueprint}
    (h : (Blueprint.ofDocument d o).result = .ok b) (s : Settings) :
    ((generate b s).map (·.path)).Nodup ↔ moduleOfContract s ≠ "mod" ∧
      (s.generateModels = true → (componentModules d).Nodup ∧ "mod" ∉ componentModules d) := by
  have hmodules : (emittedModels b).map modelModule = componentModules d := by
    rw [emittedModels_eq h, List.map_map, componentModules, Dict.keys, List.map_map]
    exact List.map_congr_left fun c _ => by
      rw [Function.comp_apply, modelModule, Blueprint.name_modelFrom, Function.comp_apply]
  rw [nodup_paths_iff, hmodules]

theorem petStore_nodup_paths : ∃ b,
    (Blueprint.ofDocument Document.petStore ⟨"models", true⟩).result = .ok b ∧
      ((generate b .default).map (·.path)).Nodup := by
  obtain ⟨b, h⟩ := Blueprint.exists_ofDocument_iff.2 Document.accepted_petStore
  exact ⟨b, h, (ofDocument_nodup_paths_iff h .default).2 (by decide +kernel)⟩

/-- Two component schemas with the same words in different case. -/
def homonymousSchemas : Document where
  format := "3.0.3"
  info := ⟨"Homonyms", none, "1"⟩
  paths := []
  components := some ⟨[("Pet", schema), ("pet", schema)], [], [], []⟩
where
  schema : Document.Schema :=
    .inline ⟨some (.single "object"), none, none, none,
      [("id", .inline ⟨some (.single "string"), none, none, none, [], [], none, none⟩)], [],
      none, none⟩

/-- Schemas whose names are not told apart overwrite each other. -/
theorem homonymous_schemas_share_a_path :
    ¬ ∀ (d : Document) (o : Options) (b : Blueprint) (s : Settings),
      (Blueprint.ofDocument d o).result = .ok b → ((generate b s).map (·.path)).Nodup := by
  intro hall
  obtain ⟨b, h⟩ := exists_eq_ok_of_isOk
    (x := (Blueprint.ofDocument homonymousSchemas ⟨"models", true⟩).result) (by decide)
  have hmodules := (nodup_paths_iff b .default).1 (hall _ _ b .default h)
  rw [emittedModels_eq h] at hmodules
  exact absurd (hmodules.2 rfl).1 (by decide +kernel)

end Source

end ActivityForge
