import ActivityForge.Proofs.Path
import ActivityForge.Proofs.Source.Paths

/-!
# Generated files stay inside the output directory

Contract and component schemas may have any name, be it full of slashes and dots.  The names of
their files are made of words only (`isStem_memberName`), so a generated file is a file of the
output directory or of its directory of models (`generated_files_stay_inside`), and its path leads
nowhere but down (`descends_of_mem_generate`).
-/

namespace ActivityForge.Source

/-- A name of a file without its extension: nothing in it has a meaning in paths, and it may stand
for an identifier. -/
structure IsStem (m : String) : Prop where
  ne_empty : m ≠ ""
  plain : ∀ c ∈ m.toList, c ≠ '/' ∧ c ≠ '\\' ∧ c ≠ '.' ∧ Text.isBlank c = false
  start : m.toList.head?.any Char.isDigit = false

theorem isStem_memberName (text : String) : IsStem (memberName text) where
  ne_empty := Name.memberName_ne_empty text
  plain c hc := by
    have hname := Name.isNameChar_of_mem_memberName hc
    refine ⟨?_, ?_, ?_, ?_⟩
    · rintro rfl
      exact absurd hname (by decide)
    · rintro rfl
      exact absurd hname (by decide)
    · rintro rfl
      exact absurd hname (by decide)
    · rcases Bool.or_eq_true_iff.1 hname with hc | hc
      · rw [of_decide_eq_true hc]
        decide
      · exact Text.isBlank_of_isWordChar hc
  start := Name.isDigit_head_memberName text

/-- A place for a generated file, as a path inside the output directory. -/
inductive IsInside : String → Prop
  | root : IsInside "mod.rs"
  | models : IsInside "models/mod.rs"
  | contract {m : String} (h : IsStem m) : IsInside (m ++ ".rs")
  | implementation {m : String} (h : IsStem m) : IsInside (m ++ "_impl.rs")
  | model {m : String} (h : IsStem m) : IsInside ("models/" ++ m ++ ".rs")

theorem isInside_of_mem_outerPaths {s : Settings} {p : String} (h : p ∈ outerPaths s) :
    IsInside p := by
  have hmodule : IsStem (moduleOfContract s) := isStem_memberName s.contractName
  rcases eq_of_mem_outerPaths h with rfl | rfl | rfl
  · exact .contract hmodule
  · exact .implementation hmodule
  · exact .root

theorem isInside_of_mem_modelPaths {b : Blueprint} {s : Settings} {p : String}
    (h : p ∈ modelPaths b s) : IsInside p := by
  rcases eq_of_mem_modelPaths h with ⟨m, -, rfl⟩ | rfl
  · exact .model (isStem_memberName m.name.pascal)
  · exact .models

/-- Whatever the names in the document and in the settings, no generated file is placed outside the
output directory. -/
theorem generated_files_stay_inside (b : Blueprint) (s : Settings) :
    ∀ a ∈ generate b s, IsInside a.path :=
  forall_mem_generate (fun _ => isInside_of_mem_outerPaths) fun _ => isInside_of_mem_modelPaths

/-- Settings with a contract whose name is a way out of the directory. -/
def wayOut : Settings := { Settings.default with contractName := "../../Etc" }

theorem wayOut_stays_inside :
    contractArtifact ⟨⟨"", none, ""⟩, [], []⟩ wayOut ∈ generate ⟨⟨"", none, ""⟩, [], []⟩ wayOut ∧
      (contractArtifact ⟨⟨"", none, ""⟩, [], []⟩ wayOut).path = "etc.rs" ∧
      IsInside (contractArtifact ⟨⟨"", none, ""⟩, [], []⟩ wayOut).path := by
  have hmem : contractArtifact ⟨⟨"", none, ""⟩, [], []⟩ wayOut ∈
      generate ⟨⟨"", none, ""⟩, [], []⟩ wayOut := by simp [generate]
  exact ⟨hmem, by decide +kernel, generated_files_stay_inside _ wayOut _ hmem⟩

/-! ## Paths that lead down -/

theorem IsStem.descends_append {m : String} (h : IsStem m) {extension : String}
    (hslash : '/' ∉ extension.toList) (hlength : 2 < extension.length) :
    Path.Descends (m ++ extension) := by
  refine Path.descends_of_length ?_ ?_
  · rw [String.toList_append, List.mem_append, not_or]
    exact ⟨fun hmem => (h.plain _ hmem).1 rfl, hslash⟩
  · rw [String.length_append]
    omega

theorem IsInside.descends {p : String} (h : IsInside p) : Path.Descends p := by
  have hmodels : Path.Descends "models" := Path.descends_of_length (by decide) (by decide)
  have hroot : Path.Descends "mod.rs" := Path.descends_of_length (by decide) (by decide)
  cases h with
  | root => exact hroot
  | models => exact hmodels.append hroot
  | contract h => exact h.descends_append (by decide) (by decide)
  | implementation h => exact h.descends_append (by decide) (by decide)
  | @model m h =>
    have hpath : "models/" ++ m ++ ".rs" = "models" ++ "/" ++ (m ++ ".rs") := by
      rw [String.append_assoc]
      rfl
    rw [hpath]
    exact hmodels.append (h.descends_append (by decide) (by decide))

theorem descends_of_mem_generate (b : Blueprint) (s : Settings) :
    ∀ a ∈ generate b s, Path.Descends a.path :=
  forall_mem_generate (fun _ h => (isInside_of_mem_outerPaths h).descends)
    fun _ h => (isInside_of_mem_modelPaths h).descends

end ActivityForge.Source
