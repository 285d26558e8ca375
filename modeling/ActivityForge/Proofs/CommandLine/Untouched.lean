import ActivityForge.CommandLine.Perform
import ActivityForge.Document.Printer
import ActivityForge.Proofs.Workspace.Frame
import Mathlib

/-!
# What commands leave untouched

A run reads the document, resolves it and makes all artifacts before it changes anything, so a run
that fails leaves the workspace as it was unless it fails while writing
(`runWith_spares_workspace`).  Hence only `init` and a `generate` whose document is good can change
anything, and `init` changes the settings file at most (`perform_spares_workspace`).
-/

namespace ActivityForge

namespace Generation

/-! ## Errors of writing -/

/-- The error comes from making a directory or writing a file of the output. -/
def Error.isOfWriting : Error → Bool
  | .noDirectory .. | .notWritten .. => true
  | .inputNotFound _ | .unreadable .. | .rejected .. => false

theorem isOfWriting_writeArtifact {output : String} {a : Source.Artifact} {w left : Workspace}
    {e : Error} (h : writeArtifact output a w = (left, .error e)) : e.isOfWriting = true := by
  unfold writeArtifact at h
  simp only at h
  split at h
  · cases h
    rfl
  · split at h
    · cases h
      rfl
    · cases h

-- The equation that unfolding `writeAll` derives would evaluate the writing of an artifact.
attribute [local irreducible] writeArtifact in
theorem writeAll_cons (output : String) (a : Source.Artifact) (rest : List Source.Artifact)
    (w : Workspace) : writeAll output (a :: rest) w =
      match writeArtifact output a w with
      | (w, .error e) => (w, Logged.ofExcept (.error e))
      | (w, .ok path) =>
        let (w, written) := writeAll output rest w
        (w, do
          Logged.note (debug ("wrote " ++ path))
          let paths ← written
          pure (path :: paths)) := by
  rfl

theorem isOfWriting_writeAll {output : String} {artifacts : List Source.Artifact} {w : Workspace}
    {e : Error} (h : (writeAll output artifacts w).2.result = .error e) : e.isOfWriting = true := by
  induction artifacts generalizing w with
  | nil => cases h
  | cons a rest ih =>
    rw [writeAll_cons] at h
    split at h
    · next left e' hwrite =>
      simp only [Logged.result_ofExcept, Except.error.injEq] at h
      subst h
      exact isOfWriting_writeArtifact hwrite
    · next left path hwrite =>
      refine ih (w := left) ?_
      simp only [Logged.result_bind, Logged.result_note, ok_bind, bind_eq_error_iff] at h
      obtain h | ⟨paths, -, h⟩ := h
      · exact h
      · cases h

theorem isOfWriting_writeOutput {output : String} {artifacts : List Source.Artifact}
    {w : Workspace} {e : Error} (h : (writeOutput output artifacts w).2.result = .error e) :
    e.isOfWriting = true := by
  unfold writeOutput at h
  split at h
  · cases h
    rfl
  · exact isOfWriting_writeAll h

/-! ## Runs that fail before they write -/

section

variable {ε : Type} {generator : Generator ε} {w : Workspace} {s : Settings}

/-- A run whose plan fails changes nothing. -/
theorem runWith_of_plan_error {e : Error ⊕ ε} (h : (plan generator w s).result = .error e) :
    runWith generator w s = (w, ⟨(plan generator w s).log, .error e⟩) := by
  simp only [runWith, h]

/-- A run whose plan is made can only fail by an error of writing. -/
theorem isOfWriting_of_plan {planned : Blueprint × List Source.Artifact} {e : Error ⊕ ε}
    (h : (plan generator w s).result = .ok planned)
    (he : (runWith generator w s).2.result = .error e) :
    ∃ e', e = .inl e' ∧ e'.isOfWriting = true := by
  obtain ⟨b, artifacts⟩ := planned
  simp only [runWith, h, Logged.result_bind, Logged.result_note, Logged.result_mapError, ok_bind,
    bind_eq_error_iff, mapError_eq_error_iff] at he
  obtain ⟨e', hwrite, rfl⟩ | ⟨paths, -, he⟩ := he
  · exact ⟨e', rfl, isOfWriting_writeOutput hwrite⟩
  · cases he

/-- An error that is not one of writing comes before the run changes anything, be it one of the run
or one of the generator. -/
theorem runWith_spares_workspace {e : Error ⊕ ε}
    (h : (runWith generator w s).2.result = .error e)
    (early : ∀ e', e = .inl e' → e'.isOfWriting = false) : (runWith generator w s).1 = w := by
  cases hplan : (plan generator w s).result with
  | error _ => rw [runWith_of_plan_error hplan]
  | ok planned =>
    obtain ⟨e', rfl, hwriting⟩ := isOfWriting_of_plan hplan h
    rw [early e' rfl] at hwriting
    cases hwriting

theorem run_of_plan_error {e : Error ⊕ Empty} (h : (plan activities w s).result = .error e) :
    (run w s).1 = w := by
  rw [run, runWith_of_plan_error h]

theorem run_spares_workspace {e : Error} (h : (run w s).2.result = .error e)
    (early : e.isOfWriting = false) : (run w s).1 = w := by
  obtain ⟨e', he', rfl⟩ := mapError_eq_error_iff.1 h
  refine runWith_spares_workspace he' fun e hinl => ?_
  subst hinl
  exact early

end

end Generation

/-! ## Commands -/

namespace CommandLine

open Generation (Generator)

/-- Why `generate` fails. -/
inductive GenerateError
  /-- The settings cannot be loaded. -/
  | settings (e : Settings.LoadError)
  | run (e : Generation.Error)

/-- The error comes from writing the output. -/
def GenerateError.isOfWriting : GenerateError → Bool
  | .settings _ => false
  | .run e => e.isOfWriting

/-- `generate` fails with the error. -/
def GenerateFails (w : Workspace) (settingsPath : String) (overrides : Overrides) :
    GenerateError → Prop
  | .settings e => Settings.load w settingsPath = .error e
  | .run e => ∃ s, Settings.load w settingsPath = .ok s ∧
      (Generation.run w (overrides.apply s)).2.result = .error e

variable {w : Workspace} {settingsPath : String}

@[simp] theorem workspace_outcomeOf (result : Except Failure (String × String)) :
    (outcomeOf w result).workspace = w := by
  cases result <;> rfl

theorem loadSettings_of_load_error {e : Settings.LoadError}
    (h : Settings.load w settingsPath = .error e) :
    loadSettings w settingsPath = .error ⟨e.message, []⟩ := by
  rw [loadSettings, h]
  rfl

theorem loadSettings_of_load_ok {s : Settings} (h : Settings.load w settingsPath = .ok s) :
    loadSettings w settingsPath = .ok s := by
  rw [loadSettings, h]
  rfl

theorem generate_workspace {s : Settings} (h : Settings.load w settingsPath = .ok s)
    (overrides : Overrides) : (generate w settingsPath overrides).workspace =
      (Generation.run w (overrides.apply s)).1 := by
  simp only [generate, loadSettings_of_load_ok h]
  split
  · rfl
  · rfl

theorem generate_code_of_fails {overrides : Overrides} {e : GenerateError}
    (h : GenerateFails w settingsPath overrides e) :
    (generate w settingsPath overrides).code = 1 := by
  cases e with
  | settings e =>
    rw [generate, loadSettings_of_load_error h]
    rfl
  | run e =>
    obtain ⟨s, hs, he⟩ := h
    simp only [generate, loadSettings_of_load_ok hs, he]

theorem generate_spares_workspace {overrides : Overrides} {e : GenerateError}
    (h : GenerateFails w settingsPath overrides e) (early : e.isOfWriting = false) :
    (generate w settingsPath overrides).workspace = w := by
  cases e with
  | settings e =>
    rw [generate, loadSettings_of_load_error h]
    rfl
  | run e =>
    obtain ⟨s, hs, he⟩ := h
    rw [generate_workspace hs]
    exact Generation.run_spares_workspace he early

/-- There is an error behind every code but zero. -/
theorem generate_fails_of_code (w : Workspace) (settingsPath : String) (overrides : Overrides)
    (h : (generate w settingsPath overrides).code ≠ 0) :
    ∃ e, GenerateFails w settingsPath overrides e := by
  cases hs : Settings.load w settingsPath with
  | error e => exact ⟨.settings e, hs⟩
  | ok s =>
    cases hrun : (Generation.run w (overrides.apply s)).2.result with
    | error e => exact ⟨.run e, s, hs, hrun⟩
    | ok r => simp only [generate, loadSettings_of_load_ok hs, hrun, ne_eq, not_true_eq_false] at h

/-- `generate` changes nothing unless its settings load and its plan is made. -/
theorem generate_plans_first (w : Workspace) (settingsPath : String) (overrides : Overrides) :
    (generate w settingsPath overrides).workspace = w ∨
      ∃ s planned, Settings.load w settingsPath = .ok s ∧
        (Generation.plan Generation.activities w (overrides.apply s)).result = .ok planned := by
  cases hs : Settings.load w settingsPath with
  | error e => exact Or.inl (generate_spares_workspace (e := .settings e) hs rfl)
  | ok s =>
    cases hplan : (Generation.plan Generation.activities w (overrides.apply s)).result with
    | error e => exact Or.inl ((generate_workspace hs _).trans (Generation.run_of_plan_error hplan))
    | ok planned => exact Or.inr ⟨s, planned, rfl, hplan⟩

/-- An existing settings file is not written over unless that is forced. -/
theorem init_of_contains (h : w.contains settingsPath = true) :
    (performCommand w settingsPath (.init false)).code = 1 ∧
      (performCommand w settingsPath (.init false)).workspace = w := by
  have hinit : init w settingsPath false =
      .error ⟨settingsPath ++ " already exists. Use --force to overwrite.", []⟩ := by
    rw [init, h]
    rfl
  rw [performCommand, hinit]
  exact ⟨rfl, rfl⟩

/-- `init` writes the settings file or does nothing. -/
theorem init_changesOnly (w : Workspace) (settingsPath : String) (force : Bool) :
    w.ChangesOnly settingsPath (performCommand w settingsPath (.init force)).workspace := by
  cases hinit : init w settingsPath force with
  | error f =>
    rw [performCommand, hinit, workspace_outcomeOf]
    exact .refl w settingsPath
  | ok left =>
    rw [performCommand, hinit]
    unfold init at hinit
    split at hinit
    · cases hinit
    · exact Workspace.changesOnly_of_writeBytes (mapError_eq_ok_iff.1 hinit)

/-- What the program may change for its arguments.  Wrong use, `validate` and `inspect` change
nothing.  `generate` changes something only with a plan in hand; it fails if its settings or its run
do, and then everything is as before, unless it has failed while writing.  `init` changes the
settings file at most, and not even that if it is there and this is not forced.  A run with a
generator that fails changes nothing either. -/
theorem perform_spares_workspace (w : Workspace) (args : List String) :
    (match Request.ofArguments? args with
      | none | some .version => (perform w args).workspace = w
      | some (.perform _ (.validate _)) => (perform w args).workspace = w
      | some (.perform _ (.inspect _ _)) => (perform w args).workspace = w
      | some (.perform path (.generate overrides)) =>
        ((perform w args).workspace = w ∨
          ∃ s planned, Settings.load w path = .ok s ∧
            (Generation.plan Generation.activities w (overrides.apply s)).result = .ok planned) ∧
        ((perform w args).code ≠ 0 → ∃ e, GenerateFails w path overrides e) ∧
        ∀ e, GenerateFails w path overrides e →
          (perform w args).code = 1 ∧ (e.isOfWriting = false → (perform w args).workspace = w)
      | some (.perform path (.init force)) =>
        w.ChangesOnly path (perform w args).workspace ∧
        (w.contains path = true → force = false →
          (perform w args).code = 1 ∧ (perform w args).workspace = w)) ∧
    ∀ (ε : Type) (generator : Generator ε) (s : Settings) (e : ε),
      (Generation.runWith generator w s).2.result = .error (.inr e) →
        (Generation.runWith generator w s).1 = w := by
  constructor
  · cases hargs : Request.ofArguments? args with
    | none => simp only [perform, hargs]
    | some request =>
      cases request with
      | version => simp only [perform, hargs]
      | perform path command =>
        have hperform : perform w args = performCommand w path command := by
          rw [perform, hargs]
        rw [hperform]
        cases command with
        | validate input => exact workspace_outcomeOf _
        | inspect input format => exact workspace_outcomeOf _
        | generate overrides =>
          exact ⟨generate_plans_first w path overrides, generate_fails_of_code w path overrides,
            fun e he => ⟨generate_code_of_fails he, generate_spares_workspace he⟩⟩
        | init force =>
          refine ⟨init_changesOnly w path force, ?_⟩
          rintro hthere rfl
          exact init_of_contains hthere
  · intro ε generator s e he
    exact Generation.runWith_spares_workspace he fun _ hinl => nomatch hinl

/-- A directory with a settings file and a document. -/
def furnished : Workspace :=
  let blank : Document := ⟨"3.0.3", ⟨"", none, ""⟩, [], none⟩
  ((Workspace.ofDirectory ["home"]).put ["home", ".oact.yaml"]
      (.file "strict_refs: false".toUTF8)).put ["home", "blank.json"]
    (.file blank.write.compact.toUTF8)

def noOverrides : Overrides := ⟨none, none, none, none, none, none, false, false, false⟩

/-- A generator whose template is broken. -/
def brokenTemplate : Generator String := fun _ _ => Logged.ofExcept (.error "broken template")

theorem furnished_generateFails : GenerateFails furnished "other.yaml" noOverrides
    (.run (.inputNotFound "openapi.yaml")) :=
  ⟨Settings.default, by cbv, by cbv⟩

set_option maxRecDepth 5000 in
theorem runWith_brokenTemplate :
    (Generation.runWith brokenTemplate furnished
        { Settings.default with input := "blank.json" }).2.result =
      .error (.inr "broken template") := by cbv

theorem furnished_untouched :
    (GenerateFails furnished "other.yaml" noOverrides (.run (.inputNotFound "openapi.yaml")) ∧
      (perform furnished ["generate", "--config", "other.yaml"]).code = 1 ∧
      (perform furnished ["generate", "--config", "other.yaml"]).workspace = furnished) ∧
    (furnished.contains ".oact.yaml" = true ∧ (perform furnished ["init"]).code = 1 ∧
      (perform furnished ["init"]).workspace = furnished) ∧
    (Generation.runWith brokenTemplate furnished
        { Settings.default with input := "blank.json" }).1 = furnished := by
  have hgenerate := (perform_spares_workspace furnished ["generate", "--config", "other.yaml"]).1
  have hinit := (perform_spares_workspace furnished ["init"]).1
  rw [show Request.ofArguments? ["generate", "--config", "other.yaml"] =
    some (.perform "other.yaml" (.generate noOverrides)) by cbv] at hgenerate
  rw [show Request.ofArguments? ["init"] = some (.perform ".oact.yaml" (.init false)) by cbv]
    at hinit
  obtain ⟨hcode, hworkspace⟩ := hgenerate.2.2 _ furnished_generateFails
  have hthere : furnished.contains ".oact.yaml" = true := by cbv
  exact ⟨⟨furnished_generateFails, hcode, hworkspace rfl⟩, ⟨hthere, hinit.2 hthere rfl⟩,
    (perform_spares_workspace furnished []).2 _ _ _ _ runWith_brokenTemplate⟩

end CommandLine

end ActivityForge
