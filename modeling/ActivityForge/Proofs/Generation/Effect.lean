import ActivityForge.Proofs.CommandLine.Untouched
import ActivityForge.Proofs.Source.Inside
import ActivityForge.Proofs.Workspace.Directories

/-!
# What a run writes

A run that gets as far as writing puts the artifacts where their paths lead inside the output
directory, one after the other, and stops at the first that cannot be written.  `Wrote` says what
has become of the workspace when some artifacts have been written: each path holds the last content
for it; all other files are as before; no directory is gone, and new ones are only where they are
needed.  It holds of all artifacts when a run succeeds, and of those before the failure when it
fails (`run_effect`).
-/

namespace ActivityForge.Generation

open ActivityForge.Path (Descends)
open Source (Artifact)

/-- Where an artifact is written. -/
def placeOf (output : String) (a : Artifact) : String := Path.join output a.path

/-- The directory that an artifact is written into. -/
def directoryOf (output : String) (a : Artifact) : String :=
  (Path.parent? (placeOf output a)).getD ""

/-- The output directory, the directories of artifacts, and those above them. -/
def directoriesOf (output : String) (artifacts : List Artifact) : List String :=
  Path.ancestors output ++ artifacts.flatMap fun a => Path.ancestors (directoryOf output a)

theorem ancestors_subset_directoriesOf {output : String} {artifacts : List Artifact} {a : Artifact}
    (ha : a ∈ artifacts) :
    Path.ancestors (directoryOf output a) ⊆ directoriesOf output artifacts :=
  fun _ hp => List.mem_append_right _ (List.mem_flatMap.2 ⟨a, ha, hp⟩)

/-- The content of the last artifact with a path. -/
def lastContent? (artifacts : List Artifact) (path : String) : Option String :=
  (artifacts.reverse.find? fun a => a.path = path).map (·.content)

theorem lastContent?_append (first second : List Artifact) (path : String) :
    lastContent? (first ++ second) path =
      (lastContent? second path).or (lastContent? first path) := by
  simp [lastContent?, List.find?_append, Option.map_or]

theorem lastContent?_isSome {artifacts : List Artifact} {path : String} :
    (lastContent? artifacts path).isSome ↔ ∃ a ∈ artifacts, a.path = path := by
  simp [lastContent?]

/-- The artifacts have been written into the output directory, and directories have been made at
some paths at most. -/
structure Wrote (output : String) (directories : List String) (artifacts : List Artifact)
    (w left : Workspace) : Prop where
  here : left.here = w.here
  /-- Each path holds what has been written to it last. -/
  contents : ∀ path content, lastContent? artifacts path = some content →
    left.find (Path.join output path) = .ok (.file content.toUTF8)
  /-- No other file is created, changed or removed. -/
  files : ∀ l, (∀ a ∈ artifacts, ¬left.LeadsTo (placeOf output a) l) →
    ∀ content, left.get? l = some (.file content) ↔ w.get? l = some (.file content)
  /-- No directory is removed. -/
  kept : ∀ l, w.get? l = some .directory → left.get? l = some .directory
  /-- A directory is new only where one of the paths leads. -/
  made : ∀ l, left.get? l = some .directory →
    w.get? l = some .directory ∨ ∃ p ∈ directories, left.LeadsTo p l
  /-- The directories of the artifacts are there. -/
  there : ∀ a ∈ artifacts, left.IsThere (directoryOf output a)

variable {output : String} {directories : List String} {w made left : Workspace}

/-! ## Compositions -/

namespace Wrote

theorem grows {artifacts : List Artifact} (h : Wrote output directories artifacts w left) :
    w.Grows left :=
  ⟨h.here, h.kept⟩

theorem nil (output : String) (directories : List String) (w : Workspace) :
    Wrote output directories [] w w where
  here := rfl
  contents _ _ h := nomatch h
  files _ _ _ := Iff.rfl
  kept _ := id
  made _ := Or.inl
  there _ ha := nomatch ha

/-- Directories are made before artifacts are written. -/
theorem after_makes {artifacts : List Artifact}
    (h : Wrote output directories artifacts made left) (hmade : w.Makes directories made) :
    Wrote output directories artifacts w left where
  here := h.here.trans hmade.here
  contents := h.contents
  files l hl content := by
    rw [h.files l hl]
    refine ⟨fun hfile => ?_, hmade.kept l _⟩
    obtain hfile | ⟨hdirectory, -⟩ := hmade.made l _ hfile
    · exact hfile
    · cases hdirectory
  kept l hl := h.kept l (hmade.kept l _ hl)
  made l hl := by
    obtain hl | hnew := h.made l hl
    · exact (hmade.made l _ hl).imp_right fun ⟨_, p, hp, hlead⟩ => ⟨p, hp, h.grows.leadsTo hlead⟩
    · exact Or.inr hnew
  there := h.there

theorem of_makes (h : w.Makes directories left) : Wrote output directories [] w left :=
  (nil output directories left).after_makes h

/-- One artifact is written where its path leads. -/
theorem of_write {a : Artifact} (hthere : w.IsThere (directoryOf output a))
    (h : w.write (placeOf output a) a.content = .ok left) :
    Wrote output directories [a] w left := by
  obtain ⟨l, ht, hplain, rfl⟩ := Workspace.writeBytes_eq_ok_iff.1 h
  have hsame := Workspace.sameExcept_put w l (.file a.content.toUTF8)
  have hwritten := Workspace.get?_put_self (.file a.content.toUTF8) hplain
  have hdirectory {k : Location} :
      (w.put l (.file a.content.toUTF8)).get? k = some .directory ↔
        w.get? k = some .directory := by
    by_cases hk : k = l
    · subst hk
      rw [hwritten]
      exact iff_of_false nofun hplain
    · rw [hsame.get? k hk]
  have hgrows : w.Grows (w.put l (.file a.content.toUTF8)) := ⟨rfl, fun k => hdirectory.2⟩
  refine ⟨rfl, fun path content hlast => ?_, fun k hk content => ?_, fun k => hdirectory.2,
    fun k hk => Or.inl (hdirectory.1 hk), ?_⟩
  · obtain ⟨rfl, rfl⟩ : a.path = path ∧ a.content = content := by
      simpa [lastContent?, List.find?_singleton] using hlast
    exact Workspace.find_eq_file_iff.2 ⟨l, hgrows.target ht, hwritten⟩
  · have hkl : k ≠ l := by
      rintro rfl
      exact hk a (List.mem_singleton_self a) ⟨_, hgrows.target ht, rfl⟩
    rw [hsame.get? k hkl]
  · rw [List.forall_mem_singleton]
    exact hthere.of_grows hgrows

/-- Artifacts are written after others.  Where paths differ, so do their locations, and what has
been written first stays. -/
theorem append {first second : List Artifact}
    (hpaths : ∀ a ∈ first ++ second, Descends a.path)
    (h : Wrote output directories first w made) (h' : Wrote output directories second made left) :
    Wrote output directories (first ++ second) w left where
  here := h'.here.trans h.here
  contents path content hlast := by
    rw [lastContent?_append, Option.or_eq_some_iff] at hlast
    obtain hsecond | ⟨hnone, hfirst⟩ := hlast
    · exact h'.contents path content hsecond
    obtain ⟨l, ht, hfile⟩ := Workspace.find_eq_file_iff.1 (h.contents path content hfirst)
    obtain ⟨a, ha, rfl⟩ := lastContent?_isSome.1 (Option.isSome_of_eq_some hfirst)
    have hlead := h'.grows.target ht
    refine Workspace.find_eq_file_iff.2
      ⟨l, hlead, (h'.files l (fun b hb hlead' => ?_) _).2 hfile⟩
    have hpath : b.path = a.path := Workspace.eq_of_leadsTo_join
      (hpaths b (List.mem_append_right first hb)) (hpaths a (List.mem_append_left second ha))
      hlead' ⟨_, hlead, rfl⟩
    have hlater := lastContent?_isSome.2 ⟨b, hb, hpath⟩
    rw [hnone] at hlater
    cases hlater
  files l hl content := by
    rw [List.forall_mem_append] at hl
    rw [h'.files l hl.2 content]
    exact h.files l (fun a ha hlead => hl.1 a ha (h'.grows.leadsTo hlead)) content
  kept l hl := h'.kept l (h.kept l hl)
  made l hl := by
    rcases h'.made l hl with hl | hmade
    · exact (h.made l hl).imp_right fun ⟨p, hp, hlead⟩ => ⟨p, hp, h'.grows.leadsTo hlead⟩
    · exact Or.inr hmade
  there := List.forall_mem_append.2 ⟨fun a ha => (h.there a ha).of_grows h'.grows, h'.there⟩

end Wrote

/-! ## One artifact -/

-- Comparing both sides would make the directories.
attribute [local irreducible] Workspace.makeDirectories in
theorem writeArtifact_eq (output : String) (a : Artifact) (w : Workspace) :
    writeArtifact output a w =
      match w.makeDirectories (directoryOf output a) with
      | (made, .error f) => (made, .error (.noDirectory (directoryOf output a) f))
      | (made, .ok ()) =>
        match made.write (placeOf output a) a.content with
        | .error f => (made, .error (.notWritten (placeOf output a) f))
        | .ok left => (left, .ok (placeOf output a)) := by
  rfl

section

variable {a : Artifact} (hdirectories : Path.ancestors (directoryOf output a) ⊆ directories)

include hdirectories

theorem wrote_of_writeArtifact_eq_ok {path : String}
    (h : writeArtifact output a w = (left, .ok path)) :
    path = placeOf output a ∧ Wrote output directories [a] w left := by
  have hmade := (Workspace.makes_makeDirectories w (directoryOf output a)).mono hdirectories
  rw [writeArtifact_eq] at h
  split at h
  · cases h
  · next made hmake =>
    rw [hmake] at hmade
    split at h
    · cases h
    · next written hwrite =>
      obtain ⟨rfl, hpath⟩ := Prod.mk.inj h
      have hthere := Workspace.isThere_of_makeDirectories hmake
      exact ⟨(Except.ok.inj hpath).symm, (Wrote.of_write hthere hwrite).after_makes hmade⟩

theorem wrote_of_writeArtifact_eq_error {e : Error}
    (h : writeArtifact output a w = (left, .error e)) : Wrote output directories [] w left := by
  have hmade := (Workspace.makes_makeDirectories w (directoryOf output a)).mono hdirectories
  rw [writeArtifact_eq] at h
  split at h
  · next made f hmake =>
    rw [hmake] at hmade
    exact (Prod.mk.inj h).1 ▸ .of_makes hmade
  · next made hmake =>
    rw [hmake] at hmade
    split at h
    · exact (Prod.mk.inj h).1 ▸ .of_makes hmade
    · cases h

end

/-! ## All artifacts -/

/-- What writing artifacts makes of a workspace, by the result. -/
inductive Effect (output : String) (directories : List String) (artifacts : List Artifact)
    (w left : Workspace) : Except Error (List String) → Prop
  /-- All artifacts have been written. -/
  | all (wrote : Wrote output directories artifacts w left) :
    Effect output directories artifacts w left (.ok (artifacts.map (placeOf output)))
  /-- The artifacts before one that cannot be written have been. -/
  | stopped {e : Error} (k : Nat) (before : k < artifacts.length)
    (wrote : Wrote output directories (artifacts.take k) w left) :
    Effect output directories artifacts w left (.error e)

theorem Effect.after_makes {artifacts : List Artifact} {result : Except Error (List String)}
    (h : Effect output directories artifacts made left result)
    (hmade : w.Makes directories made) :
    Effect output directories artifacts w left result := by
  cases h with
  | all wrote => exact .all (wrote.after_makes hmade)
  | stopped k before wrote => exact .stopped k before (wrote.after_makes hmade)

theorem effect_writeAll {artifacts : List Artifact} (hpaths : ∀ a ∈ artifacts, Descends a.path)
    (hdirectories : ∀ a ∈ artifacts, Path.ancestors (directoryOf output a) ⊆ directories)
    (w : Workspace) : Effect output directories artifacts w (writeAll output artifacts w).1
      (writeAll output artifacts w).2.result := by
  induction artifacts generalizing w with
  | nil => exact .all (.nil output directories w)
  | cons a rest ih =>
    obtain ⟨ha, hrest⟩ := List.forall_mem_cons.1 hdirectories
    rw [writeAll_cons]
    split
    · next left e hwrite =>
      exact .stopped 0 (Nat.succ_pos _) (wrote_of_writeArtifact_eq_error ha hwrite)
    · next made path hwrite =>
      obtain ⟨rfl, hfirst⟩ := wrote_of_writeArtifact_eq_ok ha hwrite
      specialize ih (List.forall_mem_cons.1 hpaths).2 hrest made
      simp only [Logged.result_bind, Logged.result_note, ok_bind]
      generalize (writeAll output rest made).2.result = result at ih ⊢
      cases ih with
      | all wrote => exact .all (hfirst.append hpaths wrote)
      | stopped k before wrote =>
        refine .stopped (k + 1) (Nat.succ_lt_succ before)
          (hfirst.append (fun b hb => hpaths b ?_) wrote)
        exact List.take_subset (k + 1) (a :: rest) hb

theorem effect_writeOutput (output : String) {artifacts : List Artifact}
    (hnonempty : artifacts ≠ []) (hpaths : ∀ a ∈ artifacts, Descends a.path) (w : Workspace) :
    Effect output (directoriesOf output artifacts) artifacts w (writeOutput output artifacts w).1
      (writeOutput output artifacts w).2.result := by
  have hmade := (Workspace.makes_makeDirectories w output).mono
    (List.subset_append_left (Path.ancestors output)
      (artifacts.flatMap fun a => Path.ancestors (directoryOf output a)))
  unfold writeOutput
  split
  · next made f hmake =>
    rw [hmake] at hmade
    exact .stopped 0 (List.length_pos_iff.2 hnonempty) (.of_makes hmade)
  · next made hmake =>
    rw [hmake] at hmade
    exact (effect_writeAll hpaths (fun _ => ancestors_subset_directoriesOf) made).after_makes hmade

/-! ## Runs -/

section

variable {w : Workspace} {s : Settings} {b : Blueprint} {artifacts : List Artifact}

/-- The generator of activities never fails. -/
theorem plan_eq_ok_iff : (plan activities w s).result = .ok (b, artifacts) ↔
    (load w s.input s.options).result = .ok b ∧ artifacts = Source.generate b s := by
  have hmake (b : Blueprint) : (activities b s).result = .ok (Source.generate b s) := rfl
  simp only [plan, Logged.result_bind, Logged.result_mapError, Logged.result_note,
    Logged.result_pure, ok_bind, hmake, bind_eq_ok_iff, mapError_eq_ok_iff]
  constructor
  · rintro ⟨b', hb, artifacts', hartifacts, h⟩
    cases h
    exact ⟨hb, (Except.ok.inj hartifacts).symm⟩
  · rintro ⟨hb, rfl⟩
    exact ⟨b, hb, _, rfl, rfl⟩

/-- Loading fails before anything is written. -/
theorem isOfWriting_of_load {path : String} {o : Options} {e : Error}
    (h : (load w path o).result = .error e) : e.isOfWriting = false := by
  rw [load, Logged.result_bind, Logged.result_ofExcept, bind_eq_error_iff] at h
  obtain h | ⟨text, -, h⟩ := h
  · unfold readInput at h
    split at h
    · cases h
      rfl
    · obtain ⟨f, -, rfl⟩ := mapError_eq_error_iff.1 h
      rfl
  · obtain ⟨cause, -, rfl⟩ := mapError_eq_error_iff.1 h
    rfl

/-- A run that succeeds or stops while it writes has a plan. -/
theorem exists_plan_of_run (h : ∀ e, (run w s).2.result = .error e → e.isOfWriting = true) :
    ∃ b, (plan activities w s).result = .ok (b, Source.generate b s) := by
  cases hload : (load w s.input s.options).result with
  | ok b => exact ⟨b, plan_eq_ok_iff.2 ⟨hload, rfl⟩⟩
  | error e =>
    have hplan : (plan activities w s).result = .error (.inl e) := by
      rw [plan, Logged.result_bind, Logged.result_mapError, hload]
      rfl
    have hrun : (run w s).2.result = .error e := by
      rw [run, runWith_of_plan_error hplan]
      rfl
    have hwriting := h e hrun
    rw [isOfWriting_of_load hload] at hwriting
    cases hwriting

/-- A run with a plan writes the artifacts. -/
theorem run_of_plan (h : (plan activities w s).result = .ok (b, artifacts)) :
    (run w s).1 = (writeOutput s.output artifacts w).1 ∧
      (run w s).2.result = (writeOutput s.output artifacts w).2.result.map fun paths =>
        ⟨paths, b.activities.length, b.models.length⟩ := by
  simp only [run, runWith, h]
  refine ⟨trivial, ?_⟩
  simp only [Logged.result_mapError, Logged.result_bind, Logged.result_note, ok_bind]
  cases (writeOutput s.output artifacts w).2.result with
  | ok paths => rfl
  | error e => rfl

/-- A run whose plan is made writes all artifacts and reports them, or stops while it writes. -/
theorem run_effect (h : (plan activities w s).result = .ok (b, artifacts)) :
    match (run w s).2.result with
    | .ok report =>
      report = ⟨artifacts.map (placeOf s.output), b.activities.length, b.models.length⟩ ∧
        Wrote s.output (directoriesOf s.output artifacts) artifacts w (run w s).1
    | .error e => e.isOfWriting = true ∧ ∃ k < artifacts.length,
        Wrote s.output (directoriesOf s.output artifacts) (artifacts.take k) w (run w s).1 := by
  obtain ⟨-, rfl⟩ := plan_eq_ok_iff.1 h
  have hwritten := effect_writeOutput s.output (Source.generate_ne_nil b s)
    (Source.descends_of_mem_generate b s) w
  obtain ⟨hleft, hresult⟩ := run_of_plan h
  have hwriting := @isOfWriting_writeOutput s.output (Source.generate b s) w
  rw [hleft, hresult]
  generalize (writeOutput s.output (Source.generate b s) w).2.result = result at hwritten hwriting ⊢
  cases hwritten with
  | all wrote => exact ⟨rfl, wrote⟩
  | stopped k before wrote => exact ⟨hwriting rfl, k, before, wrote⟩

end

open CommandLine (furnished)

/-- The blueprint of a document with nothing in it. -/
def bare : Blueprint := ⟨⟨"", none, ""⟩, [], []⟩

/-- Settings under which the document of `furnished`, which has nothing in it, is written out beside
it. -/
def besides : Settings :=
  { Settings.default with
    input := "blank.json", output := "", contractName := "A", generateImplementation := false }

set_option maxRecDepth 5000 in
theorem plan_furnished :
    (plan activities furnished besides).result = .ok (bare, Source.generate bare besides) :=
  plan_eq_ok_iff.2 ⟨by cbv, rfl⟩

theorem run_furnished_effect :
    (plan activities furnished besides).result = .ok (bare, Source.generate bare besides) ∧
      match (run furnished besides).2.result with
      | .ok report => report = ⟨(Source.generate bare besides).map (placeOf ""), 0, 0⟩ ∧
          Wrote "" (directoriesOf "" (Source.generate bare besides))
            (Source.generate bare besides) furnished (run furnished besides).1
      | .error e => e.isOfWriting = true ∧ ∃ k < (Source.generate bare besides).length,
          Wrote "" (directoriesOf "" (Source.generate bare besides))
            ((Source.generate bare besides).take k) furnished (run furnished besides).1 :=
  ⟨plan_furnished, run_effect plan_furnished⟩

end ActivityForge.Generation
