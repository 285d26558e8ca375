import ActivityForge.Proofs.Generation.Effect

/-!
# Runs that are repeated

A run that succeeds leaves everything in place for another one: the directories are there, and the
places of the artifacts are files, which can be written again (`writable_of_wrote`).  Writing
artifacts where they can be written makes no directory (`wrote_of_writable`), and what is written
over last is what was there.  So a repeated run changes nothing, as long as the first has not
written over the document (`run_again`).
-/

namespace ActivityForge.Generation

open ActivityForge.Path (Descends)
open Source (Artifact)

variable {output : String} {directories : List String} {artifacts : List Artifact} {a : Artifact}
  {w left again : Workspace}

/-! ## Writing into what is there -/

/-- The directory of the artifact is there, and its path leads to a name for a file. -/
structure Writable (output : String) (w : Workspace) (a : Artifact) : Prop where
  there : w.IsThere (directoryOf output a)
  name : ∃ l, w.target (placeOf output a) = .ok (.name l false) ∧ w.get? l ≠ some .directory

/-- What can be written can also be written after other artifacts have been, in so far as no
directory has been made. -/
theorem Writable.of_wrote (h : Writable output w a) (hwrote : Wrote output [] artifacts w left) :
    Writable output left a where
  there := h.there.of_grows hwrote.grows
  name := by
    obtain ⟨l, ht, hplain⟩ := h.name
    refine ⟨l, hwrote.grows.target ht, fun hl => ?_⟩
    obtain hl | ⟨p, hp, -⟩ := hwrote.made l hl
    · exact hplain hl
    · cases hp

/-- Artifacts that have been written can be written again. -/
theorem writable_of_wrote (h : Wrote output directories artifacts w left) (ha : a ∈ artifacts) :
    Writable output left a where
  there := h.there a ha
  name := by
    obtain ⟨content, hlast⟩ := Option.isSome_iff_exists.1 (lastContent?_isSome.2 ⟨a, ha, rfl⟩)
    obtain ⟨l, ht, hfile⟩ := Workspace.find_eq_file_iff.1 (h.contents a.path content hlast)
    refine ⟨l, ht, ?_⟩
    rw [hfile]
    nofun

theorem writeArtifact_of_writable (h : Writable output w a) :
    ∃ left, writeArtifact output a w = (left, .ok (placeOf output a)) ∧
      Wrote output [] [a] w left := by
  obtain ⟨l, ht, hplain⟩ := h.name
  have hwrite : w.write (placeOf output a) a.content = .ok (w.put l (.file a.content.toUTF8)) :=
    Workspace.writeBytes_eq_ok_iff.2 ⟨l, ht, hplain, rfl⟩
  refine ⟨_, ?_, .of_write h.there hwrite⟩
  rw [writeArtifact_eq, Workspace.makeDirectories_of_isThere h.there]
  simp only [hwrite]

/-- Artifacts that can be written are all written, and no directory is made. -/
theorem wrote_of_writable (hpaths : ∀ a ∈ artifacts, Descends a.path)
    (h : ∀ a ∈ artifacts, Writable output w a) :
    (writeAll output artifacts w).2.result = .ok (artifacts.map (placeOf output)) ∧
      Wrote output [] artifacts w (writeAll output artifacts w).1 := by
  induction artifacts generalizing w with
  | nil => exact ⟨rfl, .nil output [] w⟩
  | cons a rest ih =>
    obtain ⟨ha, hrest⟩ := List.forall_mem_cons.1 h
    obtain ⟨made, hwrite, hfirst⟩ := writeArtifact_of_writable ha
    obtain ⟨hresult, hwrote⟩ := ih (List.forall_mem_cons.1 hpaths).2
      fun b hb => (hrest b hb).of_wrote hfirst
    rw [writeAll_cons, hwrite]
    refine ⟨?_, hfirst.append hpaths hwrote⟩
    simp only [Logged.result_bind, Logged.result_note, ok_bind, hresult]
    rfl

theorem writeOutput_of_isThere (h : w.IsThere output) :
    writeOutput output artifacts w = writeAll output artifacts w := by
  rw [writeOutput, Workspace.makeDirectories_of_isThere h]

/-- The output directory is there after artifacts have been written into it. -/
theorem isThere_of_writeOutput {paths : List String} (hpaths : ∀ a ∈ artifacts, Descends a.path)
    (h : (writeOutput output artifacts w).2.result = .ok paths) :
    (writeOutput output artifacts w).1.IsThere output := by
  unfold writeOutput at h ⊢
  split at h
  · cases h
  · next made hmake =>
    have hall : Effect output _ artifacts made _ (writeAll output artifacts made).2.result :=
      effect_writeAll hpaths (fun _ => ancestors_subset_directoriesOf) made
    rw [h] at hall
    cases hall with
    | all wrote => exact (Workspace.isThere_of_makeDirectories hmake).of_grows wrote.grows

/-- Where the same artifacts are written a second time, nothing changes. -/
theorem Wrote.get?_eq (h : Wrote output directories artifacts w left)
    (h' : Wrote output [] artifacts left again) (l : Location) : again.get? l = left.get? l := by
  by_cases hl : ∃ a ∈ artifacts, again.LeadsTo (placeOf output a) l
  · obtain ⟨a, ha, t, ht, rfl⟩ := hl
    obtain ⟨content, hlast⟩ := Option.isSome_iff_exists.1 (lastContent?_isSome.2 ⟨a, ha, rfl⟩)
    obtain ⟨k, hk, hfile⟩ := Workspace.find_eq_file_iff.1 (h.contents a.path content hlast)
    obtain ⟨k', hk', hfile'⟩ := Workspace.find_eq_file_iff.1 (h'.contents a.path content hlast)
    obtain rfl : t = .name k false := Except.ok.inj (ht.symm.trans (h'.grows.target hk))
    obtain rfl : k = k' := (Workspace.Target.name.inj (Except.ok.inj (ht.symm.trans hk'))).1
    exact hfile'.trans hfile.symm
  · push Not at hl
    refine Option.ext fun e => ?_
    cases e with
    | file content => exact h'.files l hl content
    | directory =>
      refine ⟨fun hthere => (h'.made l hthere).resolve_right ?_, h'.kept l⟩
      rintro ⟨p, hp, -⟩
      cases hp

/-! ## Reading the document again -/

theorem exists_file_of_load {path : String} {o : Options} {b : Blueprint}
    (h : (load w path o).result = .ok b) : ∃ content, w.find path = .ok (.file content) := by
  rw [load, Logged.result_bind, Logged.result_ofExcept, bind_eq_ok_iff] at h
  obtain ⟨text, htext, -⟩ := h
  rw [readInput] at htext
  split at htext
  · cases htext
  · next hfile =>
    rw [Bool.not_eq_true, Bool.not_eq_false', Workspace.isFile] at hfile
    split at hfile
    · next content hfind => exact ⟨content, hfind⟩
    · cases hfile

/-- Loading looks at nothing but the document. -/
theorem load_congr {path : String} (h : left.find path = w.find path) (o : Options) :
    load left path o = load w path o := by
  have hread : readInput left path = readInput w path := by
    unfold readInput Workspace.isFile Workspace.read
    rw [h]
  rw [load, load, hread]

/-- A file that no path of an artifact leads to is found as before. -/
theorem Wrote.find_eq (h : Wrote output directories artifacts w left) {path : String}
    {content : ByteArray} (hpath : w.find path = .ok (.file content))
    (hother : ∀ a ∈ artifacts, ∀ l, left.LeadsTo (placeOf output a) l → ¬left.LeadsTo path l) :
    left.find path = w.find path := by
  rw [hpath]
  obtain ⟨l, ht, hfile⟩ := Workspace.find_eq_file_iff.1 hpath
  have hlead := h.grows.target ht
  refine Workspace.find_eq_file_iff.2 ⟨l, hlead, (h.files l (fun a ha hl => ?_) _).2 hfile⟩
  exact hother a ha l hl ⟨_, hlead, rfl⟩

/-- The plan is the same as long as the document has not been written over. -/
theorem plan_again {s : Settings} {b : Blueprint}
    (hplan : (plan activities w s).result = .ok (b, Source.generate b s))
    (h : Wrote output directories artifacts w left)
    (hother : ∀ a ∈ artifacts, ∀ l,
      left.LeadsTo (placeOf output a) l → ¬left.LeadsTo s.input l) :
    (plan activities left s).result = .ok (b, Source.generate b s) := by
  have hload := (plan_eq_ok_iff.1 hplan).1
  obtain ⟨content, hfind⟩ := exists_file_of_load hload
  exact plan_eq_ok_iff.2 ⟨by rw [load_congr (h.find_eq hfind hother), hload], rfl⟩

/-! ## Runs -/

/-- A run that succeeds has written the artifacts of its plan, and the output directory is there. -/
theorem exists_wrote_of_run {s : Settings} {report : Report}
    (h : (run w s).2.result = .ok report) :
    ∃ b, (plan activities w s).result = .ok (b, Source.generate b s) ∧
      report = ⟨(Source.generate b s).map (placeOf s.output), b.activities.length,
        b.models.length⟩ ∧
      Wrote s.output (directoriesOf s.output (Source.generate b s)) (Source.generate b s) w
        (run w s).1 ∧
      (run w s).1.IsThere s.output := by
  obtain ⟨b, hplan⟩ := exists_plan_of_run fun e he => nomatch h.symm.trans he
  obtain ⟨hleft, hresult⟩ := run_of_plan hplan
  rw [hresult, map_eq_ok_iff] at h
  obtain ⟨paths, hpaths, rfl⟩ := h
  have hdescends := Source.descends_of_mem_generate b s
  have hthere := isThere_of_writeOutput hdescends hpaths
  have heffect := effect_writeOutput s.output (Source.generate_ne_nil b s) hdescends w
  rw [hpaths] at heffect
  rw [hleft]
  cases heffect with
  | all wrote => exact ⟨b, hplan, rfl, wrote, hthere⟩

/-- A run that has succeeded without writing over its document can be repeated: it succeeds with the
same report, and everything stays as it is. -/
theorem run_again {s : Settings} {report : Report} (h : (run w s).2.result = .ok report)
    (hinput : ∀ p ∈ report.written,
      ¬∃ l, (run w s).1.LeadsTo p l ∧ (run w s).1.LeadsTo s.input l) :
    (run (run w s).1 s).2.result = .ok report ∧
      (run (run w s).1 s).1.here = (run w s).1.here ∧
      ∀ l, (run (run w s).1 s).1.get? l = (run w s).1.get? l := by
  obtain ⟨b, hplan, rfl, hwrote, hthere⟩ := exists_wrote_of_run h
  generalize (run w s).1 = left at *
  have hplan' := plan_again hplan hwrote fun a ha l hl hl' =>
    hinput _ (List.mem_map_of_mem ha) ⟨l, hl, hl'⟩
  obtain ⟨hleft, hresult⟩ := run_of_plan hplan'
  rw [writeOutput_of_isThere hthere] at hleft hresult
  -- Everything can be written where it has been written.
  obtain ⟨hpaths, hwrote'⟩ := wrote_of_writable (Source.descends_of_mem_generate b s)
    fun a => writable_of_wrote hwrote
  rw [hresult, hleft, hpaths]
  exact ⟨rfl, hwrote'.here, hwrote.get?_eq hwrote'⟩

open CommandLine (furnished)

theorem places_bare : (Source.generate bare besides).map (placeOf "") = ["a.rs", "mod.rs"] := by
  decide +kernel

theorem writable_furnished : ∀ a ∈ Source.generate bare besides, Writable "" furnished a := by
  have hplaces : ∀ p ∈ ["a.rs", "mod.rs"], (Path.parent? p).getD "" = "" ∧
      furnished.target p = .ok (.name ["home", p] false) ∧ furnished.get? ["home", p] = none := by
    rw [List.forall_mem_cons, List.forall_mem_singleton]
    exact ⟨⟨by decide +kernel, by cbv, by cbv⟩, by decide +kernel, by cbv, by cbv⟩
  rw [← places_bare, List.forall_mem_map] at hplaces
  intro a ha
  obtain ⟨hdirectory, ht, hnone⟩ := hplaces a ha
  refine ⟨Or.inl ?_, _, ht, by simp [hnone]⟩
  rw [directoryOf, hdirectory]
  rfl

theorem run_furnished :
    (run furnished besides).2.result = .ok ⟨["a.rs", "mod.rs"], 0, 0⟩ := by
  have hwrote := wrote_of_writable (Source.descends_of_mem_generate bare besides)
    writable_furnished
  rw [(run_of_plan plan_furnished).2, writeOutput_of_isThere (Or.inl rfl),
    show besides.output = "" from rfl, hwrote.1, places_bare]
  rfl

theorem run_furnished_again :
    (run furnished besides).2.result = .ok ⟨["a.rs", "mod.rs"], 0, 0⟩ ∧
      (run (run furnished besides).1 besides).2.result = .ok ⟨["a.rs", "mod.rs"], 0, 0⟩ ∧
      (run (run furnished besides).1 besides).1.here = (run furnished besides).1.here ∧
      ∀ l, (run (run furnished besides).1 besides).1.get? l = (run furnished besides).1.get? l := by
  refine ⟨run_furnished, run_again run_furnished ?_⟩
  have hjoin (p : String) : Path.join "" p = p := by simp [Path.join]
  have hdescends : Descends "blank.json" := Path.descends_of_length (by decide) (by decide)
  rintro p hp ⟨l, hl, hinput⟩
  have hpath : p ∈ ["a.rs", "mod.rs"] := hp
  rw [← places_bare] at hpath
  obtain ⟨a, ha, rfl⟩ := List.mem_map.1 hpath
  have hsame : a.path = "blank.json" := by
    refine Workspace.eq_of_leadsTo_join (Source.descends_of_mem_generate bare besides a ha)
      hdescends hl ?_
    rw [hjoin]
    exact hinput
  rw [placeOf, hjoin, hsame] at hp
  revert hp
  decide

end ActivityForge.Generation
