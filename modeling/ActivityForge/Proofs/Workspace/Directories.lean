import ActivityForge.Proofs.Workspace.Places

/-!
# Making directories

Making a directory with those above it adds directories where its path and the paths above it lead,
and changes nothing else, whether it succeeds or not (`makes_makeDirectories`).  It succeeds only if
the directory is there in the end (`isThere_of_makeDirectories`), and does nothing if it has been
there before (`makeDirectories_of_isThere`).
-/

namespace ActivityForge.Workspace

variable {w w' w'' : Workspace} {path : String} {paths : List String}

/-- Only directories are added, each where one of the paths leads. -/
structure Makes (paths : List String) (w w' : Workspace) : Prop where
  here : w'.here = w.here
  kept : ∀ l e, w.get? l = some e → w'.get? l = some e
  made : ∀ l e, w'.get? l = some e →
    w.get? l = some e ∨ e = .directory ∧ ∃ p ∈ paths, w'.LeadsTo p l

namespace Makes

theorem grows (h : Makes paths w w') : w.Grows w' := ⟨h.here, fun l => h.kept l .directory⟩

theorem refl (paths : List String) (w : Workspace) : Makes paths w w :=
  ⟨rfl, fun _ _ => id, fun _ _ => Or.inl⟩

theorem trans (h : Makes paths w w') (h' : Makes paths w' w'') : Makes paths w w'' where
  here := h'.here.trans h.here
  kept l e hl := h'.kept l e (h.kept l e hl)
  made l e hl := by
    rcases h'.made l e hl with hl | hmade
    · rcases h.made l e hl with hl | ⟨he, p, hp, hlead⟩
      · exact Or.inl hl
      · exact Or.inr ⟨he, p, hp, h'.grows.leadsTo hlead⟩
    · exact Or.inr hmade

theorem mono {more : List String} (h : Makes paths w w') (hsub : paths ⊆ more) :
    Makes more w w' where
  here := h.here
  kept := h.kept
  made l e hl := (h.made l e hl).imp_right fun ⟨he, p, hp, hlead⟩ => ⟨he, p, hsub hp, hlead⟩

end Makes

/-! ## One directory -/

theorem makeDirectory_eq_ok_iff :
    w.makeDirectory path = .ok w' ↔ ∃ l endsInSlash, w.target path = .ok (.name l endsInSlash) ∧
      w.get? l = none ∧ w' = w.put l .directory := by
  rw [makeDirectory, bind_eq_ok_iff]
  constructor
  · rintro ⟨t, ht, h⟩
    cases t with
    | directory l => cases h
    | name l endsInSlash =>
      simp only at h
      split at h
      · cases h
      · next hnone =>
        exact ⟨l, endsInSlash, ht, by simpa using hnone, (pure_eq_ok_iff.1 h).symm⟩
  · rintro ⟨l, endsInSlash, ht, hnone, rfl⟩
    exact ⟨_, ht, by simp [hnone, pure_eq_ok_iff]⟩

theorem makes_of_makeDirectory (h : w.makeDirectory path = .ok w') : Makes [path] w w' := by
  obtain ⟨l, endsInSlash, ht, hnone, rfl⟩ := makeDirectory_eq_ok_iff.1 h
  have hsame := sameExcept_put w l .directory
  have hother {k : Location} {e : Entry} (hk : w.get? k = some e) : k ≠ l := by
    rintro rfl
    rw [hnone] at hk
    cases hk
  have hgrows : w.Grows (w.put l .directory) :=
    ⟨rfl, fun k hk => (hsame.get? k (hother hk)).trans hk⟩
  refine ⟨rfl, fun k e hk => (hsame.get? k (hother hk)).trans hk, fun k e hk => ?_⟩
  by_cases hkl : k = l
  · subst hkl
    rw [get?_put_self .directory (by simp [hnone])] at hk
    exact Or.inr ⟨(Option.some.inj hk).symm, path, List.mem_singleton_self path,
      _, hgrows.target ht, rfl⟩
  · exact Or.inl ((hsame.get? k hkl).symm.trans hk)

theorem isDirectory_of_makeDirectory (h : w.makeDirectory path = .ok w') :
    w'.isDirectory path = true := by
  have hgrows := (makes_of_makeDirectory h).grows
  obtain ⟨l, endsInSlash, ht, hnone, rfl⟩ := makeDirectory_eq_ok_iff.1 h
  exact isDirectory_iff.2
    (Or.inr ⟨l, endsInSlash, hgrows.target ht, get?_put_self .directory (by simp [hnone])⟩)

theorem makeDirectory_of_isDirectory (h : w.isDirectory path = true) :
    w.makeDirectory path = .error .alreadyThere := by
  rw [makeDirectory]
  obtain ⟨l, ht⟩ | ⟨l, endsInSlash, ht, hthere⟩ := isDirectory_iff.1 h
  · rw [ht]
    rfl
  · rw [ht, ok_bind]
    simp only [hthere, Option.isSome_some, ↓reduceIte]
    rfl

theorem makes_ensureDirectory (w : Workspace) (path : String) :
    Makes [path] w (w.ensureDirectory path).1 := by
  unfold ensureDirectory
  split
  · next made hmade => exact makes_of_makeDirectory hmade
  · exact .refl [path] w

theorem isDirectory_of_ensureDirectory (h : w.ensureDirectory path = (w', .ok ())) :
    w'.isDirectory path = true := by
  unfold ensureDirectory at h
  split at h
  · next made hmade =>
    obtain rfl := (Prod.mk.inj h).1
    exact isDirectory_of_makeDirectory hmade
  · by_cases hthere : w.isDirectory path = true
    · exact (Prod.mk.inj h).1 ▸ hthere
    · simp [hthere] at h

theorem ensureDirectory_of_isDirectory (h : w.isDirectory path = true) :
    w.ensureDirectory path = (w, .ok ()) := by
  simp only [ensureDirectory, makeDirectory_of_isDirectory h, h, ↓reduceIte]

/-! ## A directory with those above it -/

theorem makes_ensureAll (w : Workspace) (paths : List String) :
    Makes paths w (w.ensureAll paths).1 := by
  induction paths with
  | nil => exact .refl [] w
  | cons path above ih =>
    have hpath {w : Workspace} : Makes (path :: above) w (w.ensureDirectory path).1 :=
      (makes_ensureDirectory w path).mono (by simp)
    have habove := ih.mono (List.subset_cons_self path above)
    rw [ensureAll]
    split
    · exact .refl _ w
    · split
      · split
        · next made _ hall =>
          rw [hall] at habove
          exact habove
        · next made hall =>
          rw [hall] at habove
          exact habove.trans hpath
      · exact hpath

/-- The path names a directory that is there; the empty path names the one that paths start
from. -/
def IsThere (w : Workspace) (path : String) : Prop :=
  path.isEmpty = true ∨ w.isDirectory path = true

theorem IsThere.of_grows (h : w.IsThere path) (hgrows : w.Grows w') : w'.IsThere path :=
  h.imp_right hgrows.isDirectory

theorem isThere_of_ensureAll {above : List String}
    (h : w.ensureAll (path :: above) = (w', .ok ())) : w'.IsThere path := by
  rw [ensureAll] at h
  split at h
  · next hempty => exact Or.inl hempty
  · refine Or.inr ?_
    split at h
    · split at h
      · cases h
      · exact isDirectory_of_ensureDirectory h
    · exact isDirectory_of_ensureDirectory h

theorem ensureAll_of_isThere {above : List String} (h : w.IsThere path) :
    w.ensureAll (path :: above) = (w, .ok ()) := by
  rw [ensureAll]
  split
  · rfl
  · next hempty =>
    have hthere := h.resolve_left hempty
    simp only [makeDirectory_of_isDirectory hthere, ensureDirectory_of_isDirectory hthere]

theorem makes_makeDirectories (w : Workspace) (path : String) :
    Makes (Path.ancestors path) w (w.makeDirectories path).1 :=
  makes_ensureAll w _

theorem isThere_of_makeDirectories (h : w.makeDirectories path = (w', .ok ())) :
    w'.IsThere path :=
  isThere_of_ensureAll h

theorem makeDirectories_of_isThere (h : w.IsThere path) :
    w.makeDirectories path = (w, .ok ()) :=
  ensureAll_of_isThere h

end ActivityForge.Workspace
