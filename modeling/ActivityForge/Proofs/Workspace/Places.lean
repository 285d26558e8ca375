import ActivityForge.Proofs.Path
import ActivityForge.Proofs.Workspace.Frame

/-!
# Where paths lead

A path leads to a location (`LeadsTo`), whatever is there, and it still leads there after the
workspace has grown, that is, while no directory is removed (`Grows.leadsTo`).  A path that descends
inside a directory leads below the location of the directory, along its own pieces (`target_join`),
so different such paths never lead to the same location (`eq_of_leadsTo_join`).
-/

namespace ActivityForge.Workspace

open ActivityForge.Path (Descends Steps isAbsolute join pieces pieces_injective steps steps_join
  wayInto)

variable {w w' : Workspace} {path : String}

/-! ## Following a path -/

/-- Where a path ends if the directories on its way lead to a location. -/
def endOf (steps : Steps) (l : Location) : Except Fault Target :=
  match steps.last with
  | none => pure (.directory l)
  | some name =>
    if name = ".." then pure (.directory l.dropLast)
    else if name.utf8ByteSize > 255 then throw .nameTooLong
    else pure (.name (l ++ [name]) steps.endsInSlash)

/-- The path has a form in which paths are looked up at all. -/
def Followable (path : String) : Prop :=
  ¬path.isEmpty ∧ ¬path.contains '\x00' ∧ ¬path.utf8ByteSize ≥ 4096

/-- The location that the way of a path starts from. -/
def origin (w : Workspace) (fromRoot : Bool) : Location := if fromRoot then [] else w.here

theorem target_eq_ok_iff {t : Target} :
    w.target path = .ok t ↔ Followable path ∧ ∃ l,
      (steps path).way.foldlM w.enter (w.origin (steps path).fromRoot) = .ok l ∧
        endOf (steps path) l = .ok t := by
  rw [← bind_eq_ok_iff]
  unfold target
  by_cases hempty : path.isEmpty
  · rw [if_pos hempty]
    exact iff_of_false nofun fun h => h.1.1 hempty
  rw [if_neg hempty]
  by_cases hnul : path.contains '\x00'
  · rw [if_pos hnul]
    exact iff_of_false nofun fun h => h.1.2.1 hnul
  rw [if_neg hnul]
  by_cases hlong : path.utf8ByteSize ≥ 4096
  · rw [if_pos hlong]
    exact iff_of_false nofun fun h => h.1.2.2 hlong
  rw [if_neg hlong]
  exact ⟨fun h => ⟨⟨hempty, hnul, hlong⟩, h⟩, fun h => h.2⟩

theorem enter_eq_ok_iff {l l' : Location} {name : String} (hname : name ≠ "..") :
    w.enter l name = .ok l' ↔ name.utf8ByteSize ≤ 255 ∧
      w.get? (l ++ [name]) = some .directory ∧ l' = l ++ [name] := by
  unfold enter
  rw [if_neg hname]
  by_cases hlong : name.utf8ByteSize > 255
  · rw [if_pos hlong]
    exact iff_of_false nofun fun h => absurd h.1 (by omega)
  · rw [if_neg hlong]
    split
    · next hthere => simp [hthere, Nat.not_lt.1 hlong, eq_comm]
    · next hfile => simp [hfile]
    · next hnone => simp [hnone]

/-- Names lead down, one after the other. -/
theorem eq_append_of_foldlM_enter {names : List String} {l l' : Location}
    (hnames : ∀ name ∈ names, name ≠ "..") (h : names.foldlM w.enter l = .ok l') :
    l' = l ++ names := by
  induction names generalizing l with
  | nil =>
    rw [List.foldlM_nil, pure_eq_ok_iff] at h
    simp [h]
  | cons name names ih =>
    rw [List.forall_mem_cons] at hnames
    rw [List.foldlM_cons, bind_eq_ok_iff] at h
    obtain ⟨next, hnext, h⟩ := h
    obtain ⟨-, -, rfl⟩ := (enter_eq_ok_iff hnames.1).1 hnext
    simp [ih hnames.2 h]

/-- A path that descends inside a directory leads to its own pieces below the directory. -/
theorem target_join {directory : String} {t : Target} (hpath : Descends path)
    (h : w.target (join directory path) = .ok t) :
    ∃ l, (wayInto directory).foldlM w.enter (w.origin (isAbsolute directory)) = .ok l ∧
      t = .name (l ++ pieces path) false := by
  obtain ⟨way, name, hpieces, hsteps⟩ := steps_join directory hpath
  rw [Descends, hpieces, List.forall_mem_append, List.forall_mem_singleton] at hpath
  obtain ⟨-, l', hway, hend⟩ := target_eq_ok_iff.1 h
  rw [hsteps, List.foldlM_append, bind_eq_ok_iff] at hway
  obtain ⟨l, hl, hway⟩ := hway
  obtain rfl := eq_append_of_foldlM_enter (fun p hp => (hpath.1 p hp).2.2) hway
  refine ⟨l, hl, ?_⟩
  rw [hsteps] at hend
  simp only [endOf, if_neg hpath.2.2.2] at hend
  split at hend
  · cases hend
  · rw [pure_eq_ok_iff] at hend
    rw [← hend, hpieces, List.append_assoc]

/-! ## Locations -/

def Target.location : Target → Location
  | directory l => l
  | name l _ => l

/-- The path leads to the location, whatever is there. -/
def LeadsTo (w : Workspace) (path : String) (l : Location) : Prop :=
  ∃ t, w.target path = .ok t ∧ t.location = l

/-- Inside a directory, different paths that descend lead to different locations. -/
theorem eq_of_leadsTo_join {directory p q : String} {l : Location} (hp : Descends p)
    (hq : Descends q) (hpl : w.LeadsTo (join directory p) l)
    (hql : w.LeadsTo (join directory q) l) : p = q := by
  obtain ⟨t, ht, hl⟩ := hpl
  obtain ⟨t', ht', hl'⟩ := hql
  obtain ⟨base, hbase, rfl⟩ := target_join hp ht
  obtain ⟨base', hbase', rfl⟩ := target_join hq ht'
  obtain rfl : base = base' := Except.ok.inj (hbase.symm.trans hbase')
  exact pieces_injective (List.append_cancel_left (hl.trans hl'.symm))

/-- A file is found at a name that leads to it. -/
theorem find_eq_file_iff {content : ByteArray} :
    w.find path = .ok (.file content) ↔
      ∃ l, w.target path = .ok (.name l false) ∧ w.get? l = some (.file content) := by
  rw [find, bind_eq_ok_iff]
  constructor
  · rintro ⟨t, ht, h⟩
    cases t with
    | directory l => cases h
    | name l endsInSlash =>
      simp only at h
      split at h
      · cases h
      · next hfile =>
        split at h
        · cases h
        · next hplain =>
          obtain rfl := Entry.file.inj (Except.ok.inj h)
          exact ⟨l, by simpa [hplain] using ht, hfile⟩
      · cases h
  · rintro ⟨l, ht, hfile⟩
    refine ⟨_, ht, ?_⟩
    simp only [hfile, Bool.false_eq_true, ↓reduceIte]
    rfl

/-- A directory is found where it is on the way, or at a name that leads to it. -/
theorem isDirectory_iff :
    w.isDirectory path = true ↔ (∃ l, w.target path = .ok (.directory l)) ∨
      ∃ l endsInSlash, w.target path = .ok (.name l endsInSlash) ∧
        w.get? l = some .directory := by
  have hfind : w.isDirectory path = true ↔ w.find path = .ok .directory := by
    unfold isDirectory
    split <;> simp_all
  rw [hfind, find, bind_eq_ok_iff]
  constructor
  · rintro ⟨t, ht, h⟩
    cases t with
    | directory l => exact Or.inl ⟨l, ht⟩
    | name l endsInSlash =>
      simp only at h
      split at h
      · cases h
      · split at h <;> cases h
      · next hthere => exact Or.inr ⟨l, endsInSlash, ht, hthere⟩
  · rintro (⟨l, ht⟩ | ⟨l, endsInSlash, ht, hthere⟩)
    · exact ⟨_, ht, rfl⟩
    · refine ⟨_, ht, ?_⟩
      simp only [hthere]
      rfl

/-! ## Growing workspaces -/

/-- No directory is removed. -/
structure Grows (w w' : Workspace) : Prop where
  here : w'.here = w.here
  directory : ∀ l, w.get? l = some .directory → w'.get? l = some .directory

namespace Grows

variable (h : w.Grows w')

include h

theorem enter {l l' : Location} {name : String} (hl : w.enter l name = .ok l') :
    w'.enter l name = .ok l' := by
  by_cases hup : name = ".."
  · rw [Workspace.enter, if_pos hup] at hl ⊢
    exact hl
  · rw [enter_eq_ok_iff hup] at hl ⊢
    exact ⟨hl.1, h.directory _ hl.2.1, hl.2.2⟩

theorem foldlM_enter {names : List String} {l l' : Location}
    (hl : names.foldlM w.enter l = .ok l') : names.foldlM w'.enter l = .ok l' := by
  induction names generalizing l with
  | nil => exact hl
  | cons name names ih =>
    rw [List.foldlM_cons, bind_eq_ok_iff] at hl ⊢
    obtain ⟨next, hnext, hl⟩ := hl
    exact ⟨next, h.enter hnext, ih hl⟩

theorem target {t : Target} (ht : w.target path = .ok t) : w'.target path = .ok t := by
  rw [target_eq_ok_iff] at ht ⊢
  obtain ⟨hpath, l, hway, hend⟩ := ht
  rw [origin, ← h.here] at hway
  exact ⟨hpath, l, h.foldlM_enter hway, hend⟩

theorem leadsTo {l : Location} (hl : w.LeadsTo path l) : w'.LeadsTo path l := by
  obtain ⟨t, ht, rfl⟩ := hl
  exact ⟨t, h.target ht, rfl⟩

theorem isDirectory (hpath : w.isDirectory path = true) : w'.isDirectory path = true := by
  rw [isDirectory_iff] at hpath ⊢
  obtain ⟨l, ht⟩ | ⟨l, endsInSlash, ht, hthere⟩ := hpath
  · exact Or.inl ⟨l, h.target ht⟩
  · exact Or.inr ⟨l, endsInSlash, h.target ht, h.directory l hthere⟩

end Grows

end ActivityForge.Workspace
