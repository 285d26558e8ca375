import ActivityForge.Proofs.Traversal
import ActivityForge.Workspace.Change

/-!
# What a change leaves alone

Writing a file changes what is at the location that its path leads to, and nothing else
(`changesOnly_of_writeBytes`).
-/

namespace ActivityForge.Workspace

/-- The workspaces differ at most in what is at the location. -/
structure SameExcept (l : Location) (w w' : Workspace) : Prop where
  here : w'.here = w.here
  get? : ∀ k, k ≠ l → w'.get? k = w.get? k

theorem sameExcept_put (w : Workspace) (l : Location) (e : Entry) :
    SameExcept l w (w.put l e) where
  here := rfl
  get? k hk := by
    by_cases hroot : k = []
    · simp [hroot, Workspace.get?]
    · rw [get?_put w l e k hroot, if_neg hk]

/-- What is put at a location is there; the root stays a directory. -/
theorem get?_put_self {w : Workspace} {l : Location} (e : Entry)
    (h : w.get? l ≠ some .directory) : (w.put l e).get? l = some e := by
  have hroot : l ≠ [] := by
    rintro rfl
    exact h rfl
  rw [get?_put w l e l hroot, if_pos rfl]

/-- The workspaces are the same, or differ at most in what is at the name that the path leads
to. -/
def ChangesOnly (w : Workspace) (path : String) (w' : Workspace) : Prop :=
  w' = w ∨ ∃ l, w.target path = .ok (.name l false) ∧ SameExcept l w w'

theorem ChangesOnly.refl (w : Workspace) (path : String) : w.ChangesOnly path w := Or.inl rfl

theorem any_isDirectory_iff {e : Option Entry} :
    e.any Entry.isDirectory = true ↔ e = some .directory := by
  rcases e with - | - | -
  all_goals simp [Entry.isDirectory]

/-- A file is written at a name that does not lead to a directory. -/
theorem writeBytes_eq_ok_iff {w w' : Workspace} {path : String} {content : ByteArray} :
    w.writeBytes path content = .ok w' ↔ ∃ l, w.target path = .ok (.name l false) ∧
      w.get? l ≠ some .directory ∧ w' = w.put l (.file content) := by
  rw [writeBytes, bind_eq_ok_iff]
  constructor
  · rintro ⟨t, ht, h⟩
    cases t with
    | directory l => cases h
    | name l endsInSlash =>
      simp only at h
      split at h
      · cases h
      · next hplain =>
        rw [Bool.or_eq_true, any_isDirectory_iff, not_or, Bool.not_eq_true] at hplain
        exact ⟨l, hplain.1 ▸ ht, hplain.2, (pure_eq_ok_iff.1 h).symm⟩
  · rintro ⟨l, ht, hplain, rfl⟩
    exact ⟨_, ht, if_neg (by rwa [Bool.false_or, any_isDirectory_iff])⟩

theorem changesOnly_of_writeBytes {w w' : Workspace} {path : String} {content : ByteArray}
    (h : w.writeBytes path content = .ok w') : w.ChangesOnly path w' := by
  obtain ⟨l, ht, -, rfl⟩ := writeBytes_eq_ok_iff.1 h
  exact Or.inr ⟨l, ht, sameExcept_put w l _⟩

end ActivityForge.Workspace
