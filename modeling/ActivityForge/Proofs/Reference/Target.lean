import ActivityForge.Document.Reference

/-!
# Where references point

A reference names a component of a section exactly if it is the reference to that component
(`targetName_eq_ok_iff`).  `Faulty` says why a reference names no declared component, without the
steps of the reader: it has not the form of a reference at all, it names another section, or the
component is not declared (`faulty_iff`).
-/

namespace ActivityForge.Document

variable {α : Type} {s : Section}

/-! ## Cutting a text -/

theorem dropStart?_append (start rest : List Char) :
    dropStart? start (start ++ rest) = some rest := by
  induction start with
  | nil => rfl
  | cons c start ih => simpa [dropStart?] using ih

theorem cutAt?_append {sep : Char} {a : List Char} (h : sep ∉ a) (b : List Char) :
    cutAt? sep (a ++ sep :: b) = some (a, b) := by
  induction a with
  | nil => simp [cutAt?]
  | cons c a ih =>
    rw [List.mem_cons, not_or] at h
    simp [cutAt?, Ne.symm h.1, ih h.2]

theorem not_mem_of_cutAt? {sep : Char} {cs a b : List Char} (h : cutAt? sep cs = some (a, b)) :
    sep ∉ a := by
  induction cs generalizing a with
  | nil => simp [cutAt?] at h
  | cons c cs ih =>
    simp only [cutAt?] at h
    split at h
    · obtain ⟨rfl, -⟩ := Prod.mk.inj (Option.some.inj h)
      simp
    · next hc =>
      obtain ⟨⟨a', b'⟩, hab, he⟩ := Option.map_eq_some_iff.1 h
      obtain ⟨rfl, rfl⟩ := Prod.mk.inj he
      rw [List.mem_cons, not_or]
      exact ⟨Ne.symm hc, ih hab⟩

theorem cutAt?_eq_none {sep : Char} {cs : List Char} (h : cutAt? sep cs = none) : sep ∉ cs := by
  induction cs with
  | nil => simp
  | cons c cs ih =>
    simp only [cutAt?] at h
    split at h
    · simp at h
    · next hc =>
      rw [List.mem_cons, not_or]
      exact ⟨Ne.symm hc, ih (Option.map_eq_none_iff.1 h)⟩

/-! ## Names of components -/

theorem Section.slash_not_mem_text (s : Section) : '/' ∉ s.text.toList := by
  cases s <;> decide

theorem targetName_reference (s : Section) (name : String) :
    targetName s (s.reference name) = .ok name := by
  have hcut : (dropStart? Section.root (s.reference name).toList).bind (cutAt? '/') =
      some (s.text.toList, name.toList) := by
    rw [Section.reference, String.toList_ofList, Section.referenceChars, dropStart?_append]
    exact cutAt?_append s.slash_not_mem_text _
  simp [targetName, hcut]

theorem targetName_eq_ok_iff {target name : String} :
    targetName s target = .ok name ↔ target = s.reference name :=
  ⟨eq_reference_of_targetName, fun h => h ▸ targetName_reference s name⟩

theorem Section.reference_injective (s : Section) : Function.Injective s.reference := by
  intro a b h
  have := targetName_reference s a
  rw [h, targetName_reference] at this
  exact (Except.ok.inj this).symm

/-- Why a reference names no declared component of the section. -/
inductive Faulty (s : Section) (declared : List String) (target : String) : ReferenceError → Prop
  /-- It has not the form of a reference to a component. -/
  | malformed (h : ∀ found name, target.toList ≠ Section.root ++ (found ++ '/' :: name)) :
      Faulty s declared target (.malformed target)
  | wrongSection {found name : List Char}
      (h : target.toList = Section.root ++ (found ++ '/' :: name))
      (plain : '/' ∉ found) (other : String.ofList found ≠ s.text) :
      Faulty s declared target (.wrongSection s (String.ofList found) target)
  | notFound {name : String} (h : target = s.reference name) (missing : name ∉ declared) :
      Faulty s declared target (.notFound target)

theorem faulty_of_targetName {declared : List String} {target : String} {e : ReferenceError}
    (h : targetName s target = .error e) : Faulty s declared target e := by
  simp only [targetName] at h
  split at h
  · next hnone =>
    obtain rfl := Except.error.inj h
    refine .malformed fun found name htarget => ?_
    rw [htarget, dropStart?_append, Option.bind_some] at hnone
    exact cutAt?_eq_none hnone (by simp)
  · next found name hsome =>
    split at h
    · simp at h
    · next hother =>
      obtain rfl := Except.error.inj h
      obtain ⟨mid, hmid, hcut⟩ := Option.bind_eq_some_iff.1 hsome
      have htarget := dropStart?_eq_some hmid
      rw [cutAt?_eq_some hcut] at htarget
      exact .wrongSection htarget (not_mem_of_cutAt? hcut) hother

/-- The reader of references finds the fault, or else a name that is not declared. -/
theorem faulty_iff {declared : List String} {target : String} {e : ReferenceError} :
    Faulty s declared target e ↔ targetName s target = .error e ∨
      ∃ name, targetName s target = .ok name ∧ name ∉ declared ∧ e = .notFound target := by
  constructor
  · intro h
    cases h with
    | malformed hform =>
      left
      simp only [targetName]
      split
      · rfl
      · next found name hsome =>
        obtain ⟨mid, hmid, hcut⟩ := Option.bind_eq_some_iff.1 hsome
        have htarget := dropStart?_eq_some hmid
        rw [cutAt?_eq_some hcut] at htarget
        exact absurd htarget (hform _ _)
    | wrongSection htarget plain other =>
      left
      simp [targetName, htarget, dropStart?_append, cutAt?_append plain, other]
    | notFound htarget missing =>
      exact Or.inr ⟨_, targetName_eq_ok_iff.2 htarget, missing, rfl⟩
  · rintro (h | ⟨name, hname, missing, rfl⟩)
    · exact faulty_of_targetName h
    · exact .notFound (targetName_eq_ok_iff.1 hname) missing

/-- The reference to a declared component is not at fault. -/
theorem not_faulty_reference {declared : List String} {name : String} {e : ReferenceError}
    (h : name ∈ declared) : ¬ Faulty s declared (s.reference name) e := by
  rw [faulty_iff, targetName_reference]
  rintro (he | ⟨other, hother, missing, -⟩)
  · simp at he
  · exact missing (Except.ok.inj hother ▸ h)

/-- The form of a reference is at fault exactly if it is no reference to the section. -/
theorem Faulty.missing?_eq_none_iff_forall {declared : List String} {target : String}
    {e : ReferenceError} (h : Faulty s declared target e) :
    e.missing? = none ↔ ∀ name, target ≠ s.reference name := by
  have hform (h' : targetName s target = .error e) : ∀ name, target ≠ s.reference name := by
    rintro name rfl
    rw [targetName_reference] at h'
    cases h'
  cases h with
  | malformed hno =>
    refine iff_of_true rfl (hform ?_)
    have hfault : Faulty s declared target (.malformed target) := .malformed hno
    exact (faulty_iff.1 hfault).resolve_right (by simp)
  | wrongSection htarget plain other =>
    refine iff_of_true rfl (hform ?_)
    have hfault : Faulty s declared target _ := .wrongSection htarget plain other
    exact (faulty_iff.1 hfault).resolve_right (by simp)
  | notFound htarget missing => exact iff_of_false (Option.some_ne_none target) fun h => h _ htarget

end ActivityForge.Document
