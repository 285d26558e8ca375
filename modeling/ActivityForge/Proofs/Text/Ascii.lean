import ActivityForge.Text.Words
import Mathlib.Data.List.Basic

/-!
# ASCII texts in upper and lower case

What holds of each of the 128 ASCII characters is settled by looking at them (`forall_isAscii`).
So the cases of an ASCII word are taken character by character (`lowerWord_of_isAscii`,
`upperWord_of_isAscii`), and digits have no case.
-/

namespace ActivityForge.Text

/-! ## Characters -/

theorem forall_isAscii {P : Char → Prop} (h : ∀ n < 128, P (Char.ofNat n)) {c : Char}
    (hc : isAscii c = true) : P c := by
  have hlt : c.toNat < 128 := by simpa [isAscii] using hc
  have hchar : Char.ofNat c.toNat = c := Char.ofNat_toNat c
  exact hchar ▸ h c.toNat hlt

theorem isAscii_of_isDigit {c : Char} (h : c.isDigit = true) : isAscii c = true := by
  simp only [Char.isDigit, Bool.and_eq_true, decide_eq_true_eq, ge_iff_le,
    UInt32.le_iff_toNat_le] at h
  obtain ⟨-, hle : c.toNat ≤ 57⟩ := h
  have hlt : c.toNat < 128 := by omega
  simpa [isAscii] using hlt

theorem isAlphanumeric_of_isDigit {c : Char} (h : c.isDigit = true) : isAlphanumeric c = true := by
  rw [isAlphanumeric, if_pos (isAscii_of_isDigit h)]
  simp [Char.isAlphanum, h]

theorem isUppercase_of_isDigit {c : Char} (h : c.isDigit = true) : isUppercase c = false :=
  forall_isAscii (P := fun c => c.isDigit = true → isUppercase c = false) (by decide)
    (isAscii_of_isDigit h) h

theorem toLower_of_isDigit {c : Char} (h : c.isDigit = true) : c.toLower = c :=
  forall_isAscii (P := fun c => c.isDigit = true → c.toLower = c) (by decide)
    (isAscii_of_isDigit h) h

theorem toUpper_of_isDigit {c : Char} (h : c.isDigit = true) : c.toUpper = c :=
  forall_isAscii (P := fun c => c.isDigit = true → c.toUpper = c) (by decide)
    (isAscii_of_isDigit h) h

section Ascii

variable {c : Char} (hc : isAscii c = true)

include hc

theorem isAscii_toLower : isAscii c.toLower = true :=
  forall_isAscii (P := fun c => isAscii c.toLower = true) (by decide) hc

theorem isAlphanumeric_toLower : isAlphanumeric c.toLower = isAlphanumeric c :=
  forall_isAscii (P := fun c => isAlphanumeric c.toLower = isAlphanumeric c) (by decide) hc

theorem isUppercase_toLower : isUppercase c.toLower = false :=
  forall_isAscii (P := fun c => isUppercase c.toLower = false) (by decide) hc

theorem toLower_toLower : c.toLower.toLower = c.toLower :=
  forall_isAscii (P := fun c => c.toLower.toLower = c.toLower) (by decide) hc

theorem toLower_toUpper : c.toUpper.toLower = c.toLower :=
  forall_isAscii (P := fun c => c.toUpper.toLower = c.toLower) (by decide) hc

theorem isAscii_toUpper : isAscii c.toUpper = true :=
  forall_isAscii (P := fun c => isAscii c.toUpper = true) (by decide) hc

theorem isDigit_toLower : c.toLower.isDigit = c.isDigit :=
  forall_isAscii (P := fun c => c.toLower.isDigit = c.isDigit) (by decide) hc

theorem lower_of_isAscii : lower c = [c.toLower] := if_pos hc

theorem upper_of_isAscii : upper c = [c.toUpper] := if_pos hc

end Ascii

/-! ## Words -/

/-- The capital sigma, whose lower case depends on its place, is no ASCII character. -/
theorem lowerWord_of_isAscii {w : List Char} (h : ∀ c ∈ w, isAscii c = true) :
    lowerWord w = w.map Char.toLower := by
  fun_induction lowerWord w with
  | case1 => rfl
  | case2 => exact absurd (h 'Σ' List.mem_cons_self) (by decide)
  | case3 c => rw [lower_of_isAscii (h c List.mem_cons_self), List.map_singleton]
  | case4 c rest _ ih =>
    rw [List.forall_mem_cons] at h
    rw [lower_of_isAscii h.1, ih h.2, List.map_cons, List.singleton_append]

theorem upperWord_of_isAscii {w : List Char} (h : ∀ c ∈ w, isAscii c = true) :
    upperWord w = w.map Char.toUpper := by
  rw [upperWord, List.map_eq_flatMap]
  exact List.flatMap_congr fun c hc => upper_of_isAscii (h c hc)

end ActivityForge.Text
