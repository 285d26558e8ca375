import ActivityForge.Proofs.Name.Legal
import ActivityForge.Proofs.Name.Pascal

/-!
# Names of types

The name of a type is an ASCII name in Pascal case.  It is a word that starts with a capital letter
or an underscore, and all keywords but one start with a small letter.  So it is one that a type may
have, unless it is `Self`, which is what becomes of the names whose snake case form is `self`
(`isTypeName_pascal_iff`).
-/

namespace ActivityForge

/-- A name that a type may have in the generated language, as far as it is ASCII; unlike those of
members, names of types are not written behind `r#`. -/
structure IsTypeName (text : String) : Prop where
  word : IsWord Char.isAlpha text
  free : text ∉ keywords

namespace Name

open Text (isAlphanumeric isAscii words)

/-! ## Characters -/

section Word

variable {w : List Char} (hascii : ∀ c ∈ w, isAscii c = true)
  (halnum : ∀ c ∈ w, isAlphanumeric c = true)

include hascii halnum

theorem isAlpha_of_mem_capitalWord {c : Char} (h : c ∈ Text.capitalWord w) :
    c.isAlpha = true ∨ c.isDigit = true := by
  have hupper {d : Char} (hd : d ∈ w) : d.toUpper.isAlpha = true ∨ d.toUpper.isDigit = true :=
    Text.forall_isAscii (P := fun d => isAlphanumeric d = true →
      d.toUpper.isAlpha = true ∨ d.toUpper.isDigit = true) (by decide) (hascii d hd) (halnum d hd)
  have hlower {d : Char} (hd : d ∈ w) : d.toLower.isAlpha = true ∨ d.toLower.isDigit = true :=
    Text.forall_isAscii (P := fun d => isAlphanumeric d = true →
      d.toLower.isAlpha = true ∨ d.toLower.isDigit = true) (by decide) (hascii d hd) (halnum d hd)
  cases w with
  | nil => cases h
  | cons d rest =>
    rw [Text.capitalWord_of_isAscii hascii] at h
    rcases List.mem_cons.1 h with rfl | h
    · exact hupper List.mem_cons_self
    · obtain ⟨e, he, rfl⟩ := List.mem_map.1 h
      exact hlower (List.mem_cons_of_mem d he)

omit halnum in
theorem isLower_head_capitalWord (rest : List Char) (hne : w ≠ []) :
    (Text.capitalWord w ++ rest).head?.any Char.isLower = false := by
  obtain ⟨c, tail, rfl⟩ := List.exists_cons_of_ne_nil hne
  rw [Text.capitalWord_of_isAscii hascii]
  exact Text.forall_isAscii (P := fun c => c.toUpper.isLower = false) (by decide)
    (hascii c List.mem_cons_self)

end Word

section Ascii

variable {cs : List Char} (hcs : ∀ c ∈ cs, isAscii c = true)

include hcs

theorem isAlpha_of_mem_pascal {c : Char} (h : c ∈ Text.pascal cs) :
    c.isAlpha = true ∨ c.isDigit = true := by
  obtain ⟨w, hw, hc⟩ := List.mem_flatMap.1 h
  exact isAlpha_of_mem_capitalWord (fun d hd => hcs d (Text.mem_of_mem_words hw hd).1)
    (fun d hd => (Text.mem_of_mem_words hw hd).2) hc

/-- A name in Pascal case does not start with a small letter. -/
theorem isLower_head_guardDigit :
    (guardDigit (Text.pascal cs)).head?.any Char.isLower = false := by
  have hhead : (Text.pascal cs).head?.any Char.isLower = false := by
    rw [Text.pascal]
    cases hws : words cs with
    | nil => rfl
    | cons w ws =>
      have hw : w ∈ words cs := hws ▸ List.mem_cons_self
      rw [List.flatMap_cons]
      exact isLower_head_capitalWord (fun d hd => hcs d (Text.mem_of_mem_words hw hd).1) _
        (Text.ne_nil_of_mem_words hw)
  cases hpascal : Text.pascal cs with
  | nil => rfl
  | cons c rest =>
    rw [guardDigit]
    split
    · rfl
    · rwa [← hpascal]

end Ascii

/-! ## The keyword among the names of types -/

/-- Nothing but underscores gets lost. -/
theorem mem_joinDigits {cs : List Char} {c : Char} (hc : c ≠ '_') (h : c ∈ cs) :
    c ∈ joinDigits cs := by
  induction cs with
  | nil => cases h
  | cons d cs ih =>
    rw [joinDigits]
    rcases List.mem_cons.1 h with rfl | h
    · rw [if_neg (by simp [hc])]
      exact List.mem_cons_self
    · split
      · exact ih h
      · exact List.mem_cons_of_mem d (ih h)

theorem joinDigits_of_not_isDigit {cs : List Char} (h : ∀ c ∈ cs, c.isDigit = false) :
    joinDigits cs = cs := by
  induction cs with
  | nil => rfl
  | cons c cs ih =>
    rw [List.forall_mem_cons] at h
    have hnext : cs.head?.any Char.isDigit = false := by
      cases cs with
      | nil => rfl
      | cons d cs => exact h.2 d List.mem_cons_self
    rw [joinDigits, if_neg (by simp [hnext]), ih h.2]

theorem joinDigits_eq_iff {cs ds : List Char} (hds : ∀ c ∈ ds, c.isDigit = false) :
    joinDigits cs = ds ↔ cs = ds := by
  constructor
  · intro h
    have hcs : ∀ c ∈ cs, c.isDigit = false := by
      intro c hc
      by_cases hunderscore : c = '_'
      · rw [hunderscore]
        decide
      · exact hds c (h ▸ mem_joinDigits hunderscore hc)
    rw [← h, joinDigits_of_not_isDigit hcs]
  · rintro rfl
    exact joinDigits_of_not_isDigit hds

section AsciiText

variable {text : String} (h : IsAsciiText text)

include h

theorem pascal_eq_self_iff : (ofText text).pascal = "Self" ↔ (ofText text).snake = "self" := by
  have hself : IsAsciiText "self" := List.all_eq_true.1 (by decide)
  have hpascal : (ofText "self").pascal = "Self" := by decide
  have hsnake : joinDigits (ofText "self").snake.toList = "self".toList := by decide
  have hdigits : ∀ c ∈ "self".toList, c.isDigit = false := by simp
  rw [← hpascal, pascal_eq_iff h hself, hsnake, joinDigits_eq_iff hdigits, String.toList_inj]

theorem isWord_pascal : IsWord Char.isAlpha (ofText text).pascal := by
  have hcs : ∀ c ∈ sanitized text.toList, isAscii c = true := isAscii_sanitized h
  have hne : Text.pascal (sanitized text.toList) ≠ [] := fun hnil =>
    words_sanitized_ne_nil text.toList (Text.words_eq_nil (Text.pascal_eq_nil_iff.1 hnil))
  have hunderscore : (Text.pascal (sanitized text.toList)).head? ≠ some '_' := fun hhead =>
    Text.underscore_not_mem_pascal _ (List.mem_of_head? hhead)
  exact isWord_guardDigit (fun _ hc => (isAlpha_of_mem_pascal hcs hc).imp_right Or.inl) hne
    hunderscore

/-- The name in Pascal case may be that of a type, unless it is the keyword with a capital. -/
theorem isTypeName_pascal_iff : IsTypeName (ofText text).pascal ↔ (ofText text).snake ≠ "self" := by
  have hkeywords : ∀ keyword ∈ keywords,
      keyword = "Self" ∨ keyword.toList.head?.any Char.isLower = true := by
    decide +kernel
  have hhead : (ofText text).pascal.toList.head?.any Char.isLower = false := by
    simp only [ofText, String.toList_ofList]
    exact isLower_head_guardDigit (isAscii_sanitized h)
  rw [ne_eq, ← pascal_eq_self_iff h]
  constructor
  · intro htype hself
    exact htype.free (by rw [hself]; decide)
  · intro hother
    refine ⟨isWord_pascal h, fun hmem => ?_⟩
    rcases hkeywords _ hmem with hself | hlower
    · exact hother hself
    · rw [hhead] at hlower
      cases hlower

end AsciiText

end Name

end ActivityForge
