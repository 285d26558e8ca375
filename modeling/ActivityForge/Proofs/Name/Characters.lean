import ActivityForge.Proofs.Name.Forms
import ActivityForge.Proofs.Text.CaseMap

/-!
# The characters of names

Whatever text a name is made from, its forms have nothing but characters that may belong to words,
and underscores (`isNameChar_of_mem_memberName`, `isNameChar_of_mem_pascal`,
`isNameChar_of_mem_screaming`).  So no name has a slash, a dot, white space or a mark of the
generated source in it.
-/

namespace ActivityForge.Name

open Text (isAlphanumeric isWordChar words)

/-- A character of a name. -/
def isNameChar (c : Char) : Bool := c = '_' || isWordChar c

theorem isNameChar_of_isWordChar {c : Char} (h : isWordChar c = true) : isNameChar c = true := by
  rw [isNameChar, h, Bool.or_true]

/-- Words with underscores between them, whatever becomes of each word. -/
theorem isNameChar_of_mem_intercalate {cased : List Char → List Char}
    (hcased : ∀ w, (∀ d ∈ w, isAlphanumeric d = true) → ∀ c ∈ cased w, isWordChar c = true)
    {cs : List Char} {c : Char} (h : c ∈ ['_'].intercalate ((words cs).map cased)) :
    isNameChar c = true := by
  rcases mem_intercalate h with h | ⟨w', hw', hc⟩
  · obtain rfl := List.mem_singleton.1 h
    rfl
  · obtain ⟨w, hw, rfl⟩ := List.mem_map.1 hw'
    exact isNameChar_of_isWordChar (hcased w (fun d hd => (Text.mem_of_mem_words hw hd).2) c hc)

theorem isNameChar_of_mem_snake {cs : List Char} {c : Char} (h : c ∈ Text.snake cs) :
    isNameChar c = true :=
  isNameChar_of_mem_intercalate (fun _ hw _ => Text.isWordChar_of_mem_lowerWord hw) h

theorem isNameChar_of_mem_screaming {cs : List Char} {c : Char} (h : c ∈ Text.screaming cs) :
    isNameChar c = true :=
  isNameChar_of_mem_intercalate (fun _ hw _ => Text.isWordChar_of_mem_upperWord hw) h

theorem isWordChar_of_mem_pascalText {cs : List Char} {c : Char} (h : c ∈ Text.pascal cs) :
    isWordChar c = true := by
  obtain ⟨w, hw, hc⟩ := List.mem_flatMap.1 h
  exact Text.isWordChar_of_mem_capitalWord (fun d hd => (Text.mem_of_mem_words hw hd).2) hc

theorem mem_guardDigit {cs : List Char} {c : Char} (h : c ∈ guardDigit cs) : c = '_' ∨ c ∈ cs := by
  cases cs with
  | nil => cases h
  | cons d cs =>
    rw [guardDigit] at h
    split at h
    · exact List.mem_cons.1 h
    · exact Or.inr h

theorem isNameChar_of_mem_pascal {original : String} {c : Char}
    (h : c ∈ (ofText original).pascal.toList) : isNameChar c = true := by
  simp only [ofText, String.toList_ofList] at h
  rcases mem_guardDigit h with rfl | h
  · rfl
  · exact isNameChar_of_isWordChar (isWordChar_of_mem_pascalText h)

theorem isNameChar_of_mem_memberName {text : String} {c : Char}
    (h : c ∈ (memberName text).toList) : isNameChar c = true := by
  simp only [memberName] at h
  split at h
  · exact List.all_eq_true.1 (show "unnamed".toList.all isNameChar = true by decide) c h
  · split at h
    · rw [String.toList_ofList] at h
      rcases List.mem_cons.1 h with rfl | h
      · rfl
      · exact isNameChar_of_mem_snake h
    · rw [String.toList_ofList] at h
      exact isNameChar_of_mem_snake h

theorem memberName_ne_empty (text : String) : memberName text ≠ "" := by
  unfold memberName
  dsimp only
  split
  · decide
  · next hne =>
    split
    · simp
    · simpa using hne

theorem isDigit_head_memberName (text : String) :
    (memberName text).toList.head?.any Char.isDigit = false := by
  unfold memberName
  dsimp only
  split
  · decide
  · split
    · simp
    · next hplain =>
      rw [Bool.or_eq_true, not_or] at hplain
      simpa using hplain.1

theorem not_mem_pascal {c : Char} (hc : isNameChar c = false) (original : String) :
    c ∉ (ofText original).pascal.toList := fun h => by
  rw [isNameChar_of_mem_pascal h] at hc
  cases hc

theorem not_mem_screaming {c : Char} (hc : isNameChar c = false) (original : String) :
    c ∉ (ofText original).screaming.toList := fun h => by
  simp only [ofText, String.toList_ofList] at h
  rcases mem_guardDigit h with rfl | h
  · cases hc
  · rw [isNameChar_of_mem_screaming h] at hc
    cases hc

theorem not_mem_memberName {c : Char} (hc : isNameChar c = false) (text : String) :
    c ∉ (memberName text).toList := fun h => by
  rw [isNameChar_of_mem_memberName h] at hc
  cases hc

end ActivityForge.Name
