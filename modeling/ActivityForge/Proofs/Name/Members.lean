import ActivityForge.Proofs.Name.Characters

/-!
# Names of members

The name of a member is the snake case form of a text, or `unnamed` (`memberStem`), behind an
underscore if it would start with a digit or be a reserved word (`memberName_eq`).  No stem starts
with an underscore, so the stem can be had back from the name (`dropWhile_guardReserved`).
-/

namespace ActivityForge.Name

theorem head?_snake_ne_underscore (cs : List Char) : (Text.snake cs).head? ≠ some '_' := by
  rw [Text.snake]
  cases hwords : Text.words cs with
  | nil => simp
  | cons w ws =>
    have hw : w ∈ Text.words cs := hwords ▸ List.mem_cons_self
    obtain ⟨c, rest, hlower⟩ : ∃ c rest, Text.lowerWord w = c :: rest :=
      List.exists_cons_of_ne_nil (Text.lowerWord_ne_nil (Text.ne_nil_of_mem_words hw))
    have hword : Text.isWordChar c = true :=
      Text.isWordChar_of_mem_lowerWord (fun d hd => (Text.mem_of_mem_words hw hd).2)
        (hlower ▸ List.mem_cons_self)
    have hhead : (['_'].intercalate ((w :: ws).map Text.lowerWord)).head? = some c := by
      rw [List.map_cons, hlower]
      cases ws with
      | nil => simp
      | cons v ws => simp [List.intercalate_cons_cons]
    rw [hhead, ne_eq, Option.some.injEq]
    rintro rfl
    exact absurd hword (by decide)

/-- The name of a member before it is kept from being a reserved word or starting with a digit. -/
def memberStem (text : String) : List Char :=
  if (Text.snake text.toList).isEmpty then "unnamed".toList else Text.snake text.toList

def guardReserved (cs : List Char) : List Char :=
  if cs.head?.any Char.isDigit || reservedWords.contains (String.ofList cs) then '_' :: cs else cs

theorem memberName_eq (text : String) :
    memberName text = String.ofList (guardReserved (memberStem text)) := by
  unfold memberName memberStem guardReserved
  dsimp only
  split
  · decide
  · split <;> rfl

theorem head?_memberStem_ne_underscore (text : String) : (memberStem text).head? ≠ some '_' := by
  unfold memberStem
  split
  · decide
  · exact head?_snake_ne_underscore text.toList

/-- What guards a name can be taken away again. -/
theorem dropWhile_guardReserved {cs : List Char} (h : cs.head? ≠ some '_') :
    (guardReserved cs).dropWhile (· = '_') = cs := by
  have hkept : cs.dropWhile (· = '_') = cs := by
    cases cs with
    | nil => rfl
    | cons c cs =>
      have hc : c ≠ '_' := by simpa using h
      exact List.dropWhile_cons_of_neg (by simpa using hc)
  unfold guardReserved
  split
  · simpa using hkept
  · exact hkept

end ActivityForge.Name
