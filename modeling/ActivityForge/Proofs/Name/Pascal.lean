import ActivityForge.Proofs.Name.Characters

/-!
# Names in Pascal case

In Pascal case the words of a name stand next to each other.  A name behind further words has
another form in Pascal case (`pascal_behind_iff`); but where words begin can be seen by capital
letters only, so of an ASCII name it is lost whether a digit begins a word.  Two ASCII names have
the same form in Pascal case if and only if their forms in snake case are the same without the
underscores in front of digits (`pascal_eq_iff`).
-/

namespace ActivityForge

namespace Text

theorem pascal_append_separator (cs ds : List Char) {sep : Char}
    (hsep : isAlphanumeric sep = false) : pascal (cs ++ sep :: ds) = pascal cs ++ pascal ds := by
  rw [pascal, words_append_separator cs ds hsep, List.flatMap_append, pascal, pascal]

theorem pascal_eq_nil_iff {cs : List Char} :
    pascal cs = [] ↔ ∀ c ∈ cs, isAlphanumeric c = false := by
  rw [pascal, List.flatMap_eq_nil_iff]
  constructor
  · intro h
    by_contra hsome
    push Not at hsome
    obtain ⟨w, ws, hws⟩ := List.exists_cons_of_ne_nil (words_ne_nil (by simpa using hsome))
    have hw : w ∈ words cs := hws ▸ List.mem_cons_self
    exact capitalWord_ne_nil (ne_nil_of_mem_words hw) (h w hw)
  · intro h w hw
    obtain ⟨c, rest, rfl⟩ := List.exists_cons_of_ne_nil (ne_nil_of_mem_words hw)
    obtain ⟨hmem, halnum⟩ := mem_of_mem_words hw List.mem_cons_self
    rw [h c hmem] at halnum
    cases halnum

theorem underscore_not_mem_pascal (cs : List Char) : '_' ∉ pascal cs := fun h => by
  have hword := Name.isWordChar_of_mem_pascalText h
  exact absurd hword (by decide)

theorem capitalWord_of_isAscii {c : Char} {rest : List Char}
    (h : ∀ d ∈ c :: rest, isAscii d = true) :
    capitalWord (c :: rest) = c.toUpper :: rest.map Char.toLower := by
  rw [List.forall_mem_cons] at h
  rw [capitalWord, upper_of_isAscii h.1, lowerWord_of_isAscii h.2, List.singleton_append]

end Text

namespace Name

open Text (isAlphanumeric isAscii words)

/-- The guard can be told from what it guards. -/
theorem guardDigit_inj {cs ds : List Char} (hcs : '_' ∉ cs) (hds : '_' ∉ ds)
    (h : guardDigit cs = guardDigit ds) : cs = ds := by
  have hunguarded {cs : List Char} (hcs : '_' ∉ cs) :
      (guardDigit cs).filter (fun c => c ≠ '_') = cs := by
    have hall : cs.filter (fun c => c ≠ '_') = cs :=
      List.filter_eq_self.2 fun c hc => by simpa using fun heq : c = '_' => hcs (heq ▸ hc)
    cases cs with
    | nil => rfl
    | cons c cs =>
      rw [guardDigit]
      split
      · rw [List.filter_cons_of_neg (by simp), hall]
      · exact hall
  rw [← hunguarded hcs, h, hunguarded hds]

/-! ## Names behind further words -/

section Words

variable {text : String}

theorem pascal_ofText_of_words (h : ∃ c ∈ text.toList, isAlphanumeric c = true) :
    (ofText text).pascal = String.ofList (guardDigit (Text.pascal text.toList)) := by
  simp only [ofText, Text.pascal, words_sanitized h]

theorem pascal_ofText_of_separators (h : ∀ c ∈ text.toList, isAlphanumeric c = false) :
    (ofText text).pascal = "Unnamed" := by
  simp only [ofText, sanitized_of_separators h]
  decide

/-- What stands behind a separator has the form of the whole if and only if there is no word in
front of it, or else none behind it, and the whole looks like a name without words. -/
theorem pascal_behind_iff {before : List Char} {sep : Char} {rest : String}
    (hsep : isAlphanumeric sep = false) (htext : text.toList = before ++ sep :: rest.toList) :
    (ofText rest).pascal = (ofText text).pascal ↔
      (∀ c ∈ before, isAlphanumeric c = false) ∨
        ((∀ c ∈ rest.toList, isAlphanumeric c = false) ∧ (ofText text).pascal = "Unnamed") := by
  by_cases hrest : ∀ c ∈ rest.toList, isAlphanumeric c = false
  · rw [pascal_ofText_of_separators hrest]
    constructor
    · exact fun h => Or.inr ⟨hrest, h.symm⟩
    · rintro (hbefore | ⟨-, h⟩)
      · refine (pascal_ofText_of_separators ?_).symm
        rw [htext, List.forall_mem_append, List.forall_mem_cons]
        exact ⟨hbefore, hsep, hrest⟩
      · exact h.symm
  · have hsome : ∃ c ∈ rest.toList, isAlphanumeric c = true := by
      push Not at hrest
      simpa using hrest
    have hwhole : ∃ c ∈ text.toList, isAlphanumeric c = true := by
      obtain ⟨c, hc, halnum⟩ := hsome
      exact ⟨c, by simp [htext, hc], halnum⟩
    rw [pascal_ofText_of_words hsome, pascal_ofText_of_words hwhole, htext,
      Text.pascal_append_separator _ _ hsep, String.ofList_inj, ← Text.pascal_eq_nil_iff]
    constructor
    · intro h
      have heq := guardDigit_inj (Text.underscore_not_mem_pascal _)
        (by simp [Text.underscore_not_mem_pascal]) h
      exact Or.inl (List.append_left_eq_self.1 heq.symm)
    · rintro (hnil | ⟨hnone, -⟩)
      · rw [hnil, List.nil_append]
      · exact absurd hnone hrest

end Words

/-! ## Names that look alike -/

/-- A form in snake case without the underscores in front of digits. -/
def joinDigits : List Char → List Char
  | [] => []
  | c :: rest =>
    if c = '_' && rest.head?.any Char.isDigit then joinDigits rest else c :: joinDigits rest

/-- A word in lower case behind others: a digit is not told from those of the word before. -/
def marked (w : List Char) : List Char := if w.head?.any Char.isDigit then w else '_' :: w

/-- A capital letter begins a word. -/
def markCapital (c : Char) : List Char := if c.isUpper then ['_', c.toLower] else [c]

/-- The form in snake case, without underscores in front of digits, by the form in Pascal case. -/
def underscored : List Char → List Char
  | [] => []
  | c :: rest => c.toLower :: rest.flatMap markCapital

theorem joinDigits_append {w : List Char} (h : '_' ∉ w) (rest : List Char) :
    joinDigits (w ++ rest) = w ++ joinDigits rest := by
  induction w with
  | nil => rfl
  | cons c w ih =>
    rw [List.mem_cons, not_or] at h
    rw [List.cons_append, joinDigits, if_neg (by simp [Ne.symm h.1]), ih h.2, List.cons_append]

theorem joinDigits_guardDigit (cs : List Char) : joinDigits (guardDigit cs) = joinDigits cs := by
  cases cs with
  | nil => rfl
  | cons c cs =>
    rw [guardDigit]
    split
    · next hc => rw [joinDigits, if_pos (by simp [hc])]
    · rfl

theorem joinDigits_intercalate {w : List Char} {ws : List (List Char)}
    (h : ∀ v ∈ w :: ws, v ≠ [] ∧ '_' ∉ v) :
    joinDigits (['_'].intercalate (w :: ws)) = w ++ ws.flatMap marked := by
  induction ws generalizing w with
  | nil =>
    have hw := joinDigits_append (h w List.mem_cons_self).2 []
    simpa [joinDigits] using hw
  | cons v ws ih =>
    rw [List.forall_mem_cons] at h
    obtain ⟨c, cs, rfl⟩ := List.exists_cons_of_ne_nil (h.2 v List.mem_cons_self).1
    have hhead : (['_'].intercalate ((c :: cs) :: ws)).head? = some c := by
      cases ws <;> simp [List.intercalate_cons_cons]
    rw [List.intercalate_cons_cons, List.append_assoc, List.singleton_append,
      joinDigits_append h.1.2, joinDigits, hhead, ih h.2, List.flatMap_cons, marked]
    by_cases hc : c.isDigit = true <;> simp [hc]

/-! ### Words -/

section Word

variable {w : List Char} (hne : w ≠ []) (hascii : ∀ c ∈ w, isAscii c = true)
  (halnum : ∀ c ∈ w, isAlphanumeric c = true)

theorem flatMap_markCapital_toLower (hascii : ∀ c ∈ w, isAscii c = true) :
    (w.map Char.toLower).flatMap markCapital = w.map Char.toLower := by
  rw [List.flatMap_map, List.map_eq_flatMap]
  refine List.flatMap_congr fun c hc => ?_
  exact Text.forall_isAscii (P := fun c => markCapital c.toLower = [c.toLower]) (by decide)
    (hascii c hc)

theorem isJoiner_toLower {c : Char} (hc : isAscii c = true) (h : isAlphanumeric c = true) :
    isJoiner c.toLower = false :=
  Text.forall_isAscii (P := fun c => isAlphanumeric c = true → isJoiner c.toLower = false)
    (by decide) hc h

theorem fieldChars_append_of_not_isJoiner {cs : List Char} (h : ∀ c ∈ cs, isJoiner c = false)
    (rest : List Char) :
    fieldChars true false (cs ++ rest) = cs ++ fieldChars true false rest := by
  induction cs with
  | nil => rfl
  | cons c cs ih =>
    rw [List.forall_mem_cons] at h
    rw [List.cons_append, fieldChars, if_neg (by simp [h.1]), ih h.2]
    rfl

include hne hascii halnum

theorem flatMap_markCapital_capitalWord :
    (Text.capitalWord w).flatMap markCapital = marked (w.map Char.toLower) := by
  obtain ⟨c, rest, rfl⟩ := List.exists_cons_of_ne_nil hne
  have hc : markCapital c.toUpper =
      if c.toLower.isDigit then [c.toLower] else ['_', c.toLower] :=
    Text.forall_isAscii (P := fun c => isAlphanumeric c = true → markCapital c.toUpper =
      if c.toLower.isDigit then [c.toLower] else ['_', c.toLower]) (by decide)
      (hascii c List.mem_cons_self) (halnum c List.mem_cons_self)
  have hrest := flatMap_markCapital_toLower (List.forall_mem_cons.1 hascii).2
  rw [Text.capitalWord_of_isAscii hascii, List.flatMap_cons, hc, hrest, marked, List.map_cons]
  by_cases hdigit : c.toLower.isDigit = true <;> simp [hdigit]

/-- A word in lower case is capitalized again, … -/
theorem fieldChars_raised (rest : List Char) :
    fieldChars true true (w.map Char.toLower ++ rest) =
      Text.capitalWord w ++ fieldChars true false rest := by
  obtain ⟨c, tail, rfl⟩ := List.exists_cons_of_ne_nil hne
  rw [List.forall_mem_cons] at halnum
  have hc : isAscii c = true := hascii c List.mem_cons_self
  have hupper : c.toLower.toUpper = c.toUpper :=
    Text.forall_isAscii (P := fun c => c.toLower.toUpper = c.toUpper) (by decide) hc
  have htail : fieldChars true false (tail.map Char.toLower ++ rest) =
      tail.map Char.toLower ++ fieldChars true false rest :=
    fieldChars_append_of_not_isJoiner (fun d hd => by
      obtain ⟨e, he, rfl⟩ := List.mem_map.1 hd
      exact isJoiner_toLower (hascii e (List.mem_cons_of_mem c he)) (halnum.2 e he)) rest
  rw [Text.capitalWord_of_isAscii hascii, List.map_cons, List.cons_append, fieldChars,
    if_neg (by simp [isJoiner_toLower hc halnum.1]), htail,
    Text.upper_of_isAscii (Text.isAscii_toLower hc), hupper]
  rfl

/-- … and so it is behind others: where there is no underscore, it begins with a digit. -/
theorem fieldChars_marked (rest : List Char) :
    fieldChars true false (marked (w.map Char.toLower) ++ rest) =
      Text.capitalWord w ++ fieldChars true false rest := by
  have hraised := fieldChars_raised hne hascii halnum rest
  obtain ⟨c, tail, rfl⟩ := List.exists_cons_of_ne_nil hne
  have hc : isAscii c = true := hascii c List.mem_cons_self
  rw [List.map_cons] at hraised ⊢
  rw [marked, List.head?_cons, Option.any_some]
  split
  · next hdigit =>
    -- A digit is the same raised or not.
    have hupper : Text.upper c.toLower = [c.toLower] := by
      rw [Text.upper_of_isAscii (Text.isAscii_toLower hc), Text.toUpper_of_isDigit hdigit]
    rw [← hraised, List.cons_append, fieldChars, fieldChars, hupper]
    rfl
  · rw [← hraised]
    rfl

end Word

/-! ### Names -/

section Ascii

variable {cs : List Char} (hcs : ∀ c ∈ cs, isAscii c = true) (hwords : words cs ≠ [])

include hcs hwords

/-- An ASCII name with words in both forms, word by word. -/
theorem exists_words : ∃ w ws, Text.pascal cs = Text.capitalWord w ++ ws.flatMap Text.capitalWord ∧
    joinDigits (Text.snake cs) =
      w.map Char.toLower ++ (ws.map (List.map Char.toLower)).flatMap marked ∧
    ∀ v ∈ w :: ws, v ≠ [] ∧ (∀ c ∈ v, isAscii c = true) ∧ ∀ c ∈ v, isAlphanumeric c = true := by
  obtain ⟨w, ws, heq⟩ := List.exists_cons_of_ne_nil hwords
  have hall : ∀ v ∈ w :: ws,
      v ≠ [] ∧ (∀ c ∈ v, isAscii c = true) ∧ ∀ c ∈ v, isAlphanumeric c = true := by
    rw [← heq]
    exact fun v hv => ⟨Text.ne_nil_of_mem_words hv,
      fun c hc => hcs c (Text.mem_of_mem_words hv hc).1,
      fun c hc => (Text.mem_of_mem_words hv hc).2⟩
  refine ⟨w, ws, by rw [Text.pascal, heq, List.flatMap_cons], ?_, hall⟩
  rw [snake_of_isAscii hcs, heq, List.map_cons]
  refine joinDigits_intercalate ?_
  rw [← List.map_cons, List.forall_mem_map]
  intro v hv
  obtain ⟨hne, hascii, halnum⟩ := hall v hv
  refine ⟨by simpa using hne, fun hmem => ?_⟩
  obtain ⟨c, hc, hunderscore⟩ := List.mem_map.1 hmem
  have hjoiner := isJoiner_toLower (hascii c hc) (halnum c hc)
  rw [hunderscore] at hjoiner
  exact absurd hjoiner (by decide)

theorem joinDigits_snake : joinDigits (Text.snake cs) = underscored (Text.pascal cs) := by
  obtain ⟨w, ws, hpascal, hsnake, hall⟩ := exists_words hcs hwords
  rw [List.forall_mem_cons] at hall
  obtain ⟨⟨hne, hascii, -⟩, hrest⟩ := hall
  have hlater : (ws.flatMap Text.capitalWord).flatMap markCapital =
      (ws.map (List.map Char.toLower)).flatMap marked := by
    rw [List.flatMap_assoc, List.flatMap_map]
    exact List.flatMap_congr fun v hv =>
      flatMap_markCapital_capitalWord (hrest v hv).1 (hrest v hv).2.1 (hrest v hv).2.2
  obtain ⟨c, tail, rfl⟩ := List.exists_cons_of_ne_nil hne
  have htail := flatMap_markCapital_toLower (List.forall_mem_cons.1 hascii).2
  have hfirst : c.toUpper.toLower = c.toLower := Text.toLower_toUpper (hascii c List.mem_cons_self)
  rw [hsnake, hpascal, Text.capitalWord_of_isAscii hascii, List.cons_append, underscored,
    List.flatMap_append, htail, hlater, hfirst]
  rfl

theorem pascal_eq_fieldChars :
    Text.pascal cs = fieldChars true true (joinDigits (Text.snake cs)) := by
  obtain ⟨w, ws, hpascal, hsnake, hall⟩ := exists_words hcs hwords
  rw [List.forall_mem_cons] at hall
  obtain ⟨⟨hne, hascii, halnum⟩, hrest⟩ := hall
  rw [hsnake, hpascal, fieldChars_raised hne hascii halnum]
  congr 1
  clear hpascal hsnake
  induction ws with
  | nil => rfl
  | cons v ws ih =>
    rw [List.forall_mem_cons] at hrest
    rw [List.flatMap_cons, List.map_cons, List.flatMap_cons,
      fieldChars_marked hrest.1.1 hrest.1.2.1 hrest.1.2.2, ← ih hrest.2]

end Ascii

/-- Two ASCII names have the same form in Pascal case if and only if their forms in snake case are
the same but for underscores in front of digits. -/
theorem pascal_eq_iff {s t : String} (hs : ∀ c ∈ s.toList, isAscii c = true)
    (ht : ∀ c ∈ t.toList, isAscii c = true) : (ofText s).pascal = (ofText t).pascal ↔
      joinDigits (ofText s).snake.toList = joinDigits (ofText t).snake.toList := by
  have hwords (text : String) := words_sanitized_ne_nil text.toList
  have hjoined {text : String} (h : ∀ c ∈ text.toList, isAscii c = true) :
      joinDigits (ofText text).snake.toList =
        underscored (Text.pascal (sanitized text.toList)) := by
    rw [← joinDigits_snake (isAscii_sanitized h) (hwords text)]
    simp only [ofText, String.toList_ofList, joinDigits_guardDigit]
  have hpascal {text : String} (h : ∀ c ∈ text.toList, isAscii c = true) :
      (ofText text).pascal = String.ofList
        (guardDigit (fieldChars true true (joinDigits (ofText text).snake.toList))) := by
    rw [hjoined h, ← joinDigits_snake (isAscii_sanitized h) (hwords text),
      ← pascal_eq_fieldChars (isAscii_sanitized h) (hwords text)]
    rfl
  constructor
  · intro h
    have hsame : Text.pascal (sanitized s.toList) = Text.pascal (sanitized t.toList) :=
      guardDigit_inj (Text.underscore_not_mem_pascal _) (Text.underscore_not_mem_pascal _)
        (String.ofList_injective h)
    rw [hjoined hs, hjoined ht, hsame]
  · intro h
    rw [hpascal hs, hpascal ht, h]

end Name

end ActivityForge
