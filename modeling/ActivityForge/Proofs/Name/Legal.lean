import ActivityForge.Proofs.Name.Members

/-!
# Legal identifiers

`IsIdentifier` says what an identifier of the generated language is: a word of letters, digits and
underscores that is no keyword, or behind `r#` a word that is no keyword of paths.  What is made of
an ASCII name is always one, also where the name is empty, starts with a digit or is a keyword
(`legalForms_of_ascii`).
-/

namespace ActivityForge

/-! ## The generated language -/

/-- Keywords of the generated language that are in use. -/
def strictKeywords : List String :=
  ["as", "async", "await", "break", "const", "continue", "crate", "dyn", "else", "enum", "extern",
   "false", "fn", "for", "if", "impl", "in", "let", "loop", "match", "mod", "move", "mut", "pub",
   "ref", "return", "self", "Self", "static", "struct", "super", "trait", "true", "type", "unsafe",
   "use", "where", "while"]

/-- Keywords that are kept for later use. -/
def keptKeywords : List String :=
  ["abstract", "become", "box", "do", "final", "gen", "macro", "override", "priv", "try", "typeof",
   "unsized", "virtual", "yield"]

def keywords : List String := strictKeywords ++ keptKeywords

/-- Keywords that may not be written behind `r#`: they stand for something in a path. -/
def pathKeywords : List String := ["crate", "self", "super", "Self"]

/-- A word of certain letters, digits and underscores, as identifiers consist of one. -/
structure IsWord (letter : Char → Bool) (text : String) : Prop where
  chars : ∀ c ∈ text.toList, letter c = true ∨ c.isDigit = true ∨ c = '_'
  /-- There is a first character, and it is no digit. -/
  start : ∃ c, text.toList.head? = some c ∧ c.isDigit = false
  notLone : text ≠ "_"

/-- An identifier of the generated language, as far as it is ASCII. -/
inductive IsIdentifier : String → Prop
  | plain {text : String} (h : IsWord Char.isAlpha text) (free : text ∉ keywords) :
      IsIdentifier text
  | raw {text : String} (h : IsWord Char.isAlpha text) (free : text ∉ pathKeywords) :
      IsIdentifier ("r#" ++ text)

/-- A text of ASCII characters. -/
def IsAsciiText (text : String) : Prop := ∀ c ∈ text.toList, Text.isAscii c = true

theorem IsWord.mono {letter letter' : Char → Bool} {text : String} (h : IsWord letter text)
    (hle : ∀ c, letter c = true → letter' c = true) : IsWord letter' text :=
  ⟨fun c hc => (h.chars c hc).imp_left (hle c), h.start, h.notLone⟩

theorem isAlpha_of_isLower (c : Char) (h : c.isLower = true) : c.isAlpha = true := by
  show (c.isUpper || c.isLower) = true
  rw [h, Bool.or_true]

theorem isAlpha_of_isUpper (c : Char) (h : c.isUpper = true) : c.isAlpha = true := by
  show (c.isUpper || c.isLower) = true
  rw [h, Bool.true_or]

/-- The keywords that are escaped are those that may be. -/
theorem mem_rawKeywords_iff {text : String} :
    text ∈ rawKeywords ↔ text ∈ keywords ∧ text ∉ pathKeywords := by
  have hraw : ∀ keyword ∈ rawKeywords, keyword ∈ keywords ∧ keyword ∉ pathKeywords := by
    decide +kernel
  have hkeywords : ∀ keyword ∈ keywords, keyword ∉ pathKeywords → keyword ∈ rawKeywords := by
    decide +kernel
  exact ⟨hraw text, fun h => hkeywords text h.1 h.2⟩

namespace Name

open Text (isAlphanumeric isAscii words)

/-! ## Guarded words -/

section Guard

variable {letter : Char → Bool} {cs : List Char}
  (hchars : ∀ c ∈ cs, letter c = true ∨ c.isDigit = true ∨ c = '_') (hne : cs ≠ [])

include hchars hne

/-- A guard makes a word of anything but nothing. -/
theorem isWord_underscore : IsWord letter (String.ofList ('_' :: cs)) where
  chars := by
    rw [String.toList_ofList, List.forall_mem_cons]
    exact ⟨Or.inr (Or.inr rfl), hchars⟩
  start := ⟨'_', by simp, by decide⟩
  notLone h := hne (by simpa using congrArg String.toList h)

/-- Without a guard it is one if it starts with a letter. -/
theorem isWord_of_head (hdigit : cs.head?.any Char.isDigit = false)
    (hunderscore : cs.head? ≠ some '_') : IsWord letter (String.ofList cs) := by
  obtain ⟨c, rest, rfl⟩ : ∃ c rest, cs = c :: rest := List.exists_cons_of_ne_nil hne
  refine ⟨by rwa [String.toList_ofList], ⟨c, by simp, by simpa using hdigit⟩, fun h => ?_⟩
  have hhead := congrArg (fun s : String => s.toList.head?) h
  rw [String.toList_ofList] at hhead
  exact hunderscore hhead

theorem isWord_guardDigit (hunderscore : cs.head? ≠ some '_') :
    IsWord letter (String.ofList (guardDigit cs)) := by
  cases cs with
  | nil => exact absurd rfl hne
  | cons c cs =>
    rw [guardDigit]
    split
    · exact isWord_underscore hchars hne
    · next hdigit => exact isWord_of_head hchars hne (by simpa using hdigit) hunderscore

theorem isWord_guardReserved (hunderscore : cs.head? ≠ some '_') :
    IsWord letter (String.ofList (guardReserved cs)) := by
  unfold guardReserved
  split
  · exact isWord_underscore hchars hne
  · next hplain =>
    rw [Bool.or_eq_true, not_or, Bool.not_eq_true] at hplain
    exact isWord_of_head hchars hne hplain.1 hunderscore

end Guard

/-- What is guarded is not reserved: no reserved word starts with an underscore. -/
theorem guardReserved_not_mem (cs : List Char) :
    String.ofList (guardReserved cs) ∉ reservedWords := by
  have hnone : ∀ word ∈ reservedWords, word.toList.head? ≠ some '_' := by decide
  unfold guardReserved
  split
  · exact fun hmem => hnone _ hmem (by simp)
  · next hplain =>
    rw [Bool.or_eq_true, not_or] at hplain
    simpa using hplain.2

/-! ## Members -/

theorem memberStem_ne_nil (text : String) : memberStem text ≠ [] := by
  unfold memberStem
  split
  · decide
  · next h => simpa using h

theorem snake_guardReserved (cs : List Char) : Text.snake (guardReserved cs) = Text.snake cs := by
  unfold guardReserved
  split
  · rw [Text.snake, Text.words_cons_separator _ Text.isAlphanumeric_underscore, Text.snake]
  · rfl

section Ascii

variable {cs : List Char} (hcs : ∀ c ∈ cs, isAscii c = true)

include hcs

theorem isLower_of_mem_snake {c : Char} (h : c ∈ Text.snake cs) :
    c.isLower = true ∨ c.isDigit = true ∨ c = '_' := by
  have hlower {d : Char} (hd : isAscii d = true) :
      isAlphanumeric d = true → d.toLower.isLower = true ∨ d.toLower.isDigit = true :=
    Text.forall_isAscii (P := fun d => isAlphanumeric d = true →
      d.toLower.isLower = true ∨ d.toLower.isDigit = true) (by decide) hd
  rcases exists_of_mem_snake hcs h with rfl | ⟨d, hd, halnum, rfl⟩
  · exact Or.inr (Or.inr rfl)
  · exact (hlower (hcs d hd) halnum).imp_right Or.inl

theorem isUpper_of_mem_screaming {c : Char} (h : c ∈ Text.screaming cs) :
    c.isUpper = true ∨ c.isDigit = true ∨ c = '_' := by
  have hupper {d : Char} (hd : isAscii d = true) :
      isAlphanumeric d = true → d.toUpper.isUpper = true ∨ d.toUpper.isDigit = true :=
    Text.forall_isAscii (P := fun d => isAlphanumeric d = true →
      d.toUpper.isUpper = true ∨ d.toUpper.isDigit = true) (by decide) hd
  rcases exists_of_mem_screaming hcs h with rfl | ⟨d, hd, halnum, rfl⟩
  · exact Or.inr (Or.inr rfl)
  · exact (hupper (hcs d hd) halnum).imp_right Or.inl

end Ascii

section AsciiText

variable {text : String} (h : IsAsciiText text)

include h

theorem isLower_of_mem_memberStem {c : Char} (hc : c ∈ memberStem text) :
    c.isLower = true ∨ c.isDigit = true ∨ c = '_' := by
  unfold memberStem at hc
  split at hc
  · have hall : "unnamed".toList.all Char.isLower = true := by decide
    exact Or.inl (List.all_eq_true.1 hall c hc)
  · exact isLower_of_mem_snake h hc

theorem snake_memberStem : Text.snake (memberStem text) = memberStem text := by
  unfold memberStem
  split
  · decide
  · exact snake_snake h

theorem isWord_memberName : IsWord Char.isLower (memberName text) := by
  rw [memberName_eq]
  exact isWord_guardReserved (fun _ => isLower_of_mem_memberStem h) (memberStem_ne_nil text)
    (head?_memberStem_ne_underscore text)

/-- Naming a member after the name of a member changes nothing: the guard that is lost is put back
again. -/
theorem memberName_memberName : memberName (memberName text) = memberName text := by
  have hsnake : Text.snake (memberName text).toList = memberStem text := by
    rw [memberName_eq, String.toList_ofList, snake_guardReserved, snake_memberStem h]
  have hstem : memberStem (memberName text) = memberStem text := by
    rw [memberStem, hsnake, if_neg (by simpa using memberStem_ne_nil text)]
  rw [memberName_eq (memberName text), hstem, memberName_eq text]

theorem isAsciiText_snake : IsAsciiText (ofText text).snake := by
  have hcs : ∀ c ∈ sanitized text.toList, isAscii c = true := isAscii_sanitized h
  intro c hc
  simp only [ofText, String.toList_ofList] at hc
  rcases mem_guardDigit hc with rfl | hc
  · decide
  · exact isAscii_of_mem_snake hcs hc

theorem isWord_screaming : IsWord Char.isUpper (ofText text).screaming := by
  have hcs : ∀ c ∈ sanitized text.toList, isAscii c = true := isAscii_sanitized h
  obtain ⟨c, rest, hsnake, -⟩ := exists_cons_snake hcs (words_sanitized_ne_nil text.toList)
  have hlower := map_toLower_screaming hcs
  have hne : Text.screaming (sanitized text.toList) ≠ [] := by
    intro hnil
    rw [hnil, hsnake] at hlower
    cases hlower
  have hunderscore : (Text.screaming (sanitized text.toList)).head? ≠ some '_' := by
    intro hhead
    have hmap := congrArg List.head? hlower
    rw [List.head?_map, hhead, Option.map_some] at hmap
    exact head?_snake_ne_underscore _ hmap.symm
  exact isWord_guardDigit (fun _ => isUpper_of_mem_screaming hcs) hne hunderscore

end AsciiText

/-! ## Identifiers -/

theorem memberName_not_mem_pathKeywords (text : String) : memberName text ∉ pathKeywords := by
  rw [memberName_eq]
  exact guardReserved_not_mem _

/-- What becomes of a name in the generated source. -/
structure LegalForms (name : String) : Prop where
  /-- The identifier is a word, behind `r#` exactly if that is a keyword that may be. -/
  identifier : ∃ word, IsWord Char.isLower word ∧ word ∉ pathKeywords ∧
    (word ∈ keywords ∧ identifier name = "r#" ++ word ∨
      word ∉ keywords ∧ identifier name = word)
  stable : memberName (memberName name) = memberName name
  screaming : IsWord Char.isUpper (ofText name).screaming

theorem legalForms_of_ascii {name : String} (h : IsAsciiText name) : LegalForms name where
  identifier := by
    have hpath : memberName name ∉ pathKeywords := memberName_not_mem_pathKeywords name
    refine ⟨memberName name, isWord_memberName h, hpath, ?_⟩
    by_cases hkeyword : memberName name ∈ keywords
    · have hraw : memberName name ∈ rawKeywords := mem_rawKeywords_iff.2 ⟨hkeyword, hpath⟩
      exact Or.inl ⟨hkeyword, if_pos (List.contains_iff_mem.2 hraw)⟩
    · have hraw : memberName name ∉ rawKeywords := fun hmem =>
        hkeyword (mem_rawKeywords_iff.1 hmem).1
      exact Or.inr ⟨hkeyword, if_neg (by simpa using hraw)⟩
  stable := memberName_memberName h
  screaming := isWord_screaming h

/-- The identifier of an ASCII name is one. -/
theorem LegalForms.isIdentifier {name : String} (h : LegalForms name) :
    IsIdentifier (ActivityForge.identifier name) := by
  obtain ⟨word, hword, hpath, ⟨-, heq⟩ | ⟨hfree, heq⟩⟩ := h.identifier
  · rw [heq]
    exact .raw (hword.mono isAlpha_of_isLower) hpath
  · rw [heq]
    exact .plain (hword.mono isAlpha_of_isLower) hfree

/-- No keyword is in capitals. -/
theorem isIdentifier_of_isUpper {text : String} (h : IsWord Char.isUpper text) :
    IsIdentifier text := by
  have hkeywords : ∀ keyword ∈ keywords,
      keyword.toList.all (fun c => c.isUpper || c.isDigit || c = '_') = false := by
    decide +kernel
  refine .plain (h.mono isAlpha_of_isUpper) fun hkeyword => ?_
  have hall : text.toList.all (fun c => c.isUpper || c.isDigit || c = '_') = true := by
    refine List.all_eq_true.2 fun c hc => ?_
    simpa only [Bool.or_eq_true, decide_eq_true_eq, or_assoc] using h.chars c hc
  rw [hkeywords text hkeyword] at hall
  cases hall

/-- No keyword has an underscore. -/
theorem isIdentifier_of_underscore {text : String} (h : IsWord Char.isAlpha text)
    (hunderscore : '_' ∈ text.toList) : IsIdentifier text := by
  have hkeywords : ∀ keyword ∈ keywords, '_' ∉ keyword.toList := by decide +kernel
  exact .plain h fun hkeyword => hkeywords text hkeyword hunderscore

/-- A word goes on with characters of words. -/
theorem isWord_append {letter : Char → Bool} {text suffix : String} (h : IsWord letter text)
    (hsuffix : ∀ c ∈ suffix.toList, letter c = true ∨ c.isDigit = true ∨ c = '_')
    (hne : suffix ≠ "") : IsWord letter (text ++ suffix) where
  chars := by
    rw [String.toList_append, List.forall_mem_append]
    exact ⟨h.chars, hsuffix⟩
  start := by
    obtain ⟨c, hc, hdigit⟩ := h.start
    exact ⟨c, by rw [String.toList_append, List.head?_append, hc, Option.some_or], hdigit⟩
  notLone heq := by
    obtain ⟨c, hc, -⟩ := h.start
    have hlength := congrArg (fun s : String => s.toList.length) heq
    have htext : text.toList ≠ [] := by
      intro hnil
      rw [hnil] at hc
      cases hc
    have hrest : suffix.toList ≠ [] := by simpa using hne
    have htextLength := List.length_pos_of_ne_nil htext
    have hrestLength := List.length_pos_of_ne_nil hrest
    simp only [String.toList_append, List.length_append] at hlength
    have hone : "_".toList.length = 1 := rfl
    omega

theorem chars_of_all {letter : Char → Bool} {text : String}
    (h : text.toList.all (fun c => letter c || c.isDigit || c = '_') = true) :
    ∀ c ∈ text.toList, letter c = true ∨ c.isDigit = true ∨ c = '_' := by
  intro c hc
  have hchar := List.all_eq_true.1 h c hc
  simpa only [Bool.or_eq_true, decide_eq_true_eq, or_assoc] using hchar

/-! ## Names of fields -/

theorem isAscii_of_mem_fieldChars {started raise : Bool} {cs : List Char}
    (h : ∀ c ∈ cs, isAscii c = true) :
    ∀ c ∈ fieldChars started raise cs, isAscii c = true := by
  induction cs generalizing started raise with
  | nil => simp [fieldChars]
  | cons c cs ih =>
    obtain ⟨hc, hcs⟩ := List.forall_mem_cons.1 h
    rw [fieldChars]
    split
    · exact ih hcs
    · split
      · rw [Text.lower_of_isAscii hc, List.singleton_append, List.forall_mem_cons]
        exact ⟨Text.isAscii_toLower hc, ih hcs⟩
      · split
        · rw [Text.upper_of_isAscii hc, List.singleton_append, List.forall_mem_cons]
          exact ⟨Text.isAscii_toUpper hc, ih hcs⟩
        · exact List.forall_mem_cons.2 ⟨hc, ih hcs⟩

theorem isAsciiText_fieldText {text : String} (h : IsAsciiText text) :
    IsAsciiText (fieldText text) := by
  intro c hc
  rw [fieldText, String.toList_ofList] at hc
  exact isAscii_of_mem_fieldChars h c hc

end Name

end ActivityForge
