import ActivityForge.Proofs.Text.Ascii
import ActivityForge.Proofs.Text.Literal

/-!
# What a literal consists of

The quotes of a literal that are not escaped are its first and its last character
(`quotesFrom_literalChars`), and every character of it is one that is shown as itself, so none is a
control or breaks a line (`isPlain_of_mem_literalChars`).  Read back, it is the text that it was
written for, and so no two texts have the same literal (`isLiteral_literal`, `literal_injective`).
-/

namespace ActivityForge.Text

open Number (exists_digitChar_of_mem_toDigits)

/-! ## Quotes -/

/-- The places of the quotes that are not escaped, where the first character has place `i`: a
backslash escapes the character behind it.  `escaped` says that there is one in front. -/
def quotesFrom (i : Nat) (escaped : Bool) : List Char → List Nat
  | [] => []
  | c :: cs =>
    if escaped then quotesFrom (i + 1) false cs
    else if c = '"' then i :: quotesFrom (i + 1) false cs
    else quotesFrom (i + 1) (c = '\\') cs

/-- The places of the quotes of a text that are not escaped. -/
def quotes (s : String) : List Nat := quotesFrom 0 false s.toList

section Quotes

variable (i : Nat) (rest : List Char)

theorem quotesFrom_escape (c : Char) :
    quotesFrom i false ('\\' :: c :: rest) = quotesFrom (i + 2) false rest := by
  rw [quotesFrom, if_neg Bool.false_ne_true, if_neg (by decide), quotesFrom, if_pos (by decide)]

/-- Only quotes and backslashes count. -/
theorem quotesFrom_append {cs : List Char} (hquote : '"' ∉ cs) (hbackslash : '\\' ∉ cs) :
    quotesFrom i false (cs ++ rest) = quotesFrom (i + cs.length) false rest := by
  induction cs generalizing i with
  | nil => rfl
  | cons c cs ih =>
    rw [List.mem_cons, not_or] at hquote hbackslash
    have hplain : decide (c = '\\') = false := decide_eq_false (Ne.symm hbackslash.1)
    rw [List.cons_append, quotesFrom, if_neg Bool.false_ne_true, if_neg (Ne.symm hquote.1), hplain,
      ih _ hquote.2 hbackslash.2, List.length_cons]
    congr 1
    omega

/-- The digits and braces of a code point are no quotes or backslashes. -/
theorem not_mem_code {d : Char} (hd : d = '"' ∨ d = '\\') (n : Nat) :
    d ∉ '\x7b' :: (hexDigits n ++ ['\x7d']) := by
  have hdigits : d ∉ hexDigits n := by
    intro h
    obtain ⟨value, hvalue, heq⟩ := exists_digitChar_of_mem_toDigits (by decide) h
    have hnone : ∀ value < 16, Nat.digitChar value ≠ '"' ∧ Nat.digitChar value ≠ '\\' := by decide
    rcases hd with rfl | rfl
    · exact (hnone value hvalue).1 heq.symm
    · exact (hnone value hvalue).2 heq.symm
  rcases hd with rfl | rfl <;> simp [hdigits]

/-- Inside a literal no character is written with a quote that counts. -/
theorem quotesFrom_escapeChar (c : Char) :
    quotesFrom i false (escapeChar c ++ rest) =
      quotesFrom (i + (escapeChar c).length) false rest := by
  unfold escapeChar
  split_ifs with _ _ _ _ hquote hbackslash
  iterate 6 · exact quotesFrom_escape i rest _
  · have hcode : ['\\', 'u', '\x7b'] ++ hexDigits c.toNat ++ ['\x7d'] =
        '\\' :: 'u' :: ('\x7b' :: (hexDigits c.toNat ++ ['\x7d'])) := rfl
    rw [hcode, List.cons_append, List.cons_append, quotesFrom_escape,
      quotesFrom_append _ _ (not_mem_code (Or.inl rfl) _) (not_mem_code (Or.inr rfl) _)]
    congr 1
    simp only [List.length_cons]
    omega
  · exact quotesFrom_append i rest (by simpa using Ne.symm hquote)
      (by simpa using Ne.symm hbackslash)

theorem quotesFrom_body (cs : List Char) :
    quotesFrom i false (cs.flatMap escapeChar ++ ['"']) =
      [i + (cs.flatMap escapeChar).length] := by
  induction cs generalizing i with
  | nil => rfl
  | cons c cs ih =>
    rw [List.flatMap_cons, List.append_assoc, quotesFrom_escapeChar, ih, List.length_append,
      Nat.add_assoc]

end Quotes

theorem quotesFrom_literalChars (cs : List Char) :
    quotesFrom 0 false (literalChars cs) = [0, (literalChars cs).length - 1] := by
  have hbody := quotesFrom_body 1 cs
  rw [literalChars, List.cons_append, quotesFrom, if_neg Bool.false_ne_true, if_pos rfl, hbody]
  simp [Nat.add_comm]

/-! ## Characters -/

/-- The controls of all alphabets. -/
def IsControl (c : Char) : Prop := c.toNat < 0x20 ∨ 0x7F ≤ c.toNat ∧ c.toNat < 0xA0

/-- What ends a line: the controls from line feed to carriage return and the next-line control, and
the separators of lines and of paragraphs. -/
def IsLineBreak (c : Char) : Prop :=
  0x0A ≤ c.toNat ∧ c.toNat ≤ 0x0D ∨ c.toNat = 0x85 ∨ c.toNat = 0x2028 ∨ c.toNat = 0x2029

/-- Neither a control nor a line break. -/
def IsPlain (c : Char) : Prop := ¬ IsControl c ∧ ¬ IsLineBreak c

theorem isPlain_of_isPrintable {c : Char} (h : isPrintable c = true) : IsPlain c := by
  unfold IsPlain IsControl IsLineBreak
  by_cases hc : isAscii c = true
  · rw [isPrintable, if_pos hc, Bool.and_eq_true, decide_eq_true_eq, decide_eq_true_eq] at h
    obtain ⟨hlow : 0x20 ≤ c.toNat, hhigh : c.toNat ≤ 0x7E⟩ := h
    omega
  · rw [isPrintable, if_neg hc, Bool.not_eq_true'] at h
    have hascii : ¬ c.toNat < 0x80 := by simpa [isAscii] using hc
    have hcontrols : ∀ n < 0xA0, 0x80 ≤ n → inBounds Table.unprintable n = true := by
      decide +kernel
    have hseparators : ∀ n ∈ [0x2028, 0x2029], inBounds Table.unprintable n = true := by
      decide +kernel
    have hcontrol : ¬ c.toNat < 0xA0 := fun hlt =>
      absurd (hcontrols _ hlt (by omega)) (by simp [h])
    have hseparator : c.toNat ∉ [0x2028, 0x2029] := fun hmem =>
      absurd (hseparators _ hmem) (by simp [h])
    simp only [List.mem_cons, List.not_mem_nil, or_false, not_or] at hseparator
    omega

theorem isPrintable_of_mem_escapeChar {c d : Char} (h : d ∈ escapeChar c) :
    isPrintable d = true := by
  have hhex : ∀ value < 16, isPrintable (Nat.digitChar value) = true := by decide
  unfold escapeChar at h
  split_ifs at h with _ _ _ _ _ _ hcode
  iterate 6 · exact List.all_eq_true.1 (by decide) d h
  · rw [List.mem_append, List.mem_append] at h
    rcases h with (h | h) | h
    · exact List.all_eq_true.1 (by decide) d h
    · obtain ⟨value, hvalue, rfl⟩ := exists_digitChar_of_mem_toDigits (by decide) h
      exact hhex value hvalue
    · exact List.all_eq_true.1 (by decide) d h
  · obtain rfl := List.mem_singleton.1 h
    rw [Bool.or_eq_true, not_or, Bool.not_eq_true', Bool.not_eq_false] at hcode
    exact hcode.2

theorem isPlain_of_mem_literalChars {cs : List Char} {c : Char} (h : c ∈ literalChars cs) :
    IsPlain c := by
  refine isPlain_of_isPrintable ?_
  simp only [literalChars, List.cons_append, List.mem_cons, List.mem_append, List.mem_flatMap,
    List.not_mem_nil, or_false] at h
  rcases h with rfl | ⟨d, -, hd⟩ | rfl
  · decide
  · exact isPrintable_of_mem_escapeChar hd
  · decide

/-- A literal stays on one line. -/
theorem lineFeed_not_mem_literalChars (cs : List Char) : '\n' ∉ literalChars cs := fun h =>
  (isPlain_of_mem_literalChars h).2 (Or.inl (by decide))

/-! ## Literals -/

/-- A quoted literal of the generated language, on one line, that denotes the text `s`. -/
structure IsLiteral (s lit : String) : Prop where
  framed : ∃ body, lit.toList = '"' :: body ++ ['"']
  quotes : quotes lit = [0, lit.toList.length - 1]
  plain : ∀ c ∈ lit.toList, IsPlain c
  /-- It is read as the text, and reading stops at its end. -/
  denotes : ∀ rest, readLiteral? (lit.toList ++ rest) = some (s.toList, rest)

theorem isLiteral_literal (s : String) : IsLiteral s (literal s) := by
  have hchars : (literal s).toList = literalChars s.toList := String.toList_ofList ..
  refine ⟨⟨_, hchars⟩, ?_, ?_, ?_⟩
  · rw [quotes, hchars]
    exact quotesFrom_literalChars s.toList
  · rw [hchars]
    exact fun c => isPlain_of_mem_literalChars
  · rw [hchars]
    exact readLiteral?_literalChars s.toList

theorem IsLiteral.unique {s t lit : String} (hs : IsLiteral s lit) (ht : IsLiteral t lit) :
    s = t := by
  have heq := (hs.denotes []).symm.trans (ht.denotes [])
  exact String.toList_inj.1 (Prod.mk.inj (Option.some.inj heq)).1

theorem literal_injective : Function.Injective literal := fun s t h =>
  (isLiteral_literal s).unique (h ▸ isLiteral_literal t)

end ActivityForge.Text
