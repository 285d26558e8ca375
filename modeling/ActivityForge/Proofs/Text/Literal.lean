import ActivityForge.Proofs.Number.Digits
import ActivityForge.Text.Literal
import Mathlib.Tactic.SplitIfs

/-!
# Literals read back

`readLiteral?` reads a quoted literal by the rules of the generated language: it ends at the first
quote that is not escaped, and an escape is a backslash with a letter or with a code point in
braces.  A literal is read back as the text that it was written for, whatever follows it
(`readLiteral?_literalChars`).
-/

namespace ActivityForge.Text

open Number (exists_digitChar_of_mem_toDigits natOfBase? natOfBase?_toDigits)

/-! ## The reader -/

/-- The character of an escape of one letter. -/
def simpleEscape? (c : Char) : Option Char :=
  match c with
  | '0' => some '\x00'
  | 't' => some '\t'
  | 'n' => some '\n'
  | 'r' => some '\r'
  | '"' => some '"'
  | '\\' => some '\\'
  | '\x27' => some '\x27'
  | _ => none

/-- The character whose code point is written by up to six hexadecimal digits. -/
def charOfHex? (digits : List Char) : Option Char := do
  let n ← natOfBase? 16 digits
  if digits.length ≤ 6 ∧ n.isValidChar then some (Char.ofNat n) else none

/-- Where in a literal the reader is. -/
inductive LiteralState
  | plain
  /-- Behind a backslash. -/
  | escape
  /-- Behind the letter of a code point. -/
  | letter
  /-- Inside the braces, behind the reversed digits of a code point. -/
  | code (digits : List Char)

/-- Reads the rest of a literal up to its closing quote; what follows the quote is returned. -/
def readLiteralFrom : LiteralState → List Char → Option (List Char × List Char)
  | _, [] => none
  | .plain, c :: rest =>
    if c = '"' then some ([], rest)
    else if c = '\\' then readLiteralFrom .escape rest
    else (readLiteralFrom .plain rest).map fun (text, after) => (c :: text, after)
  | .escape, c :: rest =>
    if c = 'u' then readLiteralFrom .letter rest
    else do
      let char ← simpleEscape? c
      let (text, after) ← readLiteralFrom .plain rest
      pure (char :: text, after)
  | .letter, c :: rest => if c = '\x7b' then readLiteralFrom (.code []) rest else none
  | .code digits, c :: rest =>
    if c = '\x7d' then do
      let char ← charOfHex? digits.reverse
      let (text, after) ← readLiteralFrom .plain rest
      pure (char :: text, after)
    else readLiteralFrom (.code (c :: digits)) rest

/-- The text that the literal at the start of `cs` denotes, and what follows the literal. -/
def readLiteral? : List Char → Option (List Char × List Char)
  | '"' :: cs => readLiteralFrom .plain cs
  | _ => none

/-! ## Written literals -/

/-- A character in front of what is read. -/
def consRead (c : Char) : List Char × List Char → List Char × List Char
  | (text, after) => (c :: text, after)

theorem charOfHex?_hexDigits (c : Char) : charOfHex? (hexDigits c.toNat) = some c := by
  have hlength : (hexDigits c.toNat).length ≤ 6 := by
    rw [hexDigits, Nat.length_toDigits_le_iff (by decide) (by decide)]
    have hvalid : c.toNat.isValidChar := c.valid
    unfold Nat.isValidChar at hvalid
    omega
  have hvalid : c.toNat.isValidChar := c.valid
  have hnumber : natOfBase? 16 (hexDigits c.toNat) = some c.toNat :=
    natOfBase?_toDigits (by decide) (by decide) _
  simp [charOfHex?, hnumber, hlength, hvalid]

/-- Digits are collected up to the closing brace. -/
theorem readLiteralFrom_code {digits : List Char} (h : '\x7d' ∉ digits) (before rest : List Char) :
    readLiteralFrom (.code before) (digits ++ '\x7d' :: rest) =
      readLiteralFrom (.code (digits.reverse ++ before)) ('\x7d' :: rest) := by
  induction digits generalizing before with
  | nil => rfl
  | cons d digits ih =>
    rw [List.mem_cons, not_or] at h
    rw [List.cons_append, readLiteralFrom, if_neg (Ne.symm h.1), ih h.2]
    simp

theorem brace_not_mem_hexDigits (n : Nat) : '\x7d' ∉ hexDigits n := by
  intro h
  obtain ⟨d, hd, heq⟩ := exists_digitChar_of_mem_toDigits (by decide) h
  revert d
  decide

/-- Whatever the escape of a character is, it is read as that character. -/
theorem readLiteralFrom_escapeChar (c : Char) (rest : List Char) :
    readLiteralFrom .plain (escapeChar c ++ rest) =
      (readLiteralFrom .plain rest).map (consRead c) := by
  have hsimple {e : Char} (hu : e ≠ 'u') (he : simpleEscape? e = some c) :
      readLiteralFrom .plain ('\\' :: e :: rest) =
        (readLiteralFrom .plain rest).map (consRead c) := by
    rw [readLiteralFrom, if_neg (by decide), if_pos rfl, readLiteralFrom, if_neg hu, he]
    cases readLiteralFrom .plain rest <;> rfl
  unfold escapeChar
  split_ifs with hnul htab hline hreturn hquote hbackslash hcode
  · exact hsimple (by decide) (by rw [hnul]; rfl)
  · exact hsimple (by decide) (by rw [htab]; rfl)
  · exact hsimple (by decide) (by rw [hline]; rfl)
  · exact hsimple (by decide) (by rw [hreturn]; rfl)
  · exact hsimple (by decide) (by rw [hquote]; rfl)
  · exact hsimple (by decide) (by rw [hbackslash]; rfl)
  · have hcollect := readLiteralFrom_code (brace_not_mem_hexDigits c.toNat) [] rest
    have hopen (cs : List Char) :
        readLiteralFrom .plain (['\\', 'u', '\x7b'] ++ cs) = readLiteralFrom (.code []) cs := by
      simp [readLiteralFrom]
    rw [List.append_assoc, List.append_assoc, List.singleton_append, hopen, hcollect,
      List.append_nil, readLiteralFrom, if_pos rfl, List.reverse_reverse, charOfHex?_hexDigits]
    cases readLiteralFrom .plain rest <;> rfl
  · rw [List.singleton_append, readLiteralFrom, if_neg hquote, if_neg hbackslash]
    rfl

/-- A literal denotes the text that it was written for, whatever follows it. -/
theorem readLiteral?_literalChars (cs after : List Char) :
    readLiteral? (literalChars cs ++ after) = some (cs, after) := by
  have hbody :
      readLiteralFrom .plain (cs.flatMap escapeChar ++ '"' :: after) = some (cs, after) := by
    induction cs with
    | nil => simp [readLiteralFrom]
    | cons c cs ih =>
      rw [List.flatMap_cons, List.append_assoc, readLiteralFrom_escapeChar, ih]
      rfl
  show readLiteralFrom .plain (cs.flatMap escapeChar ++ ['"'] ++ after) = some (cs, after)
  rw [List.append_assoc, List.singleton_append, hbody]

end ActivityForge.Text
