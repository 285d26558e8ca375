import ActivityForge.Proofs.Text.Line
import ActivityForge.Source.Artifact

/-!
# Comments of generated source

`codeOf` takes the comment lines out of a text.  For a text made of lines this can be done line by
line (`codeOf_text`): a line that begins with a comment mark is a comment as a whole unless there
is a line feed in it, and it stays one when it is put further in.  So of a text in a comment line
only that matters which a line feed lets out of it (`code_exposed`, `code_comment`).
-/

namespace ActivityForge.Source

/-! ## The code of a text -/

/-- A line whose first characters that are no spaces are `//`. -/
def isComment (line : List Char) : Bool := ['/', '/'].isPrefixOf (line.dropWhile (· = ' '))

/-- The lines of a text that are no comments. -/
def codeOf (text : String) : List (List Char) :=
  (Text.splitAt '\n' text.toList).filter fun line => !isComment line

theorem codeOf_append_lineFeed (first rest : String) :
    codeOf (first ++ "\n" ++ rest) = codeOf first ++ codeOf rest := by
  have hchars : (first ++ "\n" ++ rest).toList = first.toList ++ '\n' :: rest.toList := by simp
  rw [codeOf, hchars, Text.splitAt_append, List.filter_append, codeOf, codeOf]

/-! ## The code of a file -/

/-- A text that has line feeds in it, so that not all of it stays in the line it begins in. -/
def isBroken (text : String) : Bool := text.toList.contains '\n'

theorem isBroken_iff {text : String} : isBroken text = true ↔ '\n' ∈ text.toList := by
  simp [isBroken]

/-- A line of a file that is nothing but a comment. -/
def isWholeComment (line : String) : Bool := isComment line.toList && !isBroken line

/-- The lines of a file without its comments. -/
def Lines.code (lines : Lines) : Lines := lines.filter fun line => !isWholeComment line

theorem codeOf_text (lines : Lines) :
    codeOf lines.text = (Lines.code lines).flatMap codeOf ++ [[]] := by
  induction lines with
  | nil => rfl
  | cons line lines ih =>
    have htext : Lines.text (line :: lines) = line ++ "\n" ++ Lines.text lines := by
      rw [Lines.text, Lines.text, List.map_cons, String.join_cons]
    rw [htext, codeOf_append_lineFeed, ih, Lines.code, Lines.code, List.filter_cons]
    cases h : isWholeComment line with
    | false => simp
    | true =>
      rw [isWholeComment, Bool.and_eq_true, Bool.not_eq_true', isBroken] at h
      have hline : Text.splitAt '\n' line.toList = [line.toList] :=
        Text.splitAt_of_not_mem (by simpa using h.2)
      simp [codeOf, hline, h.1]

section Code

variable (lines : Lines)

@[simp]
theorem code_append (first rest : Lines) :
    Lines.code (first ++ rest) = Lines.code first ++ Lines.code rest :=
  List.filter_append ..

theorem code_cons (line : String) :
    Lines.code (line :: lines) = Lines.code [line] ++ Lines.code lines :=
  code_append [line] lines

theorem code_flatMap {α : Type} (f : α → Lines) (as : List α) :
    Lines.code (as.flatMap f) = as.flatMap fun a => Lines.code (f a) :=
  List.filter_flatMap

/-- A comment stays one when it is put further in, and so does everything else. -/
theorem code_indent : Lines.code (indent lines) = indent (Lines.code lines) := by
  have hline (line : String) :
      isWholeComment (if line.isEmpty then line else "    " ++ line) = isWholeComment line := by
    split
    · rfl
    · simp [isWholeComment, isComment, isBroken]
  rw [indent, indent, Lines.code, Lines.code, List.filter_map]
  simp only [Function.comp_def, hline]

theorem code_block (head : String) (body : Lines) (tail : String) :
    Lines.code (block head body tail) =
      Lines.code [head ++ " \x7b"] ++ indent (Lines.code body) ++ Lines.code ["\x7d" ++ tail] := by
  rw [block, code_append, code_cons, code_indent]

theorem code_spaced (parts : List Lines) :
    Lines.code (spaced parts) = spaced (parts.map Lines.code) := by
  rw [spaced, spaced, code_flatMap, List.flatMap_map]
  exact List.flatMap_congr fun part _ => code_cons part ""

theorem code_separated (parts : List Lines) :
    Lines.code (separated parts) = separated (parts.map Lines.code) := by
  cases parts with
  | nil => rfl
  | cons part parts => rw [separated, code_append, code_spaced, List.map_cons, separated]

end Code

/-! ## Texts in comments -/

/-- A text as far as it gets out of a comment line that it stands in. -/
def exposed (text : String) : String := if isBroken text then text else ""

/-- Comment lines as far as they are broken. -/
def exposedLines (docs : List String) : List String := docs.filter isBroken

theorem exposedLines_eq_nil {docs : List String} (h : ∀ line ∈ docs, '\n' ∉ line.toList) :
    exposedLines docs = [] :=
  List.filter_eq_nil_iff.2 fun line hline => isBroken_iff.not.2 (h line hline)

theorem isBroken_append (first rest : String) :
    isBroken (first ++ rest) = (isBroken first || isBroken rest) := by
  simp [isBroken]

theorem isComment_append {first : List Char} (h : isComment first = true) (rest : List Char) :
    isComment (first ++ rest) = true := by
  rw [isComment, List.isPrefixOf_iff_prefix] at h ⊢
  have hne : (first.dropWhile (· = ' ')).isEmpty = false := by
    obtain ⟨tail, htail⟩ := h
    simp [← htail]
  rw [List.dropWhile_append, hne]
  exact h.trans (List.prefix_append _ _)

/-- A mark that makes a comment of the line that it begins. -/
def IsMark (mark : String) : Prop := isComment mark.toList = true ∧ isBroken mark = false

instance (mark : String) : Decidable (IsMark mark) := inferInstanceAs (Decidable (_ ∧ _))

section Mark

variable {mark : String} (h : IsMark mark)

include h

theorem isWholeComment_mark_append (text : String) :
    isWholeComment (mark ++ text) = !isBroken text := by
  rw [isWholeComment, isBroken_append, h.2, String.toList_append, isComment_append h.1,
    Bool.true_and, Bool.false_or]

theorem code_mark_append (text : String) :
    Lines.code [mark ++ text] = if isBroken text then [mark ++ text] else [] := by
  rw [Lines.code, List.filter_singleton, isWholeComment_mark_append h, Bool.not_not,
    Bool.cond_eq_ite]

/-- Of a text in a comment line only what is exposed matters. -/
theorem code_exposed {stop : String} (hstop : isBroken stop = false) (text : String) :
    Lines.code [mark ++ (exposed text ++ stop)] = Lines.code [mark ++ (text ++ stop)] := by
  rw [exposed]
  split
  · rfl
  · next hplain =>
    rw [code_mark_append h, code_mark_append h, isBroken_append, isBroken_append, hstop,
      eq_false_of_ne_true hplain]
    rfl

theorem code_comment (docs : List String) :
    Lines.code (comment mark docs) = comment mark (exposedLines docs) := by
  simp only [comment, exposedLines, Lines.code, List.filter_map, Function.comp_def,
    isWholeComment_mark_append h, Bool.not_not]

end Mark

theorem isMark_outer : IsMark "///" := by decide

theorem isMark_inner : IsMark "//!" := by decide

end ActivityForge.Source
