import ActivityForge.Proofs.Reference.Target
import ActivityForge.Source.Layout

/-!
# Reading lines back

Generated source is read back line by line.  `between?` cuts a line down to the part between a
beginning and an end, `inside` takes the lines that stand further in, `blockOf` finds the block with
a given head (`blockOf_block`), `scan` collects what a reader finds at each line, and `readAll?`
does so only if it makes sense of every line.
-/

namespace ActivityForge.Source

open Document (dropStart? dropStart?_append)

/-! ## One line -/

def startsWith (start line : String) : Bool := (dropStart? start.toList line.toList).isSome

/-- The part of a line between a beginning and an end. -/
def between? (start stop line : String) : Option String := do
  let rest ← dropStart? start.toList line.toList
  let middle ← dropStart? stop.toList.reverse rest.reverse
  pure (String.ofList middle.reverse)

theorem startsWith_append (start rest : String) : startsWith start (start ++ rest) = true := by
  rw [startsWith, String.toList_append, dropStart?_append, Option.isSome_some]

/-- Beginnings of literals are compared character by character. -/
theorem startsWith_ofList (start line : List Char) :
    startsWith (String.ofList start) (String.ofList line) = (dropStart? start line).isSome := by
  rw [startsWith, String.toList_ofList, String.toList_ofList]

theorem startsWith_append_append_self (start middle stop : String) :
    startsWith start (start ++ middle ++ stop) = true := by
  rw [String.append_assoc, startsWith_append]

theorem between?_append (start middle stop : String) :
    between? start stop (start ++ middle ++ stop) = some middle := by
  simp only [between?, String.toList_append, List.append_assoc, dropStart?_append,
    Option.bind_eq_bind, Option.bind_some, List.reverse_append, List.reverse_reverse,
    String.ofList_toList]
  rfl

theorem between?_eq_none {start stop line : String} (h : startsWith start line = false) :
    between? start stop line = none := by
  rw [startsWith, Option.isSome_eq_false_iff, Option.isNone_iff_eq_none] at h
  rw [between?, h]
  rfl

/-- Lines with different first characters do not begin alike. -/
theorem startsWith_eq_false {start line : String} (hstart : start ≠ "")
    (h : line.toList.head? ≠ start.toList.head?) : startsWith start line = false := by
  have hne : start.toList ≠ [] := by simpa using hstart
  rw [startsWith]
  generalize start.toList = cs at hne h
  generalize line.toList = ds at h
  match cs, ds with
  | [], _ => exact absurd rfl hne
  | c :: cs, [] => rfl
  | c :: cs, d :: ds =>
    have hcd : c ≠ d := fun he => h (by simp [he])
    simp [dropStart?, hcd]

/-- A line that ends in another character has nothing before the end. -/
theorem between?_eq_none_of_getLast? {start stop line : String} (hstop : stop ≠ "")
    (h : line.toList.getLast? ≠ stop.toList.getLast?) : between? start stop line = none := by
  unfold between?
  cases hrest : dropStart? start.toList line.toList with
  | none => rfl
  | some rest =>
    have hline : line.toList = start.toList ++ rest := Document.dropStart?_eq_some hrest
    cases hmiddle : dropStart? stop.toList.reverse rest.reverse with
    | none => simp [hmiddle]
    | some middle =>
      have hreverse := congrArg List.reverse (Document.dropStart?_eq_some hmiddle)
      rw [List.reverse_append, List.reverse_reverse, List.reverse_reverse] at hreverse
      obtain ⟨c, hlast⟩ : ∃ c, stop.toList.getLast? = some c := by
        rw [← Option.isSome_iff_exists, List.getLast?_isSome]
        simpa using hstop
      rw [hline, hreverse, ← List.append_assoc, List.getLast?_append, hlast] at h
      exact absurd rfl h

/-! ## Blocks -/

/-- The space by which lines stand further in. -/
def margin : String := "    "

/-- A line inside a block, as opposed to the line that closes it. -/
def isInner (line : String) : Bool := line.isEmpty || startsWith margin line

/-- Lines one step further out. -/
def unindent (lines : Lines) : Lines :=
  lines.map fun line =>
    match dropStart? margin.toList line.toList with
    | some rest => String.ofList rest
    | none => line

/-- The lines inside the block that `lines` begin in the middle of. -/
def inside (lines : Lines) : Lines := unindent (lines.takeWhile isInner)

/-- The lines behind those inside the block. -/
def outside (lines : Lines) : Lines := lines.dropWhile isInner

/-- The lines inside the first block whose head begins with a text. -/
def blockOf (head : String) (lines : Lines) : Lines :=
  inside (lines.dropWhile fun line => !startsWith head line).tail

theorem unindent_indent (lines : Lines) : unindent (indent lines) = lines := by
  rw [unindent, indent, List.map_map]
  refine List.map_id'' (fun line => ?_) lines
  by_cases h : line = ""
  · subst h
    rfl
  · have hcut : dropStart? margin.toList ("    " ++ line).toList = some line.toList := by
      rw [String.toList_append]
      exact dropStart?_append _ _
    simp only [Function.comp_apply, String.isEmpty_iff, h, ↓reduceIte, hcut, String.ofList_toList]

theorem indent_singleton {line : String} (h : line ≠ "") : indent [line] = ["    " ++ line] := by
  rw [indent, List.map_singleton, if_neg (by simpa using h)]

theorem isInner_of_mem_indent {lines : Lines} {line : String} (h : line ∈ indent lines) :
    isInner line = true := by
  obtain ⟨l, -, rfl⟩ := List.mem_map.1 h
  by_cases hl : l = ""
  · subst hl
    rfl
  · simp only [String.isEmpty_iff, hl, ↓reduceIte, isInner, Bool.or_eq_true]
    exact Or.inr (startsWith_append margin l)

/-- A beginning that no line inside a block has. -/
def Outer (text : String) : Prop := text ≠ "" ∧ text.toList.head? ≠ some ' '

instance (text : String) : Decidable (Outer text) := inferInstanceAs (Decidable (_ ∧ _))

theorem Outer.append {text : String} (h : Outer text) (rest : String) : Outer (text ++ rest) := by
  obtain ⟨hne, hhead⟩ := h
  refine ⟨by simp [hne], ?_⟩
  obtain ⟨c, cs, hcons⟩ : ∃ c cs, text.toList = c :: cs :=
    List.exists_cons_of_ne_nil (by simpa using hne)
  rw [String.toList_append, hcons, List.cons_append]
  rwa [hcons] at hhead

theorem Outer.isInner_eq_false {line : String} (h : Outer line) : isInner line = false := by
  rw [isInner, Bool.or_eq_false_iff]
  exact ⟨by simpa using h.1, startsWith_eq_false (by decide) h.2⟩

theorem Outer.startsWith_inner {start line : String} (h : Outer start)
    (hline : isInner line = true) : startsWith start line = false := by
  refine startsWith_eq_false h.1 fun he => ?_
  by_cases hempty : line = ""
  · subst hempty
    exact h.1 (by simpa using he.symm)
  · have houter : Outer line := ⟨hempty, he ▸ h.2⟩
    rw [houter.isInner_eq_false] at hline
    exact absurd hline Bool.false_ne_true

theorem inside_append {body : Lines} (hbody : ∀ line ∈ body, isInner line = true) {close : String}
    (h : isInner close = false) (rest : Lines) :
    inside (body ++ close :: rest) = unindent body := by
  rw [inside, List.takeWhile_append_of_pos hbody, List.takeWhile_cons_of_neg (by simp [h]),
    List.append_nil]

theorem inside_indent_append (body : Lines) {close : String} (h : isInner close = false)
    (rest : Lines) : inside (indent body ++ close :: rest) = body := by
  rw [inside_append (fun _ hl => isInner_of_mem_indent hl) h, unindent_indent]

theorem outside_indent_append (body : Lines) {close : String} (h : isInner close = false)
    (rest : Lines) : outside (indent body ++ close :: rest) = close :: rest := by
  rw [outside, List.dropWhile_append_of_pos fun _ hl => isInner_of_mem_indent hl,
    List.dropWhile_cons_of_neg (by simp [h])]

theorem isInner_close (tail : String) : isInner ("\x7d" ++ tail) = false :=
  (Outer.append (by decide) tail).isInner_eq_false

theorem inside_block (body : Lines) (tail : String) (rest : Lines) :
    inside (indent body ++ ["\x7d" ++ tail] ++ rest) = body := by
  rw [List.append_assoc, List.singleton_append, inside_indent_append body (isInner_close tail)]

/-- A block is found by its head, if no line before it begins like the head. -/
theorem blockOf_append {start head : String} {before : Lines}
    (hbefore : ∀ line ∈ before, startsWith start line = false)
    (hhead : startsWith start head = true) (rest : Lines) :
    blockOf start (before ++ head :: rest) = inside rest := by
  rw [blockOf, List.dropWhile_append_of_pos (by simpa using hbefore),
    List.dropWhile_cons_of_neg (by simp [hhead]), List.tail_cons]

theorem blockOf_block {start head : String} {before : Lines}
    (hbefore : ∀ line ∈ before, startsWith start line = false)
    (hhead : startsWith start (head ++ " \x7b") = true) (body : Lines) (tail : String)
    (after : Lines) : blockOf start (before ++ block head body tail ++ after) = body := by
  rw [List.append_assoc, block, List.cons_append, List.cons_append,
    blockOf_append hbefore hhead, inside_block]

/-! ## Readers -/

/-- Something that is read from a line with a certain beginning and the lines behind it. -/
structure Reader (α : Type) where
  start : String
  read? : String → Lines → Option α

namespace Reader

variable {α β : Type} {r : Reader α}

/-- What a reader finds, line by line. -/
def scan (r : Reader α) : Lines → List α
  | [] => []
  | line :: rest =>
    (if startsWith r.start line then r.read? line rest else none).toList ++ r.scan rest

theorem scan_append {part : Lines} (h : ∀ line ∈ part, startsWith r.start line = false)
    (rest : Lines) : r.scan (part ++ rest) = r.scan rest := by
  induction part with
  | nil => rfl
  | cons line part ih =>
    rw [List.forall_mem_cons] at h
    rw [List.cons_append, scan, h.1, if_neg Bool.false_ne_true, Option.toList_none,
      List.nil_append, ih h.2]

/-- A part with one line that begins as the reader asks. -/
theorem scan_part {before after : Lines} {line : String} {a : α}
    (hbefore : ∀ l ∈ before, startsWith r.start l = false) (hline : startsWith r.start line = true)
    (hread : ∀ rest, r.read? line (after ++ rest) = some a)
    (hafter : ∀ l ∈ after, startsWith r.start l = false) (rest : Lines) :
    r.scan (before ++ line :: after ++ rest) = a :: r.scan rest := by
  rw [List.append_assoc, scan_append hbefore, List.cons_append, scan, if_pos hline, hread,
    Option.toList_some, scan_append hafter, List.singleton_append]

/-- A block whose head begins as the reader asks. -/
theorem scan_block {before body : Lines} {head tail : String} {a : α} (hstart : Outer r.start)
    (hbefore : ∀ l ∈ before, startsWith r.start l = false)
    (hhead : startsWith r.start (head ++ " \x7b") = true)
    (hread : ∀ rest, r.read? (head ++ " \x7b") (indent body ++ ["\x7d" ++ tail] ++ rest) = some a)
    (hclose : startsWith r.start ("\x7d" ++ tail) = false) (rest : Lines) :
    r.scan (before ++ block head body tail ++ rest) = a :: r.scan rest := by
  have hbody : ∀ l ∈ indent body ++ ["\x7d" ++ tail], startsWith r.start l = false := by
    rw [List.forall_mem_append, List.forall_mem_singleton]
    exact ⟨fun l hl => hstart.startsWith_inner (isInner_of_mem_indent hl), hclose⟩
  exact scan_part hbefore hhead hread hbody rest

/-- A reader that finds one thing in every part finds as many things as there are parts. -/
theorem scan_spaced {write : β → Lines} {view : β → α} (hstart : r.start ≠ "")
    (h : ∀ b rest, r.scan (write b ++ rest) = view b :: r.scan rest) (bs : List β) :
    r.scan (spaced (bs.map write)) = bs.map view := by
  induction bs with
  | nil => rfl
  | cons b bs ih =>
    have hempty : ∀ line ∈ [""], startsWith r.start line = false := by
      intro line hline
      obtain rfl := List.mem_singleton.1 hline
      exact startsWith_eq_false hstart (by simpa using fun he => hstart (by simpa using he.symm))
    have hcons : spaced ((b :: bs).map write) = [""] ++ (write b ++ spaced (bs.map write)) := by
      simp [spaced]
    rw [hcons, scan_append hempty, h, ih, List.map_cons]

theorem scan_separated {write : β → Lines} {view : β → α} (hstart : r.start ≠ "")
    (h : ∀ b rest, r.scan (write b ++ rest) = view b :: r.scan rest) (bs : List β) :
    r.scan (separated (bs.map write)) = bs.map view := by
  cases bs with
  | nil => rfl
  | cons b bs => rw [List.map_cons, separated, h, scan_spaced hstart h, List.map_cons]

end Reader

/-! ## Whole files -/

section ReadAll

variable {α β : Type} {leftOut : String → Bool} {read? : String → Lines → Option α}

/-- What is read from every line that is not left out; nothing if some line makes no sense. -/
def readAll? (leftOut : String → Bool) (read? : String → Lines → Option α) :
    Lines → Option (List α)
  | [] => some []
  | line :: rest =>
    if leftOut line then readAll? leftOut read? rest
    else do
      let a ← read? line rest
      let as ← readAll? leftOut read? rest
      pure (a :: as)

theorem readAll?_append {part : Lines} (h : ∀ line ∈ part, leftOut line = true) (rest : Lines) :
    readAll? leftOut read? (part ++ rest) = readAll? leftOut read? rest := by
  induction part with
  | nil => rfl
  | cons line part ih =>
    rw [List.forall_mem_cons] at h
    rw [List.cons_append, readAll?, if_pos h.1, ih h.2]

theorem readAll?_cons {line : String} {rest : Lines} {a : α} (hline : leftOut line = false)
    (hread : read? line rest = some a) :
    readAll? leftOut read? (line :: rest) = (readAll? leftOut read? rest).map (a :: ·) := by
  rw [readAll?, hline, if_neg Bool.false_ne_true, hread]
  cases readAll? leftOut read? rest <;> rfl

/-- Each of the lines is read by itself. -/
theorem readAll?_map {write : β → String} {view : β → α} (hline : ∀ b, leftOut (write b) = false)
    (hread : ∀ b rest, read? (write b) rest = some (view b)) (bs : List β) (rest : Lines) :
    readAll? leftOut read? (bs.map write ++ rest) =
      (readAll? leftOut read? rest).map (bs.map view ++ ·) := by
  induction bs with
  | nil => simp
  | cons b bs ih =>
    rw [List.map_cons, List.cons_append, readAll?_cons (hline b) (hread b _), ih, Option.map_map]
    rfl

end ReadAll

end ActivityForge.Source
