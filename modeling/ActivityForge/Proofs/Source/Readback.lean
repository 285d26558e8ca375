import ActivityForge.Proofs.DataType.Mentions
import ActivityForge.Proofs.Source.Members
import ActivityForge.Proofs.Source.Titles
import ActivityForge.Proofs.Text.Quotes

/-!
# Texts cut into lines again

The text of a file is cut into the lines that it was made of, and these where they have line feeds
inside (`linesOf_text_eq_cutLines`); so nothing happens to lines without any (`linesOf_text`).  Names, literals and comments have none, whatever they are made from, so a
model file can be cut into its lines unless its header or a type is broken (`whole_modelFile`).  A
type is broken only by the name of the module that the models live in
(`isBroken_fieldText_ofField`).
-/

namespace ActivityForge.Source

open Document (Schema)

/-! ## Lines of a text -/

/-- The lines of a text, each of which ends with a line feed. -/
def linesOf (text : String) : Lines := ((Text.splitAt '\n' text.toList).map String.ofList).dropLast

/-- No line has a line feed inside. -/
def Lines.Whole (lines : Lines) : Prop := ∀ line ∈ lines, isBroken line = false

theorem isBroken_eq_false_iff {text : String} : isBroken text = false ↔ '\n' ∉ text.toList := by
  rw [← Bool.not_eq_true, isBroken_iff]

/-- Lines cut where there are line feeds in them. -/
def cutLines (lines : Lines) : Lines :=
  lines.flatMap fun line => (Text.splitAt '\n' line.toList).map String.ofList

theorem cutLines_append (lines rest : Lines) :
    cutLines (lines ++ rest) = cutLines lines ++ cutLines rest := List.flatMap_append

theorem cutLines_cons {line : String} (h : isBroken line = false) (lines : Lines) :
    cutLines (line :: lines) = line :: cutLines lines := by
  rw [cutLines, List.flatMap_cons, Text.splitAt_of_not_mem (isBroken_eq_false_iff.1 h),
    List.map_singleton, String.ofList_toList, List.singleton_append]
  rfl

theorem cutLines_of_whole {lines : Lines} (h : lines.Whole) : cutLines lines = lines := by
  induction lines with
  | nil => rfl
  | cons line lines ih =>
    obtain ⟨hline, hlines⟩ := List.forall_mem_cons.1 h
    rw [cutLines_cons hline, ih hlines]

theorem linesOf_text_eq_cutLines (lines : Lines) : linesOf lines.text = cutLines lines := by
  have hsplit : (Text.splitAt '\n' lines.text.toList).map String.ofList =
      cutLines lines ++ [""] := by
    induction lines with
    | nil => rfl
    | cons line lines ih =>
      have htext : (Lines.text (line :: lines)).toList =
          line.toList ++ '\n' :: (Lines.text lines).toList := by
        simp [Lines.text, String.join_cons]
      rw [htext, Text.splitAt_append, List.map_append, ih, cutLines, cutLines, List.flatMap_cons,
        List.append_assoc]
  rw [linesOf, hsplit, List.dropLast_concat]

theorem linesOf_text {lines : Lines} (h : lines.Whole) : linesOf lines.text = lines := by
  rw [linesOf_text_eq_cutLines, cutLines_of_whole h]

/-! ## Whole lines -/

section Whole

variable {lines rest body : Lines} {line head tail : String}

theorem whole_nil : Lines.Whole [] := fun _ h => nomatch h

theorem whole_cons : Lines.Whole (line :: lines) ↔ isBroken line = false ∧ lines.Whole :=
  List.forall_mem_cons

theorem whole_append : Lines.Whole (lines ++ rest) ↔ lines.Whole ∧ rest.Whole :=
  List.forall_mem_append

/-- A line that is only there on a condition. -/
theorem whole_ite_singleton {c : Bool} (h : isBroken line = false) :
    Lines.Whole (if c then [line] else []) := by
  cases c with
  | false => exact whole_nil
  | true => exact whole_cons.2 ⟨h, whole_nil⟩

theorem whole_map {α : Type} {write : α → String} {as : List α} :
    Lines.Whole (as.map write) ↔ ∀ a ∈ as, isBroken (write a) = false :=
  List.forall_mem_map

theorem whole_flatMap {α : Type} {write : α → Lines} {as : List α} :
    Lines.Whole (as.flatMap write) ↔ ∀ a ∈ as, (write a).Whole :=
  List.forall_mem_flatMap

theorem whole_indent : (indent lines).Whole ↔ lines.Whole := by
  unfold indent
  rw [whole_map]
  refine forall₂_congr fun line _ => ?_
  split
  · rfl
  · rw [isBroken_append, show isBroken "    " = false by decide, Bool.false_or]

theorem whole_block : (block head body tail).Whole ↔
    isBroken head = false ∧ body.Whole ∧ isBroken tail = false := by
  have hopen : isBroken " \x7b" = false := by decide
  have hclose : isBroken "\x7d" = false := by decide
  simp only [block, whole_append, whole_cons, whole_indent, isBroken_append, hopen, hclose,
    Bool.or_false, Bool.false_or, whole_nil, and_true, and_assoc]

theorem whole_spaced {parts : List Lines} :
    (spaced parts).Whole ↔ ∀ part ∈ parts, part.Whole := by
  have hempty : isBroken "" = false := by decide
  simp only [spaced, whole_flatMap, whole_cons, hempty, true_and]

theorem whole_separated {parts : List Lines} :
    (separated parts).Whole ↔ ∀ part ∈ parts, part.Whole := by
  cases parts with
  | nil => exact iff_of_true whole_nil fun _ h => nomatch h
  | cons part parts => rw [separated, whole_append, whole_spaced, List.forall_mem_cons]

end Whole

/-! ## Texts on one line -/

/-- Literals are looked through character by character. -/
theorem isBroken_ofList (cs : List Char) : isBroken (String.ofList cs) = cs.contains '\n' := by
  rw [isBroken, String.toList_ofList]

theorem isBroken_around {first last : String} (hfirst : isBroken first = false)
    (hlast : isBroken last = false) (text : String) :
    isBroken (first ++ text ++ last) = isBroken text := by
  simp only [isBroken_append, hfirst, hlast, Bool.false_or, Bool.or_false]

theorem isBroken_intercalate {stop : String} (hstop : isBroken stop = false) {texts : List String}
    (h : ∀ text ∈ texts, isBroken text = false) : isBroken (stop.intercalate texts) = false := by
  rw [isBroken_eq_false_iff, String.toList_intercalate]
  intro hmem
  rcases Name.mem_intercalate hmem with hmem | ⟨chars, hchars, hmem⟩
  · exact isBroken_eq_false_iff.1 hstop hmem
  · obtain ⟨text, htext, rfl⟩ := List.mem_map.1 hchars
    exact isBroken_eq_false_iff.1 (h text htext) hmem

theorem isBroken_pascal (text : String) : isBroken (Name.ofText text).pascal = false :=
  isBroken_eq_false_iff.2 (Name.not_mem_pascal (by decide) text)

theorem isBroken_screaming (text : String) : isBroken (Name.ofText text).screaming = false :=
  isBroken_eq_false_iff.2 (Name.not_mem_screaming (by decide) text)

theorem isBroken_memberName (text : String) : isBroken (memberName text) = false :=
  isBroken_eq_false_iff.2 (Name.not_mem_memberName (by decide) text)

theorem isBroken_identifier (text : String) : isBroken (identifier text) = false :=
  isBroken_eq_false_iff.2 (not_mem_identifier (by decide) (by decide) text)

theorem isBroken_escapeKeyword (text : String) :
    isBroken (escapeKeyword text) = isBroken text := by
  have hraw : isBroken "r#" = false := by decide
  unfold escapeKeyword
  split
  · rw [isBroken_append, hraw, Bool.false_or]
  · rfl

theorem isBroken_toString (n : Nat) : isBroken (toString n) = false := by
  rw [isBroken_eq_false_iff, Number.toList_toString]
  exact fun h => absurd (Number.isDigit_of_mem_toDigits h) (by decide)

theorem isBroken_setterName {field : String} (h : isBroken field = false) :
    isBroken (setterName field) = false := by
  have hset : isBroken "set_" = false := by decide
  rw [setterName, isBroken_append, hset, Bool.false_or, isBroken_eq_false_iff,
    String.toList_ofList]
  exact fun hmem => isBroken_eq_false_iff.1 h ((List.dropWhile_sublist _).subset hmem)

theorem isBroken_literal (text : String) : isBroken (Text.literal text) = false := by
  rw [isBroken_eq_false_iff, Text.literal, String.toList_ofList]
  exact Text.lineFeed_not_mem_literalChars text.toList

theorem whole_comment {mark : String} (hmark : isBroken mark = false) (text : Option String) :
    (comment mark (docLines? text)).Whole := by
  refine whole_map.2 fun line hline => ?_
  rw [isBroken_append, hmark, Bool.false_or, isBroken_eq_false_iff]
  exact lineFeed_not_mem_docLines? hline

/-! ### Types -/

/-- A type is on one line if the references inside are. -/
theorem isBroken_typeText {t : DataType}
    (h : ∀ ns name, t.Mentions ns name → isBroken (DataType.qualify ns name) = false) :
    isBroken t.text = false := by
  induction t with
  | array item ih =>
    show isBroken ("Vec<" ++ item.text ++ ">") = false
    rw [isBroken_around (by decide) (by decide)]
    exact ih fun ns name hm => h ns name (.array hm)
  | map value ih =>
    show isBroken ("std::collections::HashMap<String, " ++ value.text ++ ">") = false
    rw [isBroken_around (by decide) (by decide)]
    exact ih fun ns name hm => h ns name (.map hm)
  | ref ns name => exact h ns name (.ref ns name)
  | nullable inner ih =>
    show isBroken ("Option<" ++ inner.text ++ ">") = false
    rw [isBroken_around (by decide) (by decide)]
    exact ih fun ns name hm => h ns name (.nullable hm)
  | _ => decide

theorem isBroken_fieldText {t : DataType}
    (h : ∀ ns name, t.Mentions ns name → isBroken (DataType.qualify ns name) = false)
    (enclosing : String) : isBroken (t.fieldText enclosing) = false := by
  have hboxed {u : DataType} (hu : isBroken u.text = false) :
      isBroken ("Option<Box<" ++ u.text ++ ">>") = false := by
    rwa [isBroken_around (by decide) (by decide)]
  have htext := isBroken_typeText h
  have hdirect {u : DataType} (hu : isBroken u.text = false) :
      isBroken (if u.refersTo enclosing then "Option<Box<" ++ u.text ++ ">>" else t.text) =
        false := by
    split
    · exact hboxed hu
    · exact htext
  unfold DataType.fieldText
  refine hdirect ?_
  split
  · split
    · exact isBroken_typeText fun ns name hm => h ns name (.nullable hm)
    · exact htext
  · exact htext

/-- What a reference becomes is on one line if the module of the models is. -/
theorem isBroken_qualify {scope target ns name : String} (hscope : isBroken scope = false)
    (href : DataType.ofReference scope target = .ref ns name) :
    isBroken (DataType.qualify ns name) = false := by
  rw [DataType.ofReference, DataType.ref.injEq] at href
  obtain ⟨rfl, rfl⟩ := href
  have hcolons : isBroken "::" = false := by decide
  have hname := isBroken_pascal (String.ofList (DataType.lastSegment target.toList))
  unfold DataType.qualify
  split
  · exact hname
  · rw [isBroken_append, isBroken_append, hscope, hcolons, hname]
    rfl

/-- The type of a property. -/
theorem isBroken_fieldText_ofField {scope : String} (hscope : isBroken scope = false)
    (schema : Schema) (required : Bool) (enclosing : String) :
    isBroken ((DataType.ofField scope (some schema) required).fieldText enclosing) = false := by
  refine isBroken_fieldText (fun ns name hm => ?_) enclosing
  obtain ⟨target, -, href⟩ := DataType.mentions_ofSchema schema (DataType.mentions_ofField hm)
  exact isBroken_qualify hscope href

/-! ## Model files -/

section ModelFile

variable {model : String} {f : Model.Field} (htype : isBroken (f.type.fieldText model) = false)

include htype

theorem isBroken_binderText : isBroken (StructField.ofField model f).binder.text = false := by
  have hcolon : isBroken ": " = false := by decide
  rw [StructField.ofField_binder, Binder.text, isBroken_append, isBroken_append,
    isBroken_identifier, hcolon, htype]
  rfl

theorem whole_fieldLines : (StructField.ofField model f).lines.Whole := by
  have hattribute : isBroken (StructField.ofField model f).wireText = false := by
    have hrename : isBroken (StructField.ofField model f).rename = false :=
      isBroken_literal f.originalName
    have hstart : isBroken "#[serde(rename = " = false := by decide
    rw [wireText_eq, isBroken_append, isBroken_append, hstart, hrename]
    cases (StructField.ofField model f).optional <;> decide
  have hbinder : isBroken ((StructField.ofField model f).binder.text ++ ",") = false := by
    rw [isBroken_append, isBroken_binderText htype]
    decide
  have hdocs : (comment "///" (StructField.ofField model f).docs).Whole :=
    whole_comment (by decide) f.description
  rw [StructField.lines, whole_append, whole_cons, whole_cons]
  exact ⟨hdocs, hattribute, hbinder, whole_nil⟩

theorem whole_accessorLines : (spaced [(StructField.ofField model f).getterLines,
    (StructField.ofField model f).setterLines]).Whole := by
  have hbinder := isBroken_binderText htype
  have hname : isBroken (StructField.ofField model f).binder.name = false :=
    isBroken_identifier f.fieldName
  have hwritten : isBroken (StructField.ofField model f).binder.type = false := htype
  have hsetter : isBroken (StructField.ofField model f).setter = false :=
    isBroken_setterName (isBroken_memberName f.fieldName)
  simp only [whole_spaced, List.forall_mem_cons, StructField.getterLines, StructField.setterLines,
    whole_block, whole_cons, whole_nil, isBroken_append, hbinder, hname, hwritten, hsetter]
  exact ⟨by decide, by decide, by simp⟩

end ModelFile

/-- The header and the types of the fields are all that may break a line. -/
theorem whole_modelFile {info : Document.Info} {m : Model} (htitle : isBroken info.title = false)
    (hversion : isBroken info.version = false) (hname : isBroken m.name.pascal = false)
    (htypes : ∀ f ∈ m.fields, isBroken (f.type.fieldText m.name.pascal) = false) :
    (ModelFile.ofModel info m).lines.Whole := by
  have hheader : isBroken (ModelFile.ofModel info m).header = false :=
    isBroken_headerLine_eq_false htitle hversion
  have hstruct : isBroken (ModelFile.ofModel info m).name = false := hname
  have hdocs : (comment "///" (ModelFile.ofModel info m).docs).Whole :=
    whole_comment (by decide) m.description
  have hfields : (ModelFile.ofModel info m).fields =
      m.fields.map (StructField.ofField m.name.pascal) := rfl
  have hbinders : isBroken (", ".intercalate
      ((ModelFile.ofModel info m).fields.map (·.binder.text))) = false := by
    refine isBroken_intercalate (by decide) ?_
    rw [hfields, List.forall_mem_map, List.forall_mem_map]
    exact fun f hf => isBroken_binderText (htypes f hf)
  have hvalues : Lines.Whole
      ((ModelFile.ofModel info m).fields.map fun f => f.binder.name ++ ",") := by
    rw [hfields, whole_map, List.forall_mem_map]
    intro f _
    rw [isBroken_append, StructField.ofField_binder, isBroken_identifier]
    decide
  have hlines : Lines.Whole ((ModelFile.ofModel info m).fields.flatMap StructField.lines) := by
    rw [hfields, whole_flatMap, List.forall_mem_map]
    exact fun f hf => whole_fieldLines (htypes f hf)
  have haccessors : Lines.Whole ((ModelFile.ofModel info m).fields.flatMap
      fun f => spaced [f.getterLines, f.setterLines]) := by
    rw [hfields, whole_flatMap, List.forall_mem_map]
    exact fun f hf => whole_accessorLines (htypes f hf)
  simp only [ModelFile.lines, whole_append, whole_cons, whole_nil, whole_block, isBroken_append,
    hheader, hstruct, hdocs, hbinders, hvalues, hlines, haccessors]
  decide

end ActivityForge.Source
