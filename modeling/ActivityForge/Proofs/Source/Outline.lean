import ActivityForge.Proofs.Source.Layout
import ActivityForge.Source.Implementation

/-!
# The outline of generated source

What generated source declares, as it is read off its lines: the methods of a block
(`MethodStyle.reader`), the calls of client functions inside methods (`callReader`), and the structs
(`structReader`).  Each reader finds in a declaration, a definition or a request object the data
that it was written from (`scan_methodLines`, `scan_definition`, `scan_call`, `scan_request`).
-/

namespace ActivityForge.Source

/-! ## Readers -/

/-- A method as it is written. -/
structure Method where
  name : String
  /-- The lines of the parameters behind the receiver. -/
  parameters : Lines
  result : String
deriving DecidableEq, Repr

/-- How the first and the last line of a signature are written. -/
structure MethodStyle where
  start : String
  resultStart : String
  resultEnd : String
  start_outer : Outer start
  resultStart_outer : Outer resultStart

/-- How the trait declares a method. -/
def traitStyle : MethodStyle :=
  ⟨"fn ", ") -> impl Future<Output = Result<", ", ActivityFailure>> + Send;", by decide, by decide⟩

/-- How an implementation defines a method. -/
def implStyle : MethodStyle :=
  ⟨"async fn ", ") -> Result<", ", ActivityFailure> \x7b", by decide, by decide⟩

def MethodStyle.reader (style : MethodStyle) : Reader Method where
  start := style.start
  read? line rest := do
    let name ← between? style.start "(" line
    let close ← (outside rest).head?
    let result ← between? style.resultStart style.resultEnd close
    match inside rest with
    | receiver :: parameters =>
      if receiver = "&self," then some ⟨name, parameters, result⟩ else none
    | [] => none

/-- The call of a client function as it is written. -/
structure Call where
  function : String
  /-- The lines of the arguments behind the configuration. -/
  arguments : Lines
  /-- Whether the result of the function is dropped. -/
  dropsResult : Bool
deriving DecidableEq, Repr

/-- The call that the body of a method consists of. -/
def Call.ofBody? : Lines → Option Call
  | [] => none
  | line :: rest => do
    let function ← between? "" "(" line
    match inside rest with
    | configuration :: arguments =>
      if configuration = "&self.configuration," then
        some ⟨function, arguments, (outside rest).contains ".map(|_| ())"⟩
      else none
    | [] => none

/-- The calls of an implementation, each in the body of a method. -/
def callReader : Reader Call where
  start := implStyle.start
  read? _ rest := Call.ofBody? (inside (outside rest).tail)

/-- A struct as it is written. -/
structure Struct where
  name : String
  /-- The lines of the fields, without comments. -/
  fields : Lines
deriving DecidableEq, Repr

def structReader : Reader Struct where
  start := "pub struct "
  read? line rest := do
    let name ← between? "pub struct " " \x7b" line
    pure ⟨name, (inside rest).filter fun l => !startsWith "///" l⟩

/-! ## Methods -/

/-- A signature as it is written. -/
def Signature.method (s : Signature) : Method :=
  ⟨s.name, s.parameters.map fun b => b.text ++ ",", s.result⟩

/-- The last line of a signature. -/
def MethodStyle.close (style : MethodStyle) (s : Signature) : String :=
  style.resultStart ++ s.result ++ style.resultEnd

theorem isInner_methodClose (style : MethodStyle) (s : Signature) :
    isInner (style.close s) = false :=
  ((style.resultStart_outer.append _).append _).isInner_eq_false

/-- The lines of a method between other lines that do not begin like one. -/
theorem scan_method {style : MethodStyle} (s : Signature) {before after : Lines}
    (hother : ∀ l ∈ before ++ style.close s :: after, startsWith style.start l = false)
    (rest : Lines) :
    style.reader.scan
        (before ++ (style.start ++ s.name ++ "(") :: (s.parameterLines ++ style.close s :: after)
          ++ rest) =
      s.method :: style.reader.scan rest := by
  have hclose := isInner_methodClose style s
  rw [List.forall_mem_append] at hother
  refine Reader.scan_part hother.1 ?_ (fun rest => ?_) ?_ rest
  · exact startsWith_append_append_self ..
  · simp only [MethodStyle.reader, between?_append, Signature.parameterLines, List.append_assoc,
      List.cons_append, outside_indent_append _ hclose, inside_indent_append _ hclose,
      List.head?_cons, Option.bind_eq_bind, Option.bind_some, ↓reduceIte]
    rw [MethodStyle.close, between?_append]
    rfl
  · rw [List.forall_mem_append]
    exact ⟨fun l hl => style.start_outer.startsWith_inner (isInner_of_mem_indent hl), hother.2⟩

theorem scan_methodLines (d : Declaration) (rest : Lines) :
    traitStyle.reader.scan (d.methodLines ++ rest) =
      d.signature.method :: traitStyle.reader.scan rest := by
  have hlines : d.methodLines =
      comment "///" d.docs ++ (if d.deprecated then ["#[deprecated]"] else []) ++
        (traitStyle.start ++ d.signature.name ++ "(") ::
          (d.signature.parameterLines ++ [traitStyle.close d.signature]) := by
    simp [Declaration.methodLines, traitStyle, MethodStyle.close]
  rw [hlines]
  refine scan_method d.signature ?_ rest
  intro line hline
  refine startsWith_eq_false (by decide) ?_
  rcases List.mem_append.1 hline with h | h
  · rcases List.mem_append.1 h with h | h
    · obtain ⟨text, -, rfl⟩ := List.mem_map.1 h
      simp [traitStyle]
    · split at h
      · obtain rfl := List.mem_singleton.1 h
        decide
      · cases h
  · obtain rfl := List.mem_singleton.1 h
    simp [traitStyle, MethodStyle.close]

/-! ## Definitions and calls -/

/-- The call of a definition as it is written. -/
def Definition.call (clientScope : String) (d : Definition) : Call :=
  ⟨clientScope ++ "::apis::" ++ d.clientModule ++ "::" ++ d.signature.name,
    d.arguments.map (· ++ ","), d.isVoid⟩

/-- The lines of a definition behind its first. -/
def Definition.tailLines (clientScope : String) (d : Definition) : Lines :=
  d.signature.parameterLines ++ implStyle.close d.signature ::
    (indent (d.callLines clientScope) ++ ["\x7d" ++ ""])

theorem Definition.lines_eq (clientScope : String) (d : Definition) :
    d.lines clientScope =
      [] ++ (implStyle.start ++ d.signature.name ++ "(") :: d.tailLines clientScope := by
  simp [Definition.lines, Definition.tailLines, block, implStyle, MethodStyle.close,
    String.append_assoc]

theorem startsWith_tailLines {clientScope : String} {d : Definition} {line : String}
    (h : line ∈ implStyle.close d.signature ::
      (indent (d.callLines clientScope) ++ ["\x7d" ++ ""])) :
    startsWith implStyle.start line = false := by
  rcases List.mem_cons.1 h with rfl | h
  · exact startsWith_eq_false (by decide) (by simp [implStyle, MethodStyle.close])
  · rcases List.mem_append.1 h with h | h
    · exact implStyle.start_outer.startsWith_inner (isInner_of_mem_indent h)
    · obtain rfl := List.mem_singleton.1 h
      decide

theorem scan_definition (clientScope : String) (d : Definition) (rest : Lines) :
    implStyle.reader.scan (d.lines clientScope ++ rest) =
      d.signature.method :: implStyle.reader.scan rest := by
  rw [Definition.lines_eq]
  exact scan_method d.signature (fun _ hl => startsWith_tailLines hl) rest

/-- What follows the arguments of a call, behind the closing parenthesis. -/
def Definition.resultLines (d : Definition) : Lines :=
  ".await" :: ((if d.isVoid then [".map(|_| ())"] else []) ++
    [".map_err(|err| ActivityFailure::new(API_ERROR, format!(\"API call failed: \x7berr\x7d\")))"])

theorem contains_resultLines (d : Definition) :
    (")" :: d.resultLines).contains ".map(|_| ())" = d.isVoid := by
  rw [Definition.resultLines]
  cases d.isVoid <;> decide

theorem ofBody?_callLines (clientScope : String) (d : Definition) :
    Call.ofBody? (d.callLines clientScope) = some (d.call clientScope) := by
  have hclose : isInner ")" = false := by decide
  have hfunction : between? "" "(" ((d.call clientScope).function ++ "(") =
      some (d.call clientScope).function := by
    simpa using between?_append "" (d.call clientScope).function "("
  have hlines : d.callLines clientScope = ((d.call clientScope).function ++ "(") ::
      (indent ("&self.configuration," :: (d.call clientScope).arguments)
        ++ ")" :: d.resultLines) := by
    simp [Definition.callLines, Definition.call, Definition.resultLines]
  rw [hlines, Call.ofBody?, hfunction, inside_indent_append _ hclose,
    outside_indent_append _ hclose, contains_resultLines]
  rfl

theorem scan_call (clientScope : String) (d : Definition) (rest : Lines) :
    callReader.scan (d.lines clientScope ++ rest) =
      d.call clientScope :: callReader.scan rest := by
  have hclose := isInner_methodClose implStyle d.signature
  rw [Definition.lines_eq]
  refine Reader.scan_part (by simp) ?_ (fun rest => ?_) ?_ rest
  · exact startsWith_append_append_self ..
  · rw [Definition.tailLines, Signature.parameterLines, List.append_assoc, List.cons_append]
    simp only [callReader]
    rw [outside_indent_append _ hclose, List.tail_cons, inside_block, ofBody?_callLines]
  · intro line hline
    rcases List.mem_append.1 hline with h | h
    · exact implStyle.start_outer.startsWith_inner (isInner_of_mem_indent h)
    · exact startsWith_tailLines h

/-! ## Request objects -/

/-- A request object as it is written. -/
def Request.struct (r : Request) : Struct :=
  ⟨r.name, r.fields.map fun f => "pub " ++ f.binder.text ++ ","⟩

theorem filter_fieldLines (fields : List RequestField) :
    (fields.flatMap fun f => comment "///" f.docs ++ ["pub " ++ f.binder.text ++ ","]).filter
        (fun l => !startsWith "///" l) =
      fields.map fun f => "pub " ++ f.binder.text ++ "," := by
  have hdocs (f : RequestField) :
      (comment "///" f.docs).filter (fun l => !startsWith "///" l) = [] := by
    rw [List.filter_eq_nil_iff]
    intro line hline
    obtain ⟨text, -, rfl⟩ := List.mem_map.1 hline
    simp [startsWith_append]
  have hfield (f : RequestField) : startsWith "///" ("pub " ++ f.binder.text ++ ",") = false :=
    startsWith_eq_false (by decide) (by simp)
  induction fields with
  | nil => rfl
  | cons f fields ih =>
    rw [List.flatMap_cons, List.filter_append, ih, List.filter_append, hdocs, List.map_cons]
    simp [hfield]

theorem scan_request (contract : String) (r : Request) (rest : Lines) :
    structReader.scan (r.lines contract ++ rest) = r.struct :: structReader.scan rest := by
  have hlines : r.lines contract =
      ["/// Arguments of [\x60super::" ++ contract ++ "::" ++ r.method ++ "\x60].",
        "#[derive(Debug, Clone)]"] ++ (structReader.start ++ r.name ++ " \x7b") ::
        (indent (r.fields.flatMap fun f =>
          comment "///" f.docs ++ ["pub " ++ f.binder.text ++ ","]) ++ ["\x7d" ++ ""]) := rfl
  rw [hlines]
  refine Reader.scan_part ?_ ?_ (fun rest => ?_) ?_ rest
  · intro line hline
    refine startsWith_eq_false (by decide) ?_
    obtain rfl | rfl : line = _ ∨ line = _ := by simpa using hline
    · simp [structReader]
    · decide
  · exact startsWith_append_append_self ..
  · simp only [structReader]
    rw [between?_append, inside_block, filter_fieldLines]
    rfl
  · intro line hline
    rcases List.mem_append.1 hline with h | h
    · exact Outer.startsWith_inner (by decide) (isInner_of_mem_indent h)
    · obtain rfl := List.mem_singleton.1 h
      decide

end ActivityForge.Source
