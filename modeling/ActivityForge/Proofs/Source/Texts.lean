import ActivityForge.Proofs.Activity.Settling
import ActivityForge.Proofs.Blueprint.Enumeration
import ActivityForge.Proofs.Blueprint.ModelReferences
import ActivityForge.Proofs.Dict
import ActivityForge.Proofs.Source.Emitted
import ActivityForge.Proofs.Source.Readback

/-!
# The texts of the contract and of the implementation

Some of what a blueprint says gets into the contract and the implementation as it is: the title, the
version, the paths, types and the forms of names, and so do the names in the settings.  If none of
it has a line feed in it, the two files are cut into the lines that they were written from
(`linesOf_contractArtifact`, `linesOf_implementationArtifact`), and what is read off these lines is
in the texts.  For a document, whatever it contains, only its title, its version and its paths
matter, with the settings (`contractOnOneLine_of_ofDocument`).
-/

namespace ActivityForge

/-- What is written of an activity as it is has no line feed in it. -/
structure Activity.OnOneLine (a : Activity) : Prop where
  path : Source.isBroken a.path = false
  requestName : Source.isBroken a.requestName = false
  constant : Source.isBroken a.name.screaming = false
  arguments : ∀ arg ∈ a.arguments, Source.isBroken arg.type.text = false
  result : Source.isBroken a.resultText = false

/-- The title, the version and the paths of a document have no line feeds in them. -/
structure Document.OnOneLine (d : Document) : Prop where
  title : Source.isBroken d.info.title = false
  version : Source.isBroken d.info.version = false
  paths : ∀ path ∈ d.paths.keys, Source.isBroken path = false

namespace Source

/-- What gets into the contract as it is has no line feed in it. -/
structure ContractOnOneLine (b : Blueprint) (s : Settings) : Prop where
  title : isBroken b.info.title = false
  version : isBroken b.info.version = false
  activities : ∀ a ∈ b.activities, a.OnOneLine
  contractName : isBroken s.contractName = false

/-- Neither has what the implementation takes from the settings besides. -/
structure WrittenOnOneLine (b : Blueprint) (s : Settings) : Prop
    extends ContractOnOneLine b s where
  package : isBroken s.package = false
  clientScope : isBroken s.clientScope = false

/-! ## One activity -/

theorem isBroken_methodName (a : Activity) : isBroken a.methodName = false :=
  isBroken_identifier a.name.snake

/-- A call has nothing but names in it. -/
theorem whole_callLines {scope : String} (hscope : isBroken scope = false) (a : Activity) :
    ((Definition.ofActivity a).callLines scope).Whole := by
  have hmodule : isBroken (Definition.ofActivity a).clientModule = false := by
    have happend : isBroken "_api" = false := by decide
    rw [Definition.ofActivity, Activity.clientModule, isBroken_escapeKeyword, isBroken_append,
      isBroken_memberName, happend]
    rfl
  have hname : isBroken (Definition.ofActivity a).signature.name = false := by
    rw [Definition.ofActivity, Activity.signature, isBroken_methodName]
  have harguments : Lines.Whole ((Definition.ofActivity a).arguments.map (· ++ ",")) := by
    rw [whole_map, Definition.ofActivity, Activity.callArguments, List.forall_mem_map]
    intro arg _
    split
    · simp only [isBroken_append, isBroken_identifier]
      decide
    · simp only [isBroken_append, isBroken_identifier]
      decide
  have hdrop : Lines.Whole (if (Definition.ofActivity a).isVoid then [".map(|_| ())"] else []) :=
    whole_ite_singleton (by decide)
  simp only [Definition.callLines, whole_append, whole_cons, whole_nil, whole_indent,
    isBroken_append, hscope, hmodule, hname, harguments, hdrop]
  decide

section Activity

variable {a : Activity} (h : a.OnOneLine)

include h

theorem isBroken_binder {arg : Activity.Argument} (harg : arg ∈ a.arguments) :
    isBroken arg.binder.text = false := by
  have hcolon : isBroken ": " = false := by decide
  have hname : isBroken arg.binder.name = false := by
    rw [Activity.Argument.binder, isBroken_identifier]
  have htype : isBroken arg.binder.type = false := h.arguments arg harg
  rw [Binder.text, isBroken_append, isBroken_append, hname, hcolon, htype]
  rfl

theorem isBroken_binders : ∀ p ∈ a.binders, isBroken p.text = false := by
  unfold Activity.binders
  split
  · intro p hp
    obtain rfl := List.mem_singleton.1 hp
    have hstart : isBroken "request: requests::" = false := by decide
    have htext : Binder.text ⟨"request", "requests::" ++ a.requestName⟩ =
        "request: requests::" ++ a.requestName := by
      rw [Binder.text, ← String.append_assoc]
      rfl
    rw [htext, isBroken_append, hstart, h.requestName]
    rfl
  · rw [List.forall_mem_map]
    exact fun arg harg => isBroken_binder h harg

theorem whole_parameterLines : a.signature.parameterLines.Whole := by
  rw [Signature.parameterLines, whole_indent, whole_cons, whole_map]
  refine ⟨by decide, fun p hp => ?_⟩
  rw [isBroken_append, isBroken_binders h p hp]
  decide

theorem whole_optionsLines : (Declaration.ofActivity a).optionsLines.Whole := by
  have hconstant : isBroken (Declaration.ofActivity a).options = false := h.constant
  have hbackoff : isBroken (Declaration.ofActivity a).retryPolicy.backoffText = false := by
    have hpoint : isBroken "." = false := by decide
    rw [RetryPolicy.backoffText, isBroken_append, isBroken_append, isBroken_toString,
      isBroken_toString, hpoint]
    rfl
  simp only [Declaration.optionsLines, whole_block, whole_cons, whole_nil, isBroken_append,
    isBroken_toString, hconstant, hbackoff]
  decide

/-- The comment of a method is on one line each if its path is. -/
theorem whole_methodDocs : Lines.Whole (methodDocs a) := by
  have hnone := exposedLines_methodDocs_eq_nil h.path
  rw [exposedLines, List.filter_eq_nil_iff] at hnone
  exact fun line hline => Bool.eq_false_iff.2 (hnone line hline)

theorem whole_methodLines : (Declaration.ofActivity a).methodLines.Whole := by
  have hdocs : (comment "///" (Declaration.ofActivity a).docs).Whole :=
    whole_map.2 fun line hline => by
      have hline : isBroken line = false := whole_methodDocs h line hline
      rw [isBroken_append, hline]
      decide
  have hname : isBroken (Declaration.ofActivity a).signature.name = false := by
    rw [Declaration.ofActivity, Activity.signature, isBroken_methodName]
  have hresult : isBroken (Declaration.ofActivity a).signature.result = false := h.result
  have hparameters : (Declaration.ofActivity a).signature.parameterLines.Whole :=
    whole_parameterLines h
  have hdeprecated : Lines.Whole
      (if (Declaration.ofActivity a).deprecated then ["#[deprecated]"] else []) :=
    whole_ite_singleton (by decide)
  simp only [Declaration.methodLines, whole_append, whole_cons, whole_nil, isBroken_append, hdocs,
    hdeprecated, hname, hresult, hparameters]
  decide

theorem whole_requestLines {contract : String} (hcontract : isBroken contract = false) :
    ((Request.ofActivity a).lines contract).Whole := by
  have hmethod : isBroken (Request.ofActivity a).method = false := by
    rw [Request.ofActivity, isBroken_methodName]
  have hname : isBroken (Request.ofActivity a).name = false := h.requestName
  have hfields : Lines.Whole ((Request.ofActivity a).fields.flatMap fun f =>
      comment "///" f.docs ++ ["pub " ++ f.binder.text ++ ","]) := by
    rw [whole_flatMap, Request.ofActivity, List.forall_mem_map]
    intro arg harg
    rw [whole_append, whole_cons]
    refine ⟨whole_comment (by decide) arg.description, ?_, whole_nil⟩
    have hbinder : isBroken (RequestField.ofArgument arg).binder.text = false :=
      isBroken_binder h harg
    rw [isBroken_around (by decide) (by decide), hbinder]
  simp only [Request.lines, whole_append, whole_cons, whole_nil, whole_block, isBroken_append,
    hcontract, hmethod, hname, hfields]
  decide

theorem whole_definitionLines {scope : String} (hscope : isBroken scope = false) :
    ((Definition.ofActivity a).lines scope).Whole := by
  have hname : isBroken (Definition.ofActivity a).signature.name = false := by
    rw [Definition.ofActivity, Activity.signature, isBroken_methodName]
  have hresult : isBroken (Definition.ofActivity a).signature.result = false := h.result
  have hparameters : (Definition.ofActivity a).signature.parameterLines.Whole :=
    whole_parameterLines h
  have hcall := whole_callLines hscope a
  simp only [Definition.lines, whole_append, whole_cons, whole_nil, whole_block, isBroken_append,
    hname, hresult, hparameters, hcall]
  decide

end Activity

/-! ## The files -/

theorem whole_preamble : Lines.Whole preamble := by
  simp only [preamble, whole_append, whole_cons, whole_nil, whole_block, isBroken_append,
    isBroken_toString, and_true]
  and_intros
  all_goals exact (isBroken_ofList _).trans rfl

section Contract

variable {b : Blueprint} {s : Settings} (h : ContractOnOneLine b s)

include h

theorem whole_contractHead : Lines.Whole ["//! " ++ (Contract.ofBlueprint b s).header, "//!",
    "//! Activity contract for " ++ (Contract.ofBlueprint b s).title ++ "."] := by
  have htitle : isBroken (Contract.ofBlueprint b s).title = false := h.title
  have hheader : isBroken (Contract.ofBlueprint b s).header = false :=
    isBroken_headerLine_eq_false h.title h.version
  simp only [whole_cons, whole_nil, isBroken_append, hheader, htitle]
  decide

omit h in
theorem whole_contractDocs : Lines.Whole (if (Contract.ofBlueprint b s).docs.isEmpty then []
    else "//!" :: comment "//!" (Contract.ofBlueprint b s).docs) := by
  split
  · exact whole_nil
  · exact whole_cons.2 ⟨by decide, whole_comment (by decide) b.info.description⟩

/-- The constants of the trait. -/
theorem whole_constantLines : Lines.Whole ((Contract.ofBlueprint b s).declarations.map fun d =>
    "const " ++ d.options ++ "_OPTIONS: ActivityOptions = options::" ++ d.options ++ ";") := by
  rw [whole_map, Contract.ofBlueprint, List.forall_mem_map]
  intro a ha
  have hconstant : isBroken (Declaration.ofActivity a).options = false :=
    (h.activities a ha).constant
  simp only [isBroken_append, hconstant]
  decide

/-- The arms of the look-up. -/
theorem whole_armLines : Lines.Whole ((Contract.ofBlueprint b s).declarations.map fun d =>
    d.key ++ " => Some(options::" ++ d.options ++ "),") := by
  rw [whole_map, Contract.ofBlueprint, List.forall_mem_map]
  intro a ha
  have hkey : isBroken (Declaration.ofActivity a).key = false := isBroken_literal a.name.original
  have hconstant : isBroken (Declaration.ofActivity a).options = false :=
    (h.activities a ha).constant
  simp only [isBroken_append, hkey, hconstant]
  decide

theorem whole_contract : (Contract.ofBlueprint b s).lines.Whole := by
  have hname : isBroken (Contract.ofBlueprint b s).name = false := h.contractName
  have hoptions : (spaced ((Contract.ofBlueprint b s).declarations.map
      Declaration.optionsLines)).Whole := by
    rw [whole_spaced, List.forall_mem_map, Contract.ofBlueprint, List.forall_mem_map]
    exact fun a ha => whole_optionsLines (h.activities a ha)
  have hrequests : (separated ((Contract.ofBlueprint b s).requests.map
      (Request.lines (Contract.ofBlueprint b s).name))).Whole := by
    rw [whole_separated, List.forall_mem_map, Contract.ofBlueprint, List.forall_mem_map]
    exact fun a ha => whole_requestLines (h.activities a (List.mem_filter.1 ha).1) hname
  have hmethods : (spaced ((Contract.ofBlueprint b s).declarations.map
      Declaration.methodLines)).Whole := by
    rw [whole_spaced, List.forall_mem_map, Contract.ofBlueprint, List.forall_mem_map]
    exact fun a ha => whole_methodLines (h.activities a ha)
  simp only [Contract.lines, whole_append, whole_cons, whole_nil, whole_block, isBroken_append,
    whole_preamble, whole_contractHead h, whole_contractDocs, whole_constantLines h,
    whole_armLines h, hname, hoptions, hrequests, hmethods]
  decide

/-- The contract is cut into the lines that it was written from. -/
theorem linesOf_contractArtifact :
    linesOf (contractArtifact b s).content = (Contract.ofBlueprint b s).lines := by
  rw [contractArtifact, linesOf_text (whole_contract h)]

end Contract

section Implementation

variable {b : Blueprint} {s : Settings} (h : WrittenOnOneLine b s)

include h

theorem whole_implementation : (Implementation.ofBlueprint b s).lines.Whole := by
  have hheader := isBroken_headerLine_eq_false h.title h.version
  have hmodule : isBroken (escapeKeyword (moduleOfContract s)) = false :=
    isBroken_identifier s.contractName
  have himports : isBroken (", ".intercalate (contractImports b s)) = false := by
    refine isBroken_intercalate (by decide) ?_
    rw [contractImports, List.forall_mem_append]
    refine ⟨?_, whole_ite_singleton (by decide)⟩
    simp only [List.forall_mem_cons, h.contractName]
    decide
  have hdefinitions : (separated ((b.activities.map Definition.ofActivity).map
      (Definition.lines s.clientScope))).Whole := by
    rw [whole_separated, List.forall_mem_map, List.forall_mem_map]
    exact fun a ha => whole_definitionLines (h.activities a ha) h.clientScope
  simp only [Implementation.lines, Implementation.ofBlueprint, whole_append, whole_cons, whole_nil,
    whole_block, isBroken_append, hheader, hmodule, himports, hdefinitions, h.contractName,
    h.package, h.clientScope]
  decide

/-- So is the implementation. -/
theorem linesOf_implementationArtifact :
    linesOf (implementationArtifact b s).content = (Implementation.ofBlueprint b s).lines := by
  rw [implementationArtifact, linesOf_text (whole_implementation h)]

end Implementation

/-! ## Documents -/

theorem mem_of_primary? {content : Dict Activity.Payload} {payload : Activity.Payload}
    (h : Activity.primary? content = some payload) : ∃ key, (key, payload) ∈ content := by
  rcases Option.or_eq_some_iff.1 h with h | ⟨-, h⟩
  · exact ⟨_, Dict.mem_of_lookup h⟩
  · obtain ⟨entry, hentry, rfl⟩ := Option.map_eq_some_iff.1 h
    exact ⟨entry.1, List.mem_of_head? hentry⟩

/-- The types of arguments and results occur in the blueprint. -/
theorem hasType_of_mem_arguments {b : Blueprint} {a : Activity} (ha : a ∈ b.activities)
    {arg : Activity.Argument} (harg : arg ∈ a.arguments) : b.HasType arg.type := by
  rcases List.mem_append.1 harg with hparameter | hbody
  · obtain ⟨p, hp, rfl⟩ := List.mem_map.1 hparameter
    exact .parameter ha hp
  · obtain ⟨type, htype, rfl⟩ := Option.map_eq_some_iff.1 (Option.mem_toList.1 hbody)
    obtain ⟨payload, hpayload, rfl⟩ := Option.map_eq_some_iff.1 htype
    obtain ⟨body, hsome, hprimary⟩ := Option.bind_eq_some_iff.1 hpayload
    obtain ⟨key, hmem⟩ := mem_of_primary? hprimary
    exact .body ha hsome hmem

theorem hasType_of_resultType? {b : Blueprint} {a : Activity} (ha : a ∈ b.activities)
    {type : DataType} (h : a.resultType? = some type) : b.HasType type := by
  obtain ⟨payload, hprimary, rfl⟩ := Option.map_eq_some_iff.1 h
  obtain ⟨key, hmem⟩ := mem_of_primary? hprimary
  exact .response ha hmem

section Document

variable {d : Document} {o : Options} {b : Blueprint}
  (h : (Blueprint.ofDocument d o).result = .ok b)

include h

theorem isBroken_of_hasType (hscope : isBroken o.modelScope = false) {t : DataType}
    (ht : b.HasType t) : isBroken t.text = false := by
  refine isBroken_typeText fun ns name hm => ?_
  obtain ⟨target, -, href⟩ := Blueprint.traced_of_hasType h ht ns name hm
  exact isBroken_qualify hscope href

/-- The path of an activity is one of the document, and its name is made from a text. -/
theorem path_and_name_of_ofDocument : ∀ a ∈ b.activities,
    a.path ∈ d.paths.keys ∧ ∃ text, a.name = Name.ofText text := by
  obtain ⟨drafts, hdrafts, hb⟩ := Blueprint.exists_drafts h
  rw [hb]
  refine Activity.forall_settleNames (fun taken a ha => ?_) [] fun draft hdraft => ?_
  · have hpath : (Activity.settleName taken a).path = a.path := by
      rw [Activity.renames_settleName taken a]
    rw [hpath]
    refine ⟨ha.1, ?_⟩
    by_cases htaken : a.name.snake ∈ taken
    · obtain ⟨n, -, heq⟩ := Activity.settleName_of_taken htaken
      exact ⟨_, congrArg Activity.name heq⟩
    · rw [Activity.settleName_of_free htaken]
      exact ha.2
  · obtain ⟨e, he, hdescribes⟩ := exists_mem_of_forall₂ hdrafts hdraft
    obtain ⟨entry, hentry, -, hpath⟩ := Document.mem_endpoints_iff.1 he
    rw [hdescribes.path, hpath]
    exact ⟨List.mem_map_of_mem hentry, _, hdescribes.name⟩

theorem activity_onOneLine_of_ofDocument (hpaths : ∀ path ∈ d.paths.keys, isBroken path = false)
    (hscope : isBroken o.modelScope = false) {a : Activity} (ha : a ∈ b.activities) :
    a.OnOneLine := by
  obtain ⟨hpath, text, hname⟩ := path_and_name_of_ofDocument h a ha
  refine ⟨hpaths _ hpath, ?_, ?_, fun arg harg => ?_, ?_⟩
  · rw [Activity.requestName, isBroken_append, hname, isBroken_pascal]
    decide
  · rw [hname, isBroken_screaming]
  · exact isBroken_of_hasType h hscope (hasType_of_mem_arguments ha harg)
  · unfold Activity.resultText
    split
    · next type htype => exact isBroken_of_hasType h hscope (hasType_of_resultType? ha htype)
    · decide

theorem contractOnOneLine_of_ofDocument {s : Settings} (hd : d.OnOneLine)
    (hscope : isBroken o.modelScope = false) (hname : isBroken s.contractName = false) :
    ContractOnOneLine b s where
  title := by rw [info_ofDocument h, hd.title]
  version := by rw [info_ofDocument h, hd.version]
  activities _ ha := activity_onOneLine_of_ofDocument h hd.paths hscope ha
  contractName := hname

end Document

end Source

end ActivityForge
