import ActivityForge.Proofs.Source.Outline

/-!
# The contract and the implementation as files

`traitMethods` and `requestStructs` read the trait and the request objects off the lines of a
contract, `implMethods` and `implCalls` the methods and their calls off the lines of an
implementation.  They find the declarations, requests and definitions that the file was written from
(`traitMethods_contract`, `requestStructs_contract`, `implMethods_implementation`,
`implCalls_implementation`), for no line before a block begins like the head of the block.
-/

namespace ActivityForge.Source

/-! ## Reading the files -/

/-- The methods that the trait of a contract declares. -/
def traitMethods (contract : Lines) : List Method :=
  traitStyle.reader.scan (blockOf "pub trait " contract)

/-- The request objects of a contract. -/
def requestStructs (contract : Lines) : List Struct :=
  structReader.scan (blockOf "pub mod requests" contract)

/-- The block in which an implementation implements a contract. -/
def implBlock (contractName : String) (implementation : Lines) : Lines :=
  blockOf ("impl " ++ contractName ++ " for ") implementation

def implMethods (contractName : String) (implementation : Lines) : List Method :=
  implStyle.reader.scan (implBlock contractName implementation)

def implCalls (contractName : String) (implementation : Lines) : List Call :=
  callReader.scan (implBlock contractName implementation)

/-- What is imported from the contract besides its trait, failures and their category: the text
behind the name of the trait. -/
def furtherImports? (s : Settings) (implementation : Lines) : Option String :=
  implementation.findSome? <| between?
    ("use " ++ s.package ++ "::" ++ escapeKeyword (moduleOfContract s)
      ++ "::\x7bAPI_ERROR, ActivityFailure, " ++ s.contractName) "\x7d;"

/-! ## Blocks of the contract -/

/-- The lines of a contract before its request objects. -/
def Contract.headLines (c : Contract) : Lines :=
  ["//! " ++ c.header, "//!", "//! Activity contract for " ++ c.title ++ "."]
  ++ (if c.docs.isEmpty then [] else "//!" :: comment "//!" c.docs)
  ++ preamble
  ++ block "pub mod options"
    (["use super::\x7bActivityOptions, RetryPolicy, SCHEDULE_TO_CLOSE_TIMEOUT\x7d;",
      "use std::time::Duration;"]
      ++ spaced (c.declarations.map Declaration.optionsLines)) ""
  ++ ["", "/// Request objects of activities that take their arguments as one value."]

theorem startsWith_block {start head tail : String} (hstart : Outer start)
    (hbrace : start.toList.head? ≠ some '\x7d')
    (hhead : startsWith start (head ++ " \x7b") = false) {body : Lines} :
    ∀ line ∈ block head body tail, startsWith start line = false := by
  intro line hline
  rcases List.mem_append.1 hline with h | h
  · rcases List.mem_cons.1 h with rfl | h
    · exact hhead
    · exact hstart.startsWith_inner (isInner_of_mem_indent h)
  · obtain rfl := List.mem_singleton.1 h
    exact startsWith_eq_false hstart.1 (by simpa using hbrace.symm)

/-- The heads of the blocks that are read. -/
def IsHead (start : String) : Prop :=
  start = "pub trait " ∨ start = "pub mod requests" ∨ start = "pub mod options"
    ∨ start = "pub fn activity_options"

theorem startsWith_preamble {start : String} (hstart : IsHead start) :
    ∀ line ∈ preamble, startsWith start line = false := by
  have hsecs : toString scheduleToCloseSecs = "300" := by decide
  simp only [preamble, List.forall_mem_append, List.forall_mem_cons, hsecs, String.reduceAppend]
  -- The lines inside blocks need not be looked at.
  rcases hstart with rfl | rfl | rfl | rfl <;>
  · and_intros
    all_goals first
      | exact List.forall_mem_nil _
      | exact (startsWith_ofList _ _).trans rfl
      | exact startsWith_block (by decide) (by decide) (by decide)

theorem IsHead.outer {start : String} (hstart : IsHead start) :
    Outer start ∧ start.toList.head? = some 'p' := by
  rcases hstart with rfl | rfl | rfl | rfl <;> decide

/-- The lines of a contract before the options of its activities. -/
def Contract.introLines (c : Contract) : Lines :=
  ["//! " ++ c.header, "//!", "//! Activity contract for " ++ c.title ++ "."]
  ++ (if c.docs.isEmpty then [] else "//!" :: comment "//!" c.docs)
  ++ preamble

theorem startsWith_introLines {start : String} (hstart : IsHead start) (c : Contract) :
    ∀ line ∈ c.introLines, startsWith start line = false := by
  obtain ⟨houter, hfirst⟩ := hstart.outer
  have hcomment (text : String) : startsWith start ("//!" ++ text) = false :=
    startsWith_eq_false houter.1 (by simp [hfirst])
  simp only [Contract.introLines, List.forall_mem_append]
  refine ⟨⟨?_, ?_⟩, startsWith_preamble hstart⟩
  · simp only [List.forall_mem_cons]
    refine ⟨?_, hcomment "", ?_, by simp⟩ <;> exact startsWith_eq_false houter.1 (by simp [hfirst])
  · split
    · simp
    · rw [List.forall_mem_cons, comment, List.forall_mem_map]
      exact ⟨hcomment "", fun text _ => hcomment text⟩

theorem startsWith_headLines {start : String} (hstart : IsHead start)
    (hother : start ≠ "pub mod options") (c : Contract) :
    ∀ line ∈ c.headLines, startsWith start line = false := by
  obtain ⟨houter, hfirst⟩ := hstart.outer
  have hintro := startsWith_introLines hstart c
  simp only [Contract.introLines, Contract.headLines, List.forall_mem_append] at hintro ⊢
  refine ⟨⟨hintro, ?_⟩, ?_⟩
  · refine startsWith_block houter (by rw [hfirst]; decide) ?_
    rcases hstart with rfl | rfl | rfl | rfl <;> first | decide | exact absurd rfl hother
  · rcases hstart with rfl | rfl | rfl | rfl <;> decide

/-- The lines of the trait. -/
def Contract.traitLines (c : Contract) : Lines :=
  (c.declarations.map fun d =>
      "const " ++ d.options ++ "_OPTIONS: ActivityOptions = options::" ++ d.options ++ ";")
    ++ spaced (c.declarations.map Declaration.methodLines)

/-- The contract from its request objects on. -/
theorem Contract.exists_lines (c : Contract) : ∃ after, c.lines =
    c.headLines ++ block "pub mod requests" (separated (c.requests.map (Request.lines c.name))) ""
      ++ ([""] ++ (block ("pub trait " ++ c.name) c.traitLines "" ++ after)) :=
  ⟨_, by
    simp only [Contract.lines, Contract.headLines, Contract.traitLines, List.append_assoc,
      List.cons_append, List.nil_append]
    rfl⟩

theorem requestStructs_contract (c : Contract) :
    requestStructs c.lines = c.requests.map Request.struct := by
  obtain ⟨after, hlines⟩ := c.exists_lines
  have hhead := startsWith_headLines (Or.inr (Or.inl rfl)) (by decide) c
  rw [requestStructs, hlines, blockOf_block hhead (by decide)]
  exact Reader.scan_separated (by decide) (scan_request c.name) c.requests

/-- The lines of a contract before its trait. -/
def Contract.beforeTrait (c : Contract) : Lines :=
  c.headLines ++ block "pub mod requests" (separated (c.requests.map (Request.lines c.name))) ""
    ++ [""]

theorem Contract.exists_lines_trait (c : Contract) : ∃ after, c.lines =
    c.beforeTrait ++ block ("pub trait " ++ c.name) c.traitLines "" ++ after := by
  obtain ⟨after, hlines⟩ := c.exists_lines
  refine ⟨after, hlines.trans ?_⟩
  simp only [Contract.beforeTrait, List.append_assoc]

theorem startsWith_beforeTrait (c : Contract) :
    ∀ line ∈ c.beforeTrait, startsWith "pub trait " line = false := by
  simp only [Contract.beforeTrait, List.forall_mem_append]
  refine ⟨⟨startsWith_headLines (Or.inl rfl) (by decide) c, ?_⟩, by decide⟩
  exact startsWith_block (by decide) (by decide) (by decide)

theorem traitMethods_contract (c : Contract) :
    traitMethods c.lines = c.declarations.map fun d => d.signature.method := by
  obtain ⟨after, hlines⟩ := c.exists_lines_trait
  have hconst : ∀ line ∈ c.declarations.map (fun d =>
      "const " ++ d.options ++ "_OPTIONS: ActivityOptions = options::" ++ d.options ++ ";"),
      startsWith traitStyle.reader.start line = false := by
    intro line hline
    obtain ⟨d, -, rfl⟩ := List.mem_map.1 hline
    exact startsWith_eq_false (by decide) (by simp [MethodStyle.reader, traitStyle])
  rw [traitMethods, hlines, blockOf_block (startsWith_beforeTrait c), Contract.traitLines,
    Reader.scan_append hconst]
  · exact Reader.scan_spaced (by decide) scan_methodLines c.declarations
  · exact startsWith_append_append_self ..

theorem requestStructs_ofBlueprint (b : Blueprint) (s : Settings) :
    requestStructs (Contract.ofBlueprint b s).lines =
      (b.activities.filter Activity.usesRequest).map fun a => (Request.ofActivity a).struct := by
  rw [requestStructs_contract, Contract.ofBlueprint, List.map_map]
  rfl

theorem traitMethods_ofBlueprint (b : Blueprint) (s : Settings) :
    traitMethods (Contract.ofBlueprint b s).lines =
      b.activities.map fun a => a.signature.method := by
  rw [traitMethods_contract, Contract.ofBlueprint, List.map_map]
  rfl

/-! ## Blocks of the implementation -/

theorem startsWith_append_append (common start rest : String) :
    startsWith (common ++ start) (common ++ rest) = startsWith start rest := by
  rw [startsWith, startsWith, String.toList_append, String.toList_append]
  induction common.toList with
  | nil => rfl
  | cons c cs ih => simpa [Document.dropStart?] using ih

/-- The lines of an implementation before the block that implements the contract. -/
def Implementation.headLines (i : Implementation) : Lines :=
  ["//! " ++ i.header,
   "",
   "use " ++ i.package ++ "::" ++ i.contractModule ++ "::\x7b" ++ ", ".intercalate i.imports
     ++ "\x7d;",
   "",
   "type Configuration = " ++ i.clientScope ++ "::apis::configuration::Configuration;",
   "",
   "/// [\x60" ++ i.contractName ++ "\x60] backed by the generated HTTP client.",
   "#[derive(Debug, Clone)]"]
  ++ block ("pub struct " ++ (i.contractName ++ "Impl")) ["configuration: Configuration,"] ""
  ++ [""]
  ++ block ("impl " ++ (i.contractName ++ "Impl"))
    (block "pub fn new(configuration: Configuration) -> Self"
        ["Self \x7b configuration \x7d"] ""
      ++ ["",
       "/// The client configuration every call is made with."]
      ++ block "pub fn configuration(&self) -> &Configuration" ["&self.configuration"] "") ""
  ++ [""]

theorem Implementation.lines_eq (i : Implementation) :
    i.lines = i.headLines
      ++ block ("impl " ++ i.contractName ++ " for " ++ (i.contractName ++ "Impl"))
        (separated (i.definitions.map (Definition.lines i.clientScope))) "" ++ [] := by
  rw [List.append_nil]
  rfl

theorem startsWith_implHeadLines (i : Implementation) :
    ∀ line ∈ i.headLines, startsWith ("impl " ++ i.contractName ++ " for ") line = false := by
  have houter : Outer ("impl " ++ i.contractName ++ " for ") :=
    (Outer.append (by decide) _).append _
  have hfirst : ("impl " ++ i.contractName ++ " for ").toList.head? = some 'i' := by simp
  have hother {line : String} (h : line.toList.head? ≠ some 'i') :
      startsWith ("impl " ++ i.contractName ++ " for ") line = false :=
    startsWith_eq_false houter.1 (hfirst ▸ h)
  -- The block of the implementation's own functions has the same beginning but for the last word.
  have hown : startsWith ("impl " ++ i.contractName ++ " for ")
      ("impl " ++ (i.contractName ++ "Impl") ++ " \x7b") = false := by
    have hline : "impl " ++ (i.contractName ++ "Impl") ++ " \x7b" =
        "impl " ++ i.contractName ++ ("Impl" ++ " \x7b") := by simp only [String.append_assoc]
    rw [hline, startsWith_append_append]
    decide
  simp only [Implementation.headLines, List.forall_mem_append]
  refine ⟨⟨⟨⟨?_, ?_⟩, ?_⟩, ?_⟩, ?_⟩
  · simp only [List.forall_mem_cons]
    refine ⟨?_, ?_, ?_, ?_, ?_, ?_, ?_, ?_, by simp⟩ <;> exact hother (by simp)
  · refine startsWith_block houter (by rw [hfirst]; decide) (hother ?_)
    simp
  · exact fun line hline => hother (by simp [List.mem_singleton.1 hline])
  · exact startsWith_block houter (by rw [hfirst]; decide) hown
  · exact fun line hline => hother (by simp [List.mem_singleton.1 hline])

theorem implBlock_implementation (i : Implementation) :
    implBlock i.contractName i.lines =
      separated (i.definitions.map (Definition.lines i.clientScope)) := by
  rw [implBlock, i.lines_eq, blockOf_block (startsWith_implHeadLines i)]
  exact startsWith_append_append_self ..

theorem implMethods_implementation (i : Implementation) :
    implMethods i.contractName i.lines = i.definitions.map fun d => d.signature.method := by
  rw [implMethods, implBlock_implementation]
  exact Reader.scan_separated (by decide) (scan_definition i.clientScope) i.definitions

theorem implCalls_implementation (i : Implementation) :
    implCalls i.contractName i.lines = i.definitions.map (Definition.call i.clientScope) := by
  rw [implCalls, implBlock_implementation]
  exact Reader.scan_separated (by decide) (scan_call i.clientScope) i.definitions

theorem implCalls_ofBlueprint (b : Blueprint) (s : Settings) :
    implCalls s.contractName (Implementation.ofBlueprint b s).lines =
      b.activities.map fun a => (Definition.ofActivity a).call s.clientScope := by
  have hname : (Implementation.ofBlueprint b s).contractName = s.contractName := rfl
  rw [← hname, implCalls_implementation, Implementation.ofBlueprint, List.map_map]
  rfl

/-! ## Imports of the implementation -/

theorem furtherImports?_implementation (b : Blueprint) (s : Settings) :
    furtherImports? s (Implementation.ofBlueprint b s).lines =
      some (if b.activities.any Activity.usesRequest then ", requests" else "") := by
  have huse : "use " ++ s.package ++ "::" ++ escapeKeyword (moduleOfContract s) ++ "::\x7b"
      ++ ", ".intercalate (contractImports b s) ++ "\x7d;" =
        "use " ++ s.package ++ "::" ++ escapeKeyword (moduleOfContract s)
          ++ "::\x7bAPI_ERROR, ActivityFailure, " ++ s.contractName
          ++ (if b.activities.any Activity.usesRequest then ", requests" else "") ++ "\x7d;" := by
    rw [contractImports, ← String.toList_inj]
    split <;> simp
  obtain ⟨rest, hlines⟩ : ∃ rest, (Implementation.ofBlueprint b s).lines =
      ("//! " ++ headerLine b.info) :: "" :: ("use " ++ s.package ++ "::"
        ++ escapeKeyword (moduleOfContract s) ++ "::\x7b" ++ ", ".intercalate (contractImports b s)
        ++ "\x7d;") :: rest := ⟨_, rfl⟩
  rw [furtherImports?, hlines, huse, List.findSome?_cons_of_isNone, List.findSome?_cons_of_isNone,
    List.findSome?_cons_of_isSome, between?_append]
  · rw [between?_append]
    rfl
  · rw [between?_eq_none (startsWith_eq_false (by simp) (by simp))]
    rfl
  · rw [between?_eq_none (startsWith_eq_false (by simp) (by simp))]
    rfl

end ActivityForge.Source
