import ActivityForge.Proofs.Source.Files
import ActivityForge.Proofs.Source.Texts

/-!
# The contract and its implementation agree, unless a line is broken

`Agree` goes through the activities in order: each has one method, which the contract declares and
the implementation defines alike, one call with an argument for every argument of the activity, and
a request object exactly if its arguments are passed as one.  The texts of the contract and of the
implementation agree if nothing that is put into them as it is has a line feed in it
(`contract_agrees_with_implementation`).  A line feed in a path lets the rest of it out of the
comment of a method, where it declares a method that is not implemented
(`broken_path_adds_method`).
-/

namespace ActivityForge.Source

/-- A line for every argument, with its type behind the name that is used for it. -/
def typedLines (start : String) (names : List String) (arguments : List Activity.Argument) :
    Lines :=
  List.zipWith (fun name arg => start ++ name ++ ": " ++ arg.type.text ++ ",") names arguments

/-- The method of an activity with the call that it makes, apart from what is passed. -/
structure Implements (s : Settings) (a : Activity) (m : Method) (c : Call) : Prop where
  name : m.name = a.methodName
  result : m.result = ((a.resultType?.map DataType.text).getD "()")
  function : c.function = s.clientScope ++ "::apis::" ++ a.clientModule ++ "::" ++ m.name
  /-- The result of the client is dropped exactly if the method has none. -/
  dropsResult : c.dropsResult = true ↔ a.resultType? = none

/-- Activities with their methods, their calls, and the request objects of those that take one. -/
inductive Agree (s : Settings) :
    List Activity → List Method → List Call → List Struct → Prop
  | nil : Agree s [] [] [] []
  /-- The arguments are the fields of the request object, which is the only parameter. -/
  | request {a : Activity} {m : Method} {c : Call} {r : Struct} {names : List String}
      {as : List Activity} {ms : List Method} {cs : List Call} {rs : List Struct}
      (uses : a.usesRequest = true) (implements : Implements s a m c)
      (structName : r.name = a.requestName)
      (parameters : m.parameters = ["request: requests::" ++ r.name ++ ","])
      (count : names.length = a.arguments.length)
      (fields : r.fields = typedLines "pub " names a.arguments)
      (arguments : c.arguments = names.map fun name => "request." ++ name ++ ",")
      (rest : Agree s as ms cs rs) : Agree s (a :: as) (m :: ms) (c :: cs) (r :: rs)
  /-- The arguments are the parameters. -/
  | direct {a : Activity} {m : Method} {c : Call} {names : List String}
      {as : List Activity} {ms : List Method} {cs : List Call} {rs : List Struct}
      (uses : a.usesRequest = false) (implements : Implements s a m c)
      (count : names.length = a.arguments.length)
      (parameters : m.parameters = typedLines "" names a.arguments)
      (arguments : c.arguments = names.map fun name => name ++ ",")
      (rest : Agree s as ms cs rs) : Agree s (a :: as) (m :: ms) (c :: cs) rs

/-! ## One activity -/

/-- The names by which the arguments of an activity are known. -/
def argumentNames (a : Activity) : List String :=
  a.arguments.map fun arg => identifier arg.fieldName

theorem typedLines_argumentNames (start : String) (a : Activity) :
    typedLines start (argumentNames a) a.arguments =
      a.arguments.map fun arg => start ++ arg.binder.text ++ "," := by
  rw [typedLines, argumentNames, List.zipWith_map_left, List.zipWith_self]
  refine List.map_congr_left fun arg _ => ?_
  simp only [Binder.text, Activity.Argument.binder, String.append_assoc]

theorem implements_ofActivity (s : Settings) (a : Activity) :
    Implements s a a.signature.method ((Definition.ofActivity a).call s.clientScope) where
  name := by simp only [Signature.method, Activity.signature]
  result := by
    simp only [Signature.method, Activity.signature, Activity.resultText]
    cases a.resultType? <;> rfl
  function := by simp only [Definition.call, Definition.ofActivity, Signature.method]
  dropsResult := by
    simp only [Definition.call, Definition.ofActivity]
    exact Option.isNone_iff_eq_none

theorem agree_ofActivities (s : Settings) (as : List Activity) :
    Agree s as (as.map fun a => a.signature.method)
      (as.map fun a => (Definition.ofActivity a).call s.clientScope)
      ((as.filter Activity.usesRequest).map fun a => (Request.ofActivity a).struct) := by
  induction as with
  | nil => exact .nil
  | cons a as ih =>
    have hcount : (argumentNames a).length = a.arguments.length := List.length_map ..
    by_cases uses : a.usesRequest = true
    · rw [List.filter_cons_of_pos uses]
      refine .request uses (implements_ofActivity s a) rfl ?_ hcount ?_ ?_ ih
      · simp only [Signature.method, Activity.signature, Activity.binders, uses, ↓reduceIte,
          List.map_cons, List.map_nil, Binder.text, Request.struct, Request.ofActivity,
          List.cons.injEq, and_true]
        simp only [← String.toList_inj, String.toList_append]
        simp
      · rw [typedLines_argumentNames]
        simp only [Request.struct, Request.ofActivity, List.map_map]
        rfl
      · simp only [Definition.call, Definition.ofActivity, Activity.callArguments, uses, ↓reduceIte,
          argumentNames, List.map_map]
        rfl
    · rw [List.filter_cons_of_neg uses]
      rw [Bool.not_eq_true] at uses
      refine .direct uses (implements_ofActivity s a) hcount ?_ ?_ ih
      · rw [typedLines_argumentNames]
        simp only [Signature.method, Activity.signature, Activity.binders, uses, Bool.false_eq_true,
          ↓reduceIte, List.map_map, String.empty_append]
        rfl
      · simp only [Definition.call, Definition.ofActivity, Activity.callArguments, uses,
          Bool.false_eq_true, ↓reduceIte, argumentNames, List.map_map]

/-! ## The files -/

/-- The lines of a contract and of an implementation agree with a blueprint and with each other. -/
structure FilesAgree (b : Blueprint) (s : Settings) (contract implementation : Lines) : Prop where
  /-- The trait and its implementation have the same methods. -/
  methods : traitMethods contract = implMethods s.contractName implementation
  /-- The activities agree with the methods, the calls and the request objects. -/
  activities : Agree s b.activities (traitMethods contract)
    (implCalls s.contractName implementation) (requestStructs contract)
  /-- The request objects are imported exactly if there are any. -/
  imports : furtherImports? s implementation =
    some (if ∃ a ∈ b.activities, a.usesRequest = true then ", requests" else "")

/-- The lines that the two files are written from agree. -/
theorem filesAgree_lines (b : Blueprint) (s : Settings) :
    FilesAgree b s (Contract.ofBlueprint b s).lines (Implementation.ofBlueprint b s).lines where
  methods := by
    have himpl := implMethods_implementation (Implementation.ofBlueprint b s)
    rw [traitMethods_ofBlueprint]
    refine Eq.trans ?_ himpl.symm
    rw [Implementation.ofBlueprint, List.map_map]
    rfl
  activities := by
    rw [traitMethods_ofBlueprint, implCalls_ofBlueprint, requestStructs_ofBlueprint]
    exact agree_ofActivities s b.activities
  imports := by
    rw [furtherImports?_implementation]
    simp only [List.any_eq_true]

/-- The texts of the contract and of the implementation of a blueprint agree if what is put into
them as it is has no line feed in it: the trait and its implementation have the same methods, the
activities agree with them, with the calls and with the request objects, and the request objects
are imported exactly if there are any. -/
theorem contract_agrees_with_implementation {b : Blueprint} {s : Settings}
    (h : WrittenOnOneLine b s) :
    FilesAgree b s (linesOf (contractArtifact b s).content)
      (linesOf (implementationArtifact b s).content) := by
  rw [linesOf_contractArtifact h.toContractOnOneLine, linesOf_implementationArtifact h]
  exact filesAgree_lines b s

theorem petStore_files_agree : ∃ b,
    (Blueprint.ofDocument Document.petStore ⟨"models", true⟩).result = .ok b ∧
      WrittenOnOneLine b .default ∧
      FilesAgree b .default (linesOf (contractArtifact b .default).content)
        (linesOf (implementationArtifact b .default).content) := by
  obtain ⟨b, h⟩ : ∃ b, (Blueprint.ofDocument Document.petStore ⟨"models", true⟩).result = .ok b :=
    Blueprint.exists_ofDocument_iff.2 Document.accepted_petStore
  have hwritten : WrittenOnOneLine b .default :=
    { toContractOnOneLine := contractOnOneLine_of_ofDocument h ⟨rfl, rfl, by decide⟩ rfl rfl
      package := by decide
      clientScope := by decide }
  exact ⟨b, h, hwritten, contract_agrees_with_implementation hwritten⟩

theorem whole_beforeTrait {b : Blueprint} {s : Settings} (h : ContractOnOneLine b s) :
    (Contract.ofBlueprint b s).beforeTrait.Whole := by
  obtain ⟨after, hlines⟩ := (Contract.ofBlueprint b s).exists_lines_trait
  have hwhole := whole_contract h
  rw [hlines, whole_append, whole_append] at hwhole
  exact hwhole.1.1

theorem contractOnOneLine_titledPets : ContractOnOneLine (titledPets "T" "1" "") .default where
  title := by decide
  version := by decide
  activities a ha := by
    obtain rfl := List.mem_singleton.1 ha
    exact ⟨by decide, by decide, by decide, by decide, by decide⟩
  contractName := by decide

/-- A blueprint in which a path ends the comment that it stands in, and declares a method. -/
def petsWithMethod : Blueprint :=
  titledPets "T" "1" <| "/a\x60\n    fn evil(\n        &self,\n" ++
    "    ) -> impl Future<Output = Result<(), ActivityFailure>> + Send;\n    ///"

/-- What is read off the text of a contract in which only the comments of methods have line feeds
in them. -/
theorem traitMethods_text {c : Contract} (hbefore : c.beforeTrait.Whole)
    (hname : isBroken c.name = false)
    (hinner : ∀ line ∈ cutLines (indent c.traitLines), isInner line = true) :
    traitMethods (linesOf c.lines.text) =
      traitStyle.reader.scan (unindent (cutLines (indent c.traitLines))) := by
  have hhead : isBroken ("pub trait " ++ c.name ++ " \x7b") = false := by
    rwa [isBroken_around (by decide) (by decide)]
  obtain ⟨after, hlines⟩ := c.exists_lines_trait
  have hblock : block ("pub trait " ++ c.name) c.traitLines "" ++ after =
      ("pub trait " ++ c.name ++ " \x7b") :: (indent c.traitLines ++ ("\x7d" ++ "") :: after) := by
    simp [block]
  rw [linesOf_text_eq_cutLines, hlines, List.append_assoc, hblock, cutLines_append,
    cutLines_of_whole hbefore, cutLines_cons hhead, cutLines_append, cutLines_cons (by decide),
    traitMethods, blockOf_append (startsWith_beforeTrait c) (startsWith_append_append_self ..),
    inside_append hinner (isInner_close "")]

theorem Agree.length_methods {s : Settings} {as : List Activity} {ms : List Method} {cs : List Call}
    {rs : List Struct} (h : Agree s as ms cs rs) : ms.length = as.length := by
  induction h with
  | nil => rfl
  | request _ _ _ _ _ _ _ _ ih => exact congrArg (· + 1) ih
  | direct _ _ _ _ _ _ ih => exact congrArg (· + 1) ih

/-- A line feed in a path adds a method to the trait that the implementation does not have. -/
theorem broken_path_adds_method : ¬ ∀ (b : Blueprint) (s : Settings),
    FilesAgree b s (linesOf (contractArtifact b s).content)
      (linesOf (implementationArtifact b s).content) := by
  intro hall
  -- The lines before the trait do not depend on the path.
  have hbefore : (Contract.ofBlueprint petsWithMethod .default).beforeTrait.Whole :=
    whole_beforeTrait (b := titledPets "T" "1" "") contractOnOneLine_titledPets
  have hmethods := traitMethods_text hbefore (by decide) (by decide +kernel)
  have hagree := (hall petsWithMethod .default).activities
  rw [contractArtifact, hmethods] at hagree
  exact absurd hagree.length_methods (by decide +kernel)

end ActivityForge.Source
