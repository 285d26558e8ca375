import ActivityForge.Proofs.Generation.Effect
import ActivityForge.Proofs.Source.Agreement
import ActivityForge.Proofs.Source.Uniqueness

/-!
# Commands tell the same story

Without options, `validate`, `inspect` and `generate` load the same settings and the same document.
They succeed on the same workspaces, except that `generate` may also stop while it writes
(`validate_succeeds_iff`, `inspect_succeeds_iff`, `generate_writes_iff`).  What is then said about
activities holds of the methods, calls, constants and request objects that are read off the
generated source (`Told`), and what is said about models of their files (`Listed`); so the three
commands agree (`commands_accord`), and what they say is in the texts of the files if no line of
these is broken (`Story.texts`).
-/

namespace ActivityForge.CommandLine

open Json (Value)
open Source (Artifact Call Contract Implementation Method Struct)

variable {w : Workspace} {path : String} {s : Settings} {b : Blueprint} {format : SummaryFormat}

/-! ## Success -/

/-- The settings load, and so does the document that they name. -/
structure Loads (w : Workspace) (path : String) (s : Settings) (b : Blueprint) : Prop where
  settings : Settings.load w path = .ok s
  blueprint : (Generation.load w s.input s.options).result = .ok b

theorem Loads.plan (h : Loads w path s b) :
    (Generation.plan Generation.activities w s).result = .ok (b, Source.generate b s) :=
  Generation.plan_eq_ok_iff.2 ⟨h.blueprint, rfl⟩

/-- There is only one reason to fail. -/
theorem GenerateFails.unique {overrides : Overrides} {e e' : GenerateError}
    (h : GenerateFails w path overrides e) (h' : GenerateFails w path overrides e') : e = e' := by
  cases e with
  | settings e =>
    cases e' with
    | settings e' => rw [Except.error.inj (h.symm.trans h')]
    | run e' =>
      obtain ⟨s, hs, -⟩ := h'
      cases h.symm.trans hs
  | run e =>
    obtain ⟨s, hs, hrun⟩ := h
    cases e' with
    | settings e' => cases hs.symm.trans h'
    | run e' =>
      obtain ⟨s', hs', hrun'⟩ := h'
      obtain rfl := Except.ok.inj (hs.symm.trans hs')
      rw [Except.error.inj (hrun.symm.trans hrun')]

def member? (key : String) : Value → Option Value
  | .object members => members.lookup key
  | _ => none

/-- A value holds the numbers of a retry policy. -/
structure HoldsPolicy (v : Value) (p : RetryPolicy) : Prop where
  initialInterval : member? "initial_interval_secs" v =
    some (.number (.int p.initialIntervalSecs))
  maximumInterval : member? "maximum_interval_secs" v =
    some (.number (.int p.maximumIntervalSecs))
  backoff : member? "backoff_coefficient" v =
    some (.number (.float (.ofScientific p.backoffTenths true 1)))
  attempts : member? "maximum_attempts" v = some (.number (.int p.maximumAttempts))

/-- What is said about an activity holds of its method, the call in it and its constant. -/
structure Describes (s : Settings) (a : Activity) (said : Value) (m : Method) (c : Call)
    (k : String × RetryPolicy) : Prop where
  about : member? "name" said = some (.text a.name.original)
  method : m.name = a.methodName
  constant : k.1 = a.name.screaming
  returns : member? "returns" said = some (.text m.result)
  client : ∃ client, member? "client" said = some (.text client) ∧
    c.function = s.clientScope ++ "::apis::" ++ client ++ "::" ++ m.name
  retry : ∃ retry, member? "retry" said = some retry ∧ HoldsPolicy retry k.2

/-- What is said about activities, in order, with their methods, calls and constants, and with the
request objects of those that are said to have one. -/
inductive Told (s : Settings) : List Activity → List Value → List Method → List Call →
    List (String × RetryPolicy) → List Struct → Prop
  | nil : Told s [] [] [] [] [] []
  | request {a : Activity} {said : Value} {m : Method} {c : Call} {k : String × RetryPolicy}
      {r : Struct} {as : List Activity} {rest : List Value} {ms : List Method} {cs : List Call}
      {ks : List (String × RetryPolicy)} {rs : List Struct}
      (describes : Describes s a said m c k)
      (requestObject : member? "request_object" said = some (.text r.name))
      (parameters : m.parameters = ["request: requests::" ++ r.name ++ ","])
      (told : Told s as rest ms cs ks rs) :
      Told s (a :: as) (said :: rest) (m :: ms) (c :: cs) (k :: ks) (r :: rs)
  | direct {a : Activity} {said : Value} {m : Method} {c : Call} {k : String × RetryPolicy}
      {as : List Activity} {rest : List Value} {ms : List Method} {cs : List Call}
      {ks : List (String × RetryPolicy)} {rs : List Struct}
      (describes : Describes s a said m c k)
      (requestObject : member? "request_object" said = some .null)
      (parameters : ∃ names : List String, names.length = a.arguments.length ∧
        m.parameters = Source.typedLines "" names a.arguments)
      (told : Told s as rest ms cs ks rs) :
      Told s (a :: as) (said :: rest) (m :: ms) (c :: cs) (k :: ks) rs

/-- What is said about models, in order, with the files of those that are said to have one. -/
inductive Listed (info : Document.Info) : List Model → List Value → List Artifact → Prop
  | nil : Listed info [] [] []
  | generated {m : Model} {said : Value} {ms : List Model} {rest : List Value}
      {files : List Artifact} (about : member? "name" said = some (.text m.name.pascal))
      (generated : member? "generated" said = some (.bool true))
      (listed : Listed info ms rest files) :
      Listed info (m :: ms) (said :: rest) (Source.modelArtifact info m :: files)
  | skipped {m : Model} {said : Value} {ms : List Model} {rest : List Value}
      {files : List Artifact} (about : member? "name" said = some (.text m.name.pascal))
      (generated : member? "generated" said = some (.bool false))
      (listed : Listed info ms rest files) : Listed info (m :: ms) (said :: rest) files

/-- What the three commands say about a blueprint and make of it. -/
structure Story (w : Workspace) (path : String) (format : SummaryFormat) (s : Settings)
    (b : Blueprint) : Prop where
  counts : (performCommand w path (.validate none)).messages = linesText [
    "Valid OpenAPI spec: " ++ b.info.title,
    "  Version: " ++ b.info.version,
    "  Operations: " ++ toString b.activities.length,
    "  Request objects: " ++
      toString (Source.requestStructs (Contract.ofBlueprint b s).lines).length,
    "  Models: " ++ toString b.models.length,
    "Validation successful."]
  report : ∀ r, (Generation.run w s).2.result = .ok r →
    (performCommand w path (.generate noOverrides)).messages = announcement s ++ reportText s r ∧
      r.activities = b.activities.length ∧ r.models = b.models.length
  summary : (performCommand w path (.inspect none format)).output = summaryText format b
  operations : ∃ said, (CommandLine.summary b).lookup "operations" = some (.list said) ∧
    Told s b.activities said (Source.traitMethods (Contract.ofBlueprint b s).lines)
      (Source.implCalls s.contractName (Implementation.ofBlueprint b s).lines)
      (Source.optionConstants (Contract.ofBlueprint b s).lines)
      (Source.requestStructs (Contract.ofBlueprint b s).lines)
  models : ∃ said files, (CommandLine.summary b).lookup "models" = some (.list said) ∧
    Listed b.info b.models said files ∧
    Source.modelArtifacts b = files ++ if files.isEmpty then [] else
      [⟨"models/mod.rs", (Source.ModelsModule.ofBlueprint b).lines.text⟩]

/-- What is counted and listed is in the texts of the contract and of the implementation, if what is
put into them as it is has no line feed in it. -/
theorem Story.texts (h : Story w path format s b) (hone : Source.WrittenOnOneLine b s) :
    Source.requestStructs (Source.linesOf (Source.contractArtifact b s).content) =
        Source.requestStructs (Contract.ofBlueprint b s).lines ∧
      ∃ said, (CommandLine.summary b).lookup "operations" = some (.list said) ∧
        Told s b.activities said
          (Source.traitMethods (Source.linesOf (Source.contractArtifact b s).content))
          (Source.implCalls s.contractName
            (Source.linesOf (Source.implementationArtifact b s).content))
          (Source.optionConstants (Source.linesOf (Source.contractArtifact b s).content))
          (Source.requestStructs (Source.linesOf (Source.contractArtifact b s).content)) := by
  rw [Source.linesOf_contractArtifact hone.toContractOnOneLine,
    Source.linesOf_implementationArtifact hone]
  exact ⟨rfl, h.operations⟩

/-- The directory of `furnished`, with settings that name its document. -/
def settled : Workspace := furnished.put ["home", ".oact.yaml"] (.file "input: blank.json".toUTF8)

end ActivityForge.CommandLine
