import ActivityForge.Proofs.Source.Files
import ActivityForge.Proofs.Text.Literal

/-!
# The options of activities as they are written

`optionConstants` reads the constants that hold the options of activities off the lines of a
contract, and `matchArms` the arms of the function that looks them up; `activityOptions?` evaluates
that function.  Both find what the contract declares (`optionConstants_contract`,
`matchArms_contract`).
-/

namespace ActivityForge.Source

open Document (cutAt? cutAt?_append)
open Number (natOfBase? natOfBase?_toDigits toList_toString isDigit_of_mem_toDigits)

/-! ## Reading the files -/

/-- The number between a beginning and an end of a line. -/
def numberBetween? (start stop line : String) : Option Nat := do
  let digits ← between? start stop line
  natOfBase? 10 digits.toList

/-- A number with one decimal place, in tenths. -/
def tenths? (text : String) : Option Nat := do
  let (whole, place) ← cutAt? '.' text.toList
  let units ← natOfBase? 10 whole
  let tenths ← natOfBase? 10 place
  if place.length = 1 then some (units * 10 + tenths) else none

/-- The retry policy that the fields of its record say. -/
def policyOfLines? : Lines → Option RetryPolicy
  | [initial, maximum, backoff, attempts] => do
    let initialIntervalSecs ← numberBetween? "initial_interval: Duration::from_secs(" ")," initial
    let maximumIntervalSecs ← numberBetween? "maximum_interval: Duration::from_secs(" ")," maximum
    let coefficient ← between? "backoff_coefficient: " "," backoff
    let backoffTenths ← tenths? coefficient
    let maximumAttempts ← numberBetween? "maximum_attempts: " "," attempts
    pure { initialIntervalSecs, maximumIntervalSecs, backoffTenths, maximumAttempts }
  | _ => none

/-- A constant with the retry policy that it holds. -/
def constantReader : Reader (String × RetryPolicy) where
  start := "pub const "
  read? line rest := do
    let name ← between? "pub const " ": ActivityOptions = ActivityOptions \x7b" line
    let policy ← policyOfLines? (blockOf "retry_policy: RetryPolicy" (inside rest))
    pure (name, policy)

/-- The constants of a contract with their retry policies. -/
def optionConstants (contract : Lines) : List (String × RetryPolicy) :=
  constantReader.scan (blockOf "pub mod options" contract)

/-- An arm of the look-up by name. -/
inductive Arm
  /-- The options of one name, as a constant. -/
  | options (name constant : String)
  /-- No options for any other name. -/
  | otherwise
deriving DecidableEq, Repr

def Arm.ofLine? (line : String) : Option Arm :=
  if line = "_ => None," then some .otherwise
  else do
    let (name, rest) ← Text.readLiteral? line.toList
    let constant ← between? " => Some(options::" ")," (String.ofList rest)
    pure (.options (String.ofList name) constant)

/-- The arms of the look-up by name, if all can be read. -/
def matchArms (contract : Lines) : Option (List Arm) :=
  (blockOf "match name" (blockOf "pub fn activity_options" contract)).mapM Arm.ofLine?

/-- The constant that the first arm for a name gives, if there is an arm for it at all. -/
def select? (name : String) : List Arm → Option (Option String)
  | [] => none
  | .options key constant :: arms => if name = key then some (some constant) else select? name arms
  | .otherwise :: _ => some none

/-- The look-up by name as the contract defines it: the retry policy in the constant that the
arms give, or none.  The outer option tells whether there is such a constant. -/
def activityOptions? (contract : Lines) (name : String) : Option (Option RetryPolicy) := do
  let arms ← matchArms contract
  match ← select? name arms with
  | none => some none
  | some constant => ((optionConstants contract).lookup constant).map some

/-! ## Constants -/

theorem numberBetween?_append (start stop : String) (n : Nat) :
    numberBetween? start stop (start ++ toString n ++ stop) = some n := by
  rw [numberBetween?, between?_append, Option.bind_eq_bind, Option.bind_some, toList_toString]
  exact natOfBase?_toDigits (by decide) (by decide) n

theorem tenths?_backoffText (p : RetryPolicy) : tenths? p.backoffText = some p.backoffTenths := by
  have hpoint : '.' ∉ Nat.toDigits 10 (p.backoffTenths / 10) := fun h =>
    absurd (isDigit_of_mem_toDigits h) (by decide)
  have hplace : (Nat.toDigits 10 (p.backoffTenths % 10)).length = 1 := by
    rw [Nat.toDigits_of_lt_base (Nat.mod_lt _ (by decide)), List.length_singleton]
  have htext : p.backoffText.toList =
      Nat.toDigits 10 (p.backoffTenths / 10) ++ '.' :: Nat.toDigits 10 (p.backoffTenths % 10) := by
    rw [RetryPolicy.backoffText, String.toList_append, String.toList_append, toList_toString,
      toList_toString, List.append_assoc]
    rfl
  have hsum : p.backoffTenths / 10 * 10 + p.backoffTenths % 10 = p.backoffTenths := by omega
  simp only [tenths?, htext, cutAt?_append hpoint, Option.bind_eq_bind, Option.bind_some,
    natOfBase?_toDigits (by decide : 1 < 10) (by decide : 10 ≤ 16), hplace, hsum, ↓reduceIte]

/-- The lines of the fields of a retry policy. -/
def policyLines (p : RetryPolicy) : Lines :=
  ["initial_interval: Duration::from_secs(" ++ toString p.initialIntervalSecs ++ "),",
   "maximum_interval: Duration::from_secs(" ++ toString p.maximumIntervalSecs ++ "),",
   "backoff_coefficient: " ++ p.backoffText ++ ",",
   "maximum_attempts: " ++ toString p.maximumAttempts ++ ","]

theorem policyOfLines?_policyLines (p : RetryPolicy) :
    policyOfLines? (policyLines p) = some p := by
  simp only [policyLines, policyOfLines?, numberBetween?_append, between?_append,
    tenths?_backoffText, Option.bind_eq_bind, Option.bind_some]
  rfl

/-- The lines of the constant of an activity behind its first line. -/
theorem Declaration.optionsLines_eq (d : Declaration) :
    d.optionsLines =
      ("pub const " ++ d.options ++ ": ActivityOptions = ActivityOptions \x7b") ::
        (indent ("schedule_to_close_timeout: SCHEDULE_TO_CLOSE_TIMEOUT," ::
          block "retry_policy: RetryPolicy" (policyLines d.retryPolicy) ",") ++
            ["\x7d" ++ ";"]) := by
  have hhead : "pub const " ++ d.options ++ ": ActivityOptions = ActivityOptions" ++ " \x7b" =
      "pub const " ++ d.options ++ ": ActivityOptions = ActivityOptions \x7b" :=
    String.append_assoc ..
  rw [← hhead]
  rfl

theorem scan_optionsLines (d : Declaration) (rest : Lines) :
    constantReader.scan (d.optionsLines ++ rest) =
      (d.options, d.retryPolicy) :: constantReader.scan rest := by
  have houter : Outer constantReader.start := by decide
  have hnone : ∀ l ∈ ([] : Lines), startsWith constantReader.start l = false := nofun
  rw [d.optionsLines_eq]
  refine Reader.scan_part hnone ?_ (fun rest => ?_) ?_ rest
  · exact startsWith_append_append_self ..
  · have hbefore : ∀ line ∈ ["schedule_to_close_timeout: SCHEDULE_TO_CLOSE_TIMEOUT,"],
        startsWith "retry_policy: RetryPolicy" line = false := by decide
    have hhead : startsWith "retry_policy: RetryPolicy" ("retry_policy: RetryPolicy" ++ " \x7b") =
        true := by decide
    have hpolicy := blockOf_block hbefore hhead (policyLines d.retryPolicy) "," []
    rw [List.append_nil, List.singleton_append] at hpolicy
    simp only [constantReader, between?_append, inside_block, hpolicy, policyOfLines?_policyLines,
      Option.bind_eq_bind, Option.bind_some]
    rfl
  · rw [List.forall_mem_append]
    refine ⟨fun l hl => houter.startsWith_inner (isInner_of_mem_indent hl), by decide⟩

/-- The lines of the module that holds the constants. -/
def Contract.optionsModuleLines (c : Contract) : Lines :=
  ["use super::\x7bActivityOptions, RetryPolicy, SCHEDULE_TO_CLOSE_TIMEOUT\x7d;",
   "use std::time::Duration;"] ++ spaced (c.declarations.map Declaration.optionsLines)

theorem Contract.headLines_eq (c : Contract) : c.headLines =
    c.introLines ++ block "pub mod options" c.optionsModuleLines ""
      ++ ["", "/// Request objects of activities that take their arguments as one value."] :=
  rfl

theorem optionConstants_contract (c : Contract) :
    optionConstants c.lines = c.declarations.map fun d => (d.options, d.retryPolicy) := by
  obtain ⟨after, hlines⟩ := c.exists_lines
  have huse : ∀ line ∈ ["use super::\x7bActivityOptions, RetryPolicy, SCHEDULE_TO_CLOSE_TIMEOUT\x7d;",
      "use std::time::Duration;"], startsWith constantReader.start line = false := by decide
  have hbefore := startsWith_introLines (Or.inr (Or.inr (Or.inl rfl))) c
  rw [optionConstants, hlines, c.headLines_eq]
  simp only [List.append_assoc]
  rw [← List.append_assoc, blockOf_block hbefore (by decide), Contract.optionsModuleLines,
    Reader.scan_append huse]
  exact Reader.scan_spaced (by decide) scan_optionsLines c.declarations

/-! ## Arms -/

/-- A line of the look-up by name. -/
def Declaration.armLine (d : Declaration) : String :=
  d.key ++ " => Some(options::" ++ d.options ++ "),"

/-- The contract from its trait on. -/
theorem Contract.lines_eq (c : Contract) : c.lines =
    c.headLines ++ block "pub mod requests" (separated (c.requests.map (Request.lines c.name))) ""
      ++ [""] ++ block ("pub trait " ++ c.name) c.traitLines ""
      ++ ["", "/// Options of the activity for operation \x60name\x60, if there is one."]
      ++ block "pub fn activity_options(name: &str) -> Option<ActivityOptions>"
        (block "match name" (c.declarations.map Declaration.armLine ++ ["_ => None,"]) "") ""
      ++ [] := by
  simp only [Contract.lines, Contract.headLines, Contract.traitLines, List.append_assoc,
    List.cons_append, List.nil_append, List.append_nil]
  rfl

theorem ofLine?_armLine (a : Activity) :
    Arm.ofLine? (Declaration.ofActivity a).armLine =
      some (.options a.name.original a.name.screaming) := by
  have hline : (Declaration.ofActivity a).armLine.toList =
      Text.literalChars a.name.original.toList
        ++ (" => Some(options::" ++ a.name.screaming ++ "),").toList := by
    simp only [Declaration.armLine, Declaration.ofActivity, Text.literal, String.toList_append,
      String.toList_ofList, List.append_assoc]
  have hother : (Declaration.ofActivity a).armLine ≠ "_ => None," := by
    intro heq
    have hhead := congrArg List.head? (hline.symm.trans (congrArg String.toList heq))
    simp [Text.literalChars] at hhead
  rw [Arm.ofLine?, if_neg hother, hline, Text.readLiteral?_literalChars]
  simp only [Option.bind_eq_bind, Option.bind_some, String.ofList_toList, between?_append]
  rfl

theorem ofLine?_otherwise : Arm.ofLine? "_ => None," = some .otherwise := if_pos rfl

/-- The arms for activities. -/
def armsOf (activities : List Activity) : List Arm :=
  activities.map (fun a => .options a.name.original a.name.screaming) ++ [.otherwise]

theorem mapM_ofLine? (activities : List Activity) :
    (activities.map (fun a => (Declaration.ofActivity a).armLine) ++ ["_ => None,"]).mapM
      Arm.ofLine? = some (armsOf activities) := by
  induction activities with
  | nil => simp [ofLine?_otherwise, armsOf]
  | cons a rest ih => simp [ofLine?_armLine, ih, armsOf]

/-- The head of the trait begins like that of the look-up, but for the second word. -/
theorem startsWith_traitHead (name : String) :
    startsWith "pub fn activity_options" ("pub trait " ++ name ++ " \x7b") = false := by
  have hstart : "pub fn activity_options" = "pub " ++ "fn activity_options" := rfl
  have hline : "pub trait " ++ name ++ " \x7b" = "pub " ++ ("trait " ++ (name ++ " \x7b")) := by
    rw [← String.append_assoc, String.append_assoc]
    rfl
  rw [hstart, hline, startsWith_append_append]
  exact startsWith_eq_false (by decide) (by simp)

theorem startsWith_activityOptions (c : Contract) :
    ∀ line ∈ c.headLines
        ++ block "pub mod requests" (separated (c.requests.map (Request.lines c.name))) "" ++ [""]
        ++ block ("pub trait " ++ c.name) c.traitLines ""
        ++ ["", "/// Options of the activity for operation \x60name\x60, if there is one."],
      startsWith "pub fn activity_options" line = false := by
  have hhead : IsHead "pub fn activity_options" := Or.inr (Or.inr (Or.inr rfl))
  simp only [List.forall_mem_append]
  refine ⟨⟨⟨⟨startsWith_headLines hhead (by decide) c, ?_⟩, by decide⟩, ?_⟩, by decide⟩
  · exact startsWith_block (by decide) (by decide) (by decide)
  · exact startsWith_block (by decide) (by decide) (startsWith_traitHead c.name)

theorem matchArms_contract (b : Blueprint) (s : Settings) :
    matchArms (Contract.ofBlueprint b s).lines = some (armsOf b.activities) := by
  have harms : blockOf "match name" (block "match name"
      ((Contract.ofBlueprint b s).declarations.map Declaration.armLine ++ ["_ => None,"]) "") =
        b.activities.map (fun a => (Declaration.ofActivity a).armLine) ++ ["_ => None,"] := by
    have hnone : ∀ line ∈ ([] : Lines), startsWith "match name" line = false := nofun
    have hhead : startsWith "match name" ("match name" ++ " \x7b") = true := by decide
    have hblock := blockOf_block hnone hhead
      ((Contract.ofBlueprint b s).declarations.map Declaration.armLine ++ ["_ => None,"]) "" []
    rw [List.append_nil, List.nil_append] at hblock
    rw [hblock, Contract.ofBlueprint, List.map_map]
    rfl
  rw [matchArms, Contract.lines_eq, blockOf_block (startsWith_activityOptions _) (by decide), harms,
    mapM_ofLine?]

end ActivityForge.Source
