import ActivityForge.Proofs.Activity.Settling
import ActivityForge.Proofs.Blueprint.Enumeration
import ActivityForge.Proofs.Dict
import ActivityForge.Proofs.Name.Forms
import ActivityForge.Proofs.Source.Options
import ActivityForge.Proofs.Source.Texts
import Mathlib

/-!
# Activities can be told apart in the contract

Settling makes the snake case forms of names different.  If the names are ASCII, then so are the
identifiers of the methods, the names of the constants and the names that the look-up goes by
(`AsciiName`), and every arm of the look-up can be reached: it finds the options of each activity
and of no other name (`contract_tells_apart`; `tellsApart_text` says so of the text of the contract).
-/

namespace ActivityForge

/-! ## Names that are ASCII -/

/-- The forms of an ASCII text. -/
structure AsciiName (n : Name) : Prop where
  eq_ofText : n = Name.ofText n.original
  ascii : ∀ c ∈ n.original.toList, Text.isAscii c = true

theorem asciiName_ofText {text : String} (h : ∀ c ∈ text.toList, Text.isAscii c = true) :
    AsciiName (Name.ofText text) :=
  ⟨rfl, h⟩

namespace AsciiName

variable {m n : Name} (hm : AsciiName m) (hn : AsciiName n)

include hm hn

/-- ASCII names with the same identifier have the same form, … -/
theorem snake_eq_of_identifier (h : identifier m.snake = identifier n.snake) :
    m.snake = n.snake := by
  rw [hm.eq_ofText, hn.eq_ofText] at h ⊢
  exact Name.identifier_snake_injective hm.ascii hn.ascii h

/-- … and so have those with the same form in capitals. -/
theorem snake_eq_of_screaming (h : m.screaming = n.screaming) : m.snake = n.snake := by
  rw [hm.eq_ofText, hn.eq_ofText] at h ⊢
  exact Name.screaming_injective hm.ascii hn.ascii h

theorem snake_eq_of_original (h : m.original = n.original) : m.snake = n.snake := by
  rw [hm.eq_ofText, hn.eq_ofText, h]

end AsciiName

/-- A number keeps a name ASCII. -/
theorem AsciiName.numbered {n : Name} (h : AsciiName n) (s : Nat) :
    AsciiName (Name.ofText (n.original ++ "_" ++ toString s)) := by
  refine asciiName_ofText ?_
  rw [Name.toList_numbered, List.forall_mem_append, List.forall_mem_cons]
  exact ⟨h.ascii, by decide,
    fun c hc => Text.isAscii_of_isDigit (Number.isDigit_of_mem_toDigits hc)⟩

theorem Text.isAscii_of_isAlphanum {c : Char} (h : c.isAlphanum = true) : isAscii c = true := by
  have hle : c.toNat ≤ 122 := by
    simp only [Char.isAlphanum, Char.isAlpha, Char.isUpper, Char.isLower, Char.isDigit,
      Bool.or_eq_true, Bool.and_eq_true, decide_eq_true_eq, UInt32.le_iff_toNat_le, ge_iff_le] at h
    obtain (⟨-, h⟩ | ⟨-, h⟩) | ⟨-, h⟩ := h
    all_goals exact Nat.le_trans h (by decide)
  simpa [isAscii] using Nat.lt_of_le_of_lt hle (by decide)

/-- Of a path only ASCII letters and digits are used. -/
theorem Name.isAscii_ofMethodAndPath (m : Document.Method) (path : String) :
    ∀ c ∈ (ofMethodAndPath m.text path).toList, Text.isAscii c = true := by
  rw [ofMethodAndPath, String.toList_ofList, List.forall_mem_append]
  refine ⟨List.all_eq_true.1 ?_, fun c hc => Text.isAscii_of_isAlphanum (List.mem_filter.1 hc).2⟩
  cases m <;> decide

/-- That the identifiers which a document gives are ASCII can be checked. -/
theorem Document.isAscii_of_all {d : Document}
    (h : d.endpoints.all (fun e =>
      e.operation.operationId.all fun id => id.toList.all Text.isAscii) = true) :
    ∀ e ∈ d.endpoints, ∀ id, e.operation.operationId = some id →
      ∀ c ∈ id.toList, Text.isAscii c = true := by
  intro e he id hid
  have hascii := List.all_eq_true.1 h e he
  rw [hid] at hascii
  exact List.all_eq_true.1 hascii

theorem Identifies.isAscii {e : Document.Endpoint} {name : String} (h : Identifies e name)
    (hid : ∀ id, e.operation.operationId = some id → ∀ c ∈ id.toList, Text.isAscii c = true) :
    ∀ c ∈ name.toList, Text.isAscii c = true := by
  cases h with
  | own hown => exact hid _ hown
  | blank => exact Name.isAscii_ofMethodAndPath e.method e.path
  | absent => exact Name.isAscii_ofMethodAndPath e.method e.path

namespace Activity

theorem asciiName_settleName {taken : List String} {a : Activity} (h : AsciiName a.name) :
    AsciiName (settleName taken a).name := by
  by_cases hfree : a.name.snake ∈ taken
  · obtain ⟨s, -, heq⟩ := settleName_of_taken hfree
    rw [heq]
    exact h.numbered s
  · rwa [settleName_of_free hfree]

theorem asciiName_settleNames (taken : List String) {activities : List Activity}
    (h : ∀ a ∈ activities, AsciiName a.name) :
    ∀ a ∈ settleNames taken activities, AsciiName a.name :=
  forall_settleNames (P := fun a => AsciiName a.name) (fun _ _ => asciiName_settleName) taken h

/-- What tells forms apart tells activities with different forms apart. -/
theorem nodup_map_of_forms {β : Type} {activities : List Activity} {f : Activity → β}
    (h : (forms activities).Nodup)
    (hf : ∀ a ∈ activities, ∀ b ∈ activities, f a = f b → a.name.snake = b.name.snake) :
    (activities.map f).Nodup := by
  have hpairs : activities.Pairwise fun a b => a.name.snake ≠ b.name.snake := List.pairwise_map.1 h
  exact List.pairwise_map.2 (hpairs.imp_of_mem fun ha hb hne hab => hne (hf _ ha _ hb hab))

end Activity

/-- The names of the activities of a blueprint are ASCII if the identifiers that its document gives
are; those made from paths are anyway. -/
theorem Blueprint.asciiName_of_ofDocument {d : Document} {o : Options} {b : Blueprint}
    (hids : ∀ e ∈ d.endpoints, ∀ id, e.operation.operationId = some id →
      ∀ c ∈ id.toList, Text.isAscii c = true)
    (h : (ofDocument d o).result = .ok b) :
    (Activity.forms b.activities).Nodup ∧ ∀ a ∈ b.activities, AsciiName a.name := by
  obtain ⟨drafts, hdrafts, hb⟩ := exists_drafts h
  rw [hb]
  refine ⟨(Activity.nodup_forms_settleNames [] drafts).1, Activity.asciiName_settleNames [] ?_⟩
  intro a ha
  obtain ⟨i, hi, rfl⟩ := List.mem_iff_getElem.1 ha
  have hendpoint : i < d.endpoints.length := hdrafts.length_eq ▸ hi
  have hdescribes := List.Forall₂.get hdrafts hendpoint hi
  exact ⟨hdescribes.name, hdescribes.identifier.isAscii (hids _ (List.getElem_mem hendpoint))⟩

namespace Source

/-! ## Looking up -/

theorem select?_armsOf_of_not_mem {name : String} {activities : List Activity}
    (h : ∀ a ∈ activities, a.name.original ≠ name) :
    select? name (armsOf activities) = some none := by
  induction activities with
  | nil => rfl
  | cons a rest ih =>
    rw [List.forall_mem_cons] at h
    exact (if_neg h.1.symm).trans (ih h.2)

/-- The arm of an activity is reached if no other is for its name. -/
theorem select?_armsOf {activities : List Activity}
    (h : (activities.map fun a => a.name.original).Nodup) {a : Activity} (ha : a ∈ activities) :
    select? a.name.original (armsOf activities) = some (some a.name.screaming) := by
  induction activities with
  | nil => cases ha
  | cons first rest ih =>
    rw [List.map_cons, List.nodup_cons] at h
    rcases List.mem_cons.1 ha with rfl | ha
    · exact if_pos rfl
    · have hne : a.name.original ≠ first.name.original := fun heq =>
        h.1 (heq ▸ List.mem_map.2 ⟨a, ha, rfl⟩)
      exact (if_neg hne).trans (ih h.2 ha)

/-- The names that arms are for. -/
def armNames (arms : List Arm) : List String :=
  arms.filterMap fun
    | .options name _ => some name
    | .otherwise => none

theorem armNames_armsOf (activities : List Activity) :
    armNames (armsOf activities) = activities.map fun a => a.name.original := by
  induction activities with
  | nil => rfl
  | cons a rest ih => exact congrArg (a.name.original :: ·) ih

/-! ## The contract -/

/-- A contract tells activities apart: their methods, constants and arms differ, and the look-up
finds the constant with the retry policy of each. -/
structure TellsApart (activities : List Activity) (contract : Lines) : Prop where
  methods : (traitMethods contract).map Method.name = activities.map Activity.methodName
  distinctMethods : ((traitMethods contract).map Method.name).Nodup
  constants : (optionConstants contract).map Prod.fst = activities.map fun a => a.name.screaming
  distinctConstants : ((optionConstants contract).map Prod.fst).Nodup
  arms : ∃ arms, matchArms contract = some arms ∧
    armNames arms = (activities.map fun a => a.name.original) ∧ (armNames arms).Nodup
  selected : ∀ a ∈ activities, ∃ arms, matchArms contract = some arms ∧
    select? a.name.original arms = some (some a.name.screaming)
  held : ∀ a ∈ activities, (a.name.screaming, a.retryPolicy) ∈ optionConstants contract
  known : ∀ a ∈ activities, activityOptions? contract a.name.original = some (some a.retryPolicy)
  unknown : ∀ name, (∀ a ∈ activities, a.name.original ≠ name) →
    activityOptions? contract name = some none

section Contract

variable {b : Blueprint} (s : Settings)

theorem methods_ofBlueprint : (traitMethods (Contract.ofBlueprint b s).lines).map Method.name =
    b.activities.map Activity.methodName := by
  rw [traitMethods_ofBlueprint, List.map_map]
  simp only [Function.comp_def, Signature.method, Activity.signature]

theorem optionConstants_ofBlueprint : optionConstants (Contract.ofBlueprint b s).lines =
    b.activities.map fun a => (a.name.screaming, a.retryPolicy) := by
  rw [optionConstants_contract, Contract.ofBlueprint, List.map_map]
  rfl

variable (hforms : (Activity.forms b.activities).Nodup)
  (hnames : ∀ a ∈ b.activities, AsciiName a.name)

include hforms hnames

theorem tellsApart_ofBlueprint : TellsApart b.activities (Contract.ofBlueprint b s).lines := by
  have hmethods : (b.activities.map Activity.methodName).Nodup :=
    Activity.nodup_map_of_forms hforms fun a ha a' ha' h =>
      (hnames a ha).snake_eq_of_identifier (hnames a' ha') h
  have hscreaming : (b.activities.map fun a => a.name.screaming).Nodup :=
    Activity.nodup_map_of_forms hforms fun a ha a' ha' h =>
      (hnames a ha).snake_eq_of_screaming (hnames a' ha') h
  have horiginals : (b.activities.map fun a => a.name.original).Nodup :=
    Activity.nodup_map_of_forms hforms fun a ha a' ha' h =>
      (hnames a ha).snake_eq_of_original (hnames a' ha') h
  have hconstants : (optionConstants (Contract.ofBlueprint b s).lines).map Prod.fst =
      b.activities.map fun a => a.name.screaming := by
    rw [optionConstants_ofBlueprint, List.map_map]
    rfl
  have hdistinct : ((optionConstants (Contract.ofBlueprint b s).lines).map Prod.fst).Nodup := by
    rw [hconstants]
    exact hscreaming
  have hdistinctMethods :
      ((traitMethods (Contract.ofBlueprint b s).lines).map Method.name).Nodup := by
    rw [methods_ofBlueprint]
    exact hmethods
  have hheld : ∀ a ∈ b.activities,
      (a.name.screaming, a.retryPolicy) ∈ optionConstants (Contract.ofBlueprint b s).lines := by
    intro a ha
    rw [optionConstants_ofBlueprint]
    exact List.mem_map.2 ⟨a, ha, rfl⟩
  have harms := matchArms_contract b s
  refine ⟨methods_ofBlueprint s, hdistinctMethods, hconstants, hdistinct,
    ⟨_, harms, armNames_armsOf _, armNames_armsOf _ ▸ horiginals⟩, fun a ha => ?_, hheld,
    fun a ha => ?_, fun name hname => ?_⟩
  · exact ⟨_, harms, select?_armsOf horiginals ha⟩
  · rw [activityOptions?, harms]
    simp only [Option.bind_eq_bind, Option.bind_some, select?_armsOf horiginals ha,
      Dict.lookup_of_nodup hdistinct (hheld a ha), Option.map_some]
  · rw [activityOptions?, harms]
    simp only [Option.bind_eq_bind, Option.bind_some, select?_armsOf_of_not_mem hname]

end Contract

/-- So they can in the text of the contract, if what is put into it as it is has no line feed in
it. -/
theorem tellsApart_text {d : Document} {o : Options} {b : Blueprint} {s : Settings}
    (hids : ∀ e ∈ d.endpoints, ∀ id, e.operation.operationId = some id →
      ∀ c ∈ id.toList, Text.isAscii c = true)
    (h : (Blueprint.ofDocument d o).result = .ok b) (hd : d.OnOneLine)
    (hscope : isBroken o.modelScope = false) (hname : isBroken s.contractName = false) :
    TellsApart b.activities (linesOf (contractArtifact b s).content) := by
  obtain ⟨hforms, hnames⟩ := Blueprint.asciiName_of_ofDocument hids h
  rw [linesOf_contractArtifact (contractOnOneLine_of_ofDocument h hd hscope hname)]
  exact tellsApart_ofBlueprint s hforms hnames

/-- Operations whose identifiers are the same but for their case, and two without one. -/
def homonyms : Document where
  format := "3.0.3"
  info := ⟨"Homonyms", none, "1"⟩
  paths := [
    ("/naïve", ⟨[], some (operation (some "Self")), some (operation (some "self")),
      some (operation (some "SELF")), some (operation none), none⟩),
    ("/nave", ⟨[], none, none, none, some (operation (some " ")), none⟩)]
  components := none
where
  operation (id : Option String) : Document.Operation :=
    ⟨id, none, none, [], [], none, [], none⟩

end Source

end ActivityForge
