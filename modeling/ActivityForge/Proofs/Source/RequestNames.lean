import ActivityForge.Proofs.Name.Pascal
import ActivityForge.Proofs.Source.Uniqueness

/-!
# The names of request objects

A request object is named after its activity in Pascal case, and activities are kept apart by their
forms in snake case.  The forms say more: whether a digit begins a word is not seen in Pascal case.
So request objects have different names if and only if no two of the forms differ in nothing but
underscores in front of digits (`request_names_differ_iff`).  Such forms are not kept apart, be they
declared (`numbered_requests_share_a_name`) or come about when names are settled.
-/

namespace ActivityForge

open Name (joinDigits)

namespace Activity

/-- Activities with different forms have forms that differ in more than underscores in front of
digits. -/
def DigitsApart (activities : List Activity) : Prop :=
  ∀ a ∈ activities, ∀ b ∈ activities,
    joinDigits a.name.snake.toList = joinDigits b.name.snake.toList → a.name.snake = b.name.snake

theorem requestName_eq_iff {a b : Activity} (ha : AsciiName a.name) (hb : AsciiName b.name) :
    a.requestName = b.requestName ↔
      joinDigits a.name.snake.toList = joinDigits b.name.snake.toList := by
  rw [requestName, requestName, String.append_left_inj, ha.eq_ofText, hb.eq_ofText]
  exact Name.pascal_eq_iff ha.ascii hb.ascii

/-- Of activities with different forms. -/
theorem nodup_requestNames_iff {activities : List Activity} (hforms : (forms activities).Nodup)
    (hnames : ∀ a ∈ activities, AsciiName a.name) :
    (activities.map requestName).Nodup ↔ DigitsApart activities := by
  have hsame {a b : Activity} (ha : a ∈ activities) (hb : b ∈ activities) :
      a = b ↔ a.name.snake = b.name.snake :=
    ⟨congrArg fun c : Activity => c.name.snake, List.inj_on_of_nodup_map hforms ha hb⟩
  rw [List.nodup_map_iff_inj_on hforms.of_map]
  refine forall₂_congr fun a ha => forall₂_congr fun b hb => ?_
  rw [requestName_eq_iff (hnames a ha) (hnames b hb), hsame ha hb]

end Activity

namespace Source

/-- The names of the request objects: one for each activity that takes one. -/
def requestNames (b : Blueprint) : List String :=
  (b.activities.filter Activity.usesRequest).map Activity.requestName

/-- In the contract of a document whose own identifiers are ASCII, the structs of the request
objects have different names if and only if the forms of their activities differ in more than
underscores in front of digits. -/
theorem request_names_differ_iff {d : Document} {o : Options} {b : Blueprint} (s : Settings)
    (hids : ∀ e ∈ d.endpoints, ∀ id, e.operation.operationId = some id →
      ∀ c ∈ id.toList, Text.isAscii c = true)
    (h : (Blueprint.ofDocument d o).result = .ok b) :
    (requestStructs (Contract.ofBlueprint b s).lines).map Struct.name = requestNames b ∧
      ((requestNames b).Nodup ↔
        Activity.DigitsApart (b.activities.filter Activity.usesRequest)) := by
  obtain ⟨hforms, hnames⟩ := Blueprint.asciiName_of_ofDocument hids h
  have hfiltered : (Activity.forms (b.activities.filter Activity.usesRequest)).Nodup :=
    hforms.sublist (List.filter_sublist.map _)
  constructor
  · rw [requestStructs_ofBlueprint, List.map_map]
    rfl
  · exact Activity.nodup_requestNames_iff hfiltered fun a ha => hnames a (List.mem_filter.1 ha).1

/-- Operations with a parameter and a body each, whose identifiers differ by an underscore. -/
def numbered : Document where
  format := "3.0.3"
  info := ⟨"Numbered", none, "1"⟩
  paths := [
    ("/a", ⟨[], none, some (operation "getPet1"), none, none, none⟩),
    ("/b", ⟨[], none, some (operation "getPet_1"), none, none, none⟩)]
  components := none
where
  operation (id : String) : Document.Operation :=
    ⟨some id, none, none, [], [.inline ⟨"tag", .query, none, true, none⟩],
      some (.inline ⟨none, [], true⟩), [], none⟩

theorem isAscii_numbered : ∀ e ∈ numbered.endpoints, ∀ id, e.operation.operationId = some id →
    ∀ c ∈ id.toList, Text.isAscii c = true :=
  Document.isAscii_of_all (by decide)

theorem numbered_request_names : ∃ b,
    (∀ e ∈ numbered.endpoints, ∀ id, e.operation.operationId = some id →
      ∀ c ∈ id.toList, Text.isAscii c = true) ∧
    (Blueprint.ofDocument numbered ⟨"models", true⟩).result = .ok b ∧
    (requestStructs (Contract.ofBlueprint b .default).lines).map Struct.name = requestNames b ∧
    ((requestNames b).Nodup ↔
      Activity.DigitsApart (b.activities.filter Activity.usesRequest)) := by
  obtain ⟨b, h⟩ := exists_eq_ok_of_isOk
    (x := (Blueprint.ofDocument numbered ⟨"models", true⟩).result) (by decide +kernel)
  exact ⟨b, isAscii_numbered, h, request_names_differ_iff .default isAscii_numbered h⟩

/-- Request objects of activities with different names share one. -/
theorem numbered_requests_share_a_name :
    ¬ ∀ (d : Document) (o : Options) (b : Blueprint), (Blueprint.ofDocument d o).result = .ok b →
      (requestNames b).Nodup := by
  intro hall
  have hnames : (Blueprint.ofDocument numbered ⟨"models", true⟩).result.map requestNames =
      .ok ["GetPet1Request", "GetPet1Request"] := by
    decide +kernel
  obtain ⟨b, h, hb⟩ := map_eq_ok_iff.1 hnames
  have hnodup := hall _ _ b h
  rw [hb] at hnodup
  exact absurd hnodup (by decide)

end Source

end ActivityForge
