import ActivityForge.Proofs.Activity.Settling
import ActivityForge.Proofs.Blueprint.Enumeration

/-!
# Which names are kept

Names are settled in order, and a numbered name counts like any other from then on.  So an activity
is renamed if and only if its form was declared by one before it, or given to one before it with a
number (`renamed_iff_taken`).  A form that is declared once is therefore not safe: its activity
gives way to a numbered name (`numbered_name_displaces_another`), though to nothing else.
-/

namespace ActivityForge

namespace Activity

def names (activities : List Activity) : List Name := activities.map name

/-- A name in front of the place `i` has the form. -/
def DeclaredBefore (declared : List Name) (i : Nat) (form : String) : Prop :=
  ∃ j < i, ∃ c, declared[j]? = some c ∧ c.snake = form

/-- A name in front of the place `i` was replaced by a numbered name, and that has the form. -/
def NumberedBefore (declared settled : List Name) (i : Nat) (form : String) : Prop :=
  ∃ j < i, ∃ c n, declared[j]? = some c ∧ settled[j]? = some n ∧ n ≠ c ∧
    (∃ s, 2 ≤ s ∧ n = Name.ofText (c.original ++ "_" ++ toString s)) ∧ n.snake = form

/-- What becomes of declared names when they are settled. -/
structure RenamesTaken (declared settled : List Name) : Prop where
  length_eq : settled.length = declared.length
  renamed_iff : ∀ (i : Nat) (c n : Name), declared[i]? = some c → settled[i]? = some n →
    (n ≠ c ↔ DeclaredBefore declared i c.snake ∨ NumberedBefore declared settled i c.snake)
  /-- Of a name whose form is declared once. -/
  renamed_once_iff : ∀ (i : Nat) (c n : Name), declared[i]? = some c → settled[i]? = some n →
    (∀ (j : Nat) (c' : Name), declared[j]? = some c' → c'.snake = c.snake → j = i) →
      (n ≠ c ↔ NumberedBefore declared settled i c.snake)

/-! ## Forms of the first activities -/

theorem getElem?_names_iff {activities : List Activity} {i : Nat} {n : Name} :
    (names activities)[i]? = some n ↔ ∃ a, activities[i]? = some a ∧ a.name = n := by
  rw [names, List.getElem?_map, Option.map_eq_some_iff]

theorem mem_forms_take_iff {activities : List Activity} {i : Nat} {form : String} :
    form ∈ forms (activities.take i) ↔
      ∃ j < i, ∃ a, activities[j]? = some a ∧ a.name.snake = form := by
  rw [forms, List.mem_map]
  constructor
  · rintro ⟨a, hmem, rfl⟩
    obtain ⟨j, hj⟩ := List.mem_iff_getElem?.1 hmem
    rw [List.getElem?_take] at hj
    split at hj
    · next hlt => exact ⟨j, hlt, a, hj, rfl⟩
    · cases hj
  · rintro ⟨j, hlt, a, ha, rfl⟩
    exact ⟨a, List.mem_iff_getElem?.2 ⟨j, by rw [List.getElem?_take, if_pos hlt, ha]⟩, rfl⟩

theorem forms_take_subset (activities : List Activity) {i j : Nat} (h : j ≤ i) :
    forms (activities.take j) ⊆ forms (activities.take i) := by
  intro form hform
  obtain ⟨k, hk, ha⟩ := mem_forms_take_iff.1 hform
  exact mem_forms_take_iff.2 ⟨k, Nat.lt_of_lt_of_le hk h, ha⟩

/-! ## Settled names -/

variable {activities : List Activity}

theorem length_settleNames : (settleNames [] activities).length = activities.length :=
  (forall₂_renames_settleNames [] activities).length_eq.symm

theorem exists_settled_iff {i : Nat} :
    (∃ b, (settleNames [] activities)[i]? = some b) ↔ ∃ a, activities[i]? = some a := by
  simp only [← Option.isSome_iff_exists, isSome_getElem?, length_settleNames]

theorem settles_of_getElem? {i : Nat} {a b : Activity} (ha : activities[i]? = some a)
    (hb : (settleNames [] activities)[i]? = some b) :
    Settles (forms ((settleNames [] activities).take i)) a b := by
  simpa using settles_settleNames [] activities ha hb

/-- What has a form at a place keeps it taken, even where it gives way: then another before it has
the form. -/
theorem mem_forms_of_declaredBefore {i : Nat} {form : String}
    (h : DeclaredBefore (names activities) i form) :
    form ∈ forms ((settleNames [] activities).take i) := by
  obtain ⟨j, hj, c, hc, rfl⟩ := h
  obtain ⟨a, ha, rfl⟩ := getElem?_names_iff.1 hc
  obtain ⟨b, hb⟩ := exists_settled_iff.2 ⟨a, ha⟩
  by_cases htaken : a.name.snake ∈ forms ((settleNames [] activities).take j)
  · exact forms_take_subset _ (Nat.le_of_lt hj) htaken
  · have hkept : b.name = a.name := (settles_of_getElem? ha hb).kept.2 htaken
    exact mem_forms_take_iff.2 ⟨j, hj, b, hb, by rw [hkept]⟩

/-- The forms settled so far are those declared and those given with a number. -/
theorem mem_forms_settled_iff {i : Nat} {form : String} :
    form ∈ forms ((settleNames [] activities).take i) ↔
      DeclaredBefore (names activities) i form ∨
        NumberedBefore (names activities) (names (settleNames [] activities)) i form := by
  constructor
  · intro hform
    obtain ⟨j, hj, b, hb, rfl⟩ := mem_forms_take_iff.1 hform
    obtain ⟨a, ha⟩ := exists_settled_iff.1 ⟨b, hb⟩
    have hsettles := settles_of_getElem? ha hb
    have hdeclared := getElem?_names_iff.2 ⟨a, ha, rfl⟩
    by_cases htaken : a.name.snake ∈ forms ((settleNames [] activities).take j)
    · obtain ⟨s, hs, hname⟩ := hsettles.renamed htaken
      exact Or.inr ⟨j, hj, a.name, b.name, hdeclared, getElem?_names_iff.2 ⟨b, hb, rfl⟩,
        mt hsettles.kept.1 (not_not.2 htaken), ⟨s, hs.two_le, hname⟩, rfl⟩
    · have hkept : b.name = a.name := hsettles.kept.2 htaken
      exact Or.inl ⟨j, hj, a.name, hdeclared, by rw [hkept]⟩
  · rintro (hdeclared | ⟨j, hj, c, n, -, hn, -, -, rfl⟩)
    · exact mem_forms_of_declaredBefore hdeclared
    · obtain ⟨b, hb, rfl⟩ := getElem?_names_iff.1 hn
      exact mem_forms_take_iff.2 ⟨j, hj, b, hb, rfl⟩

theorem renamesTaken_settleNames (activities : List Activity) :
    RenamesTaken (names activities) (names (settleNames [] activities)) := by
  have hrenamed (i : Nat) (c n : Name) (hc : (names activities)[i]? = some c)
      (hn : (names (settleNames [] activities))[i]? = some n) :
      n ≠ c ↔ DeclaredBefore (names activities) i c.snake ∨
        NumberedBefore (names activities) (names (settleNames [] activities)) i c.snake := by
    obtain ⟨a, ha, rfl⟩ := getElem?_names_iff.1 hc
    obtain ⟨b, hb, rfl⟩ := getElem?_names_iff.1 hn
    rw [← mem_forms_settled_iff, ne_eq, (settles_of_getElem? ha hb).kept, not_not]
  refine ⟨by simp [names, length_settleNames], hrenamed, fun i c n hc hn honce => ?_⟩
  rw [hrenamed i c n hc hn]
  refine or_iff_right ?_
  rintro ⟨j, hj, c', hc', heq⟩
  exact Nat.ne_of_lt hj (honce j c' hc' heq)

end Activity

/-! ## Names that a document declares -/

open Document (Endpoint)

/-- The name that a document gives to an operation. -/
def Document.Endpoint.declaredName (e : Endpoint) : Name :=
  Name.ofText (Blueprint.operationName e.method e.path e.operation)

namespace Blueprint

variable {d : Document} {o : Options} {b : Blueprint}

theorem names_drafts {scope : String} {drafts : List Activity}
    (h : List.Forall₂ (Describes d scope) d.endpoints drafts) :
    Activity.names drafts = d.endpoints.map Endpoint.declaredName := by
  rw [Activity.names, ← List.forall₂_eq_eq_eq, List.forall₂_map_left_iff,
    List.forall₂_map_right_iff]
  refine h.flip.imp fun a e ha => ?_
  rw [ha.name, ha.identifier.unique (identifies_operationName e)]
  rfl

/-- Whatever the list of activities, and so whatever the document, it is the taken names that are
replaced. -/
theorem renamed_iff_taken :
    (∀ activities : List Activity, Activity.RenamesTaken (Activity.names activities)
      (Activity.names (Activity.settleNames [] activities))) ∧
    ∀ (d : Document) (o : Options) (b : Blueprint), (ofDocument d o).result = .ok b →
      Activity.RenamesTaken (d.endpoints.map Endpoint.declaredName)
        (Activity.names b.activities) := by
  refine ⟨Activity.renamesTaken_settleNames, fun d o b h => ?_⟩
  obtain ⟨drafts, hdrafts, hb⟩ := exists_drafts h
  rw [hb, ← names_drafts hdrafts]
  exact Activity.renamesTaken_settleNames drafts

/-- Two operations with the same identifier, and one that has this identifier with a number. -/
def numberedPets : Document where
  format := "3.0.3"
  info := ⟨"Numbered pets", none, "1"⟩
  paths := [("/a", path "getPet"), ("/b", path "getPet"), ("/c", path "getPet_2")]
  components := none
where
  path (id : String) : Document.PathItem :=
    ⟨[], some ⟨some id, none, none, [], [], none, [], none⟩, none, none, none, none⟩

theorem numberedPets_renamed : ∃ b,
    (ofDocument numberedPets ⟨"models", true⟩).result = .ok b ∧
      Activity.RenamesTaken (numberedPets.endpoints.map Endpoint.declaredName)
        (Activity.names b.activities) := by
  obtain ⟨b, h⟩ := exists_eq_ok_of_isOk
    (x := (ofDocument numberedPets ⟨"models", true⟩).result) (by decide)
  exact ⟨b, h, renamed_iff_taken.2 _ _ b h⟩

/-- The number that the second pet is given is that of the third, which gives way. -/
theorem names_numberedPets : ∃ b drafts,
    (ofDocument numberedPets ⟨"models", true⟩).result = .ok b ∧
      b.activities = Activity.settleNames [] drafts ∧
      Activity.names drafts = numberedPets.endpoints.map Endpoint.declaredName ∧
      Activity.names b.activities =
        [Name.ofText "getPet", Name.ofText "getPet_2", Name.ofText "getPet_2_2"] := by
  have hnames : (ofDocument numberedPets ⟨"models", true⟩).result.map
      (fun b => Activity.names b.activities) =
        .ok [Name.ofText "getPet", Name.ofText "getPet_2", Name.ofText "getPet_2_2"] := by
    decide +kernel
  obtain ⟨b, h, hb⟩ := map_eq_ok_iff.1 hnames
  obtain ⟨drafts, hdrafts, heq⟩ := exists_drafts h
  exact ⟨b, drafts, h, by rw [heq], names_drafts hdrafts, hb⟩

/-- An activity may be renamed although no activity before it, and no other of the document, has
its form. -/
theorem numbered_name_displaces_another :
    (¬ ∀ (activities : List Activity) (i : Nat) (c n : Name),
      (Activity.names activities)[i]? = some c →
        (Activity.names (Activity.settleNames [] activities))[i]? = some n → n ≠ c →
          Activity.DeclaredBefore (Activity.names activities) i c.snake) ∧
    ¬ ∀ (d : Document) (o : Options) (b : Blueprint), (ofDocument d o).result = .ok b →
      ∀ (i : Nat) (c n : Name), (d.endpoints.map Endpoint.declaredName)[i]? = some c →
        (Activity.names b.activities)[i]? = some n →
          (∀ (j : Nat) (c' : Name), (d.endpoints.map Endpoint.declaredName)[j]? = some c' →
            c'.snake = c.snake → j = i) → n = c := by
  obtain ⟨b, drafts, h, hsettled, hdrafts, hnames⟩ := names_numberedPets
  have hdeclared : numberedPets.endpoints.map Endpoint.declaredName =
      [Name.ofText "getPet", Name.ofText "getPet", Name.ofText "getPet_2"] := rfl
  have hforms : (Name.ofText "getPet").snake ≠ (Name.ofText "getPet_2").snake := by decide +kernel
  have hother : Name.ofText "getPet_2_2" ≠ Name.ofText "getPet_2" := by decide +kernel
  constructor
  · intro hall
    obtain ⟨j, hj, c, hc, hform⟩ := hall drafts 2 (Name.ofText "getPet_2")
      (Name.ofText "getPet_2_2") (by rw [hdrafts, hdeclared]; rfl)
      (by rw [← hsettled, hnames]; rfl) hother
    rw [hdrafts, hdeclared] at hc
    obtain rfl | rfl : j = 0 ∨ j = 1 := by omega
    · exact hforms (Option.some.inj hc ▸ hform)
    · exact hforms (Option.some.inj hc ▸ hform)
  · intro hall
    refine hother (hall numberedPets _ b h 2 _ _ (by rw [hdeclared]; rfl) (by rw [hnames]; rfl)
      fun j c hc hform => ?_)
    rw [hdeclared] at hc
    match j with
    | 0 => exact absurd (Option.some.inj hc ▸ hform) hforms
    | 1 => exact absurd (Option.some.inj hc ▸ hform) hforms
    | 2 => rfl
    | j + 3 => cases hc

end Blueprint

end ActivityForge
