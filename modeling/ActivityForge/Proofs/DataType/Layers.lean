import ActivityForge.Proofs.DataType.Mentions
import ActivityForge.Proofs.Name.Characters
import ActivityForge.Source.TypeText

/-!
# References under options

The text of a model field is the name of a model under any number of options only if the type of
the field is a reference to that model, optional at most once, and the model is another than the
enclosing one (`fieldText_ofField_iff`).  A reference to the enclosing model is boxed, and no other
type is written like a model, as long as the models live in a module of their own.
-/

namespace ActivityForge.DataType

open Document (Additional Schema SchemaBody)

/-- A type under `n` options. -/
def optionLayers : Nat → String → String
  | 0, t => t
  | n + 1, t => "Option<" ++ optionLayers n t ++ ">"

/-- The modules that types from elsewhere are written with: the models live in none of them. -/
def foreignScopes : List String := ["", "chrono", "serde_json", "uuid"]

/-! ## Texts of types -/

section Text

variable {scope name : String}

theorem text_ref (scope name : String) : (ref scope name).text = qualify scope name := rfl

theorem qualify_eq (hscope : scope ∉ foreignScopes) (name : String) :
    qualify scope name = scope ++ "::" ++ name := by
  have hne : scope ≠ "" := fun h => hscope (h ▸ List.mem_cons_self)
  rw [qualify, if_neg (by simpa using hne)]

/-- A name is what stands behind the last colon. -/
theorem append_colons_inj {s s' n n' : String} (hn : ':' ∉ n.toList) (hn' : ':' ∉ n'.toList)
    (h : s ++ "::" ++ n = s' ++ "::" ++ n') : s = s' ∧ n = n' := by
  have hbehind {s n : String} (hn : ':' ∉ n.toList) :
      (s ++ "::" ++ n).toList.reverse.takeWhile (· ≠ ':') = n.toList.reverse := by
    have hall : ∀ c ∈ n.toList.reverse, decide (c ≠ ':') = true := fun c hc => by
      simpa using fun hcolon : c = ':' => hn (hcolon ▸ List.mem_reverse.1 hc)
    rw [String.toList_append, String.toList_append, List.reverse_append,
      List.takeWhile_append_of_pos hall]
    simp
  have hname : n = n' := by
    have hlist := hbehind (s := s) hn
    rw [h, hbehind hn'] at hlist
    exact String.toList_inj.1 (List.reverse_injective hlist).symm
  subst hname
  exact ⟨(String.append_left_inj _).1 ((String.append_left_inj _).1 h), rfl⟩

/-- Text that ends like a type with arguments. -/
theorem append_close_ne_qualify (hscope : scope ∉ foreignScopes) (hname : '>' ∉ name.toList)
    (s : String) : s ++ ">" ≠ qualify scope name := by
  intro h
  rw [qualify_eq hscope, String.append_assoc] at h
  have hlast : ("::" ++ name).toList.getLast? = some '>' := by
    have hends := congrArg (·.toList.getLast?) h
    simpa using hends.symm
  have hmem : '>' ∈ ("::" ++ name).toList := List.mem_of_getLast? hlast
  simp [hname] at hmem

/-- Nothing but a reference is written like the name of a model. -/
theorem text_ne_qualify (hscope : scope ∉ foreignScopes) (hcolon : ':' ∉ name.toList)
    (hclose : '>' ∉ name.toList) {t : DataType} (href : ∀ ns model, t ≠ .ref ns model) :
    t.text ≠ qualify scope name := by
  have hplain {s : String} (hs : ':' ∉ s.toList) : s ≠ qualify scope name := by
    rintro rfl
    rw [qualify_eq hscope] at hs
    simp at hs
  have hforeign {s n : String} (hs : s ∈ foreignScopes) (hn : ':' ∉ n.toList) :
      s ++ "::" ++ n ≠ qualify scope name := by
    rw [qualify_eq hscope]
    exact fun h => hscope ((append_colons_inj hn hcolon h).1 ▸ hs)
  have hargument (s : String) : s ++ ">" ≠ qualify scope name :=
    append_close_ne_qualify hscope hclose s
  cases t with
  | string | int32 | int64 | float | double | boolean => exact hplain (by decide)
  | date => exact hforeign (s := "chrono") (n := "NaiveDate") (by decide) (by decide)
  | uuid => exact hforeign (s := "uuid") (n := "Uuid") (by decide) (by decide)
  | any => exact hforeign (s := "serde_json") (n := "Value") (by decide) (by decide)
  | dateTime => exact hargument "chrono::DateTime<chrono::FixedOffset"
  | bytes => exact hargument "Vec<u8"
  | array item => exact hargument _
  | map value => exact hargument _
  | nullable inner => exact hargument _
  | ref ns model => exact absurd rfl (href ns model)

/-- Texts with different first characters. -/
theorem append_ne_append {u v : String} {c d : Char} (hu : u.toList.head? = some c)
    (hv : v.toList.head? = some d) (hne : c ≠ d) (s t : String) : u ++ s ≠ v ++ t := by
  intro h
  have hhead := congrArg (·.toList.head?) h
  simp only [String.toList_append, List.head?_append, hu, hv, Option.some_or] at hhead
  exact hne (Option.some.inj hhead)

/-- Only optional types are written as options. -/
theorem text_ne_option {t : DataType} (hnull : t.isNullable = false)
    (href : ∀ ns model, t ≠ .ref ns model) (s : String) : t.text ≠ "Option<" ++ s := by
  have hplain {u : String} {c : Char} (hu : u.toList.head? = some c) (hc : c ≠ 'O') :
      u ≠ "Option<" ++ s := by
    simpa using append_ne_append (v := "Option<") hu rfl hc "" s
  have hargument {u : String} {c : Char} (hu : u.toList.head? = some c) (hc : c ≠ 'O')
      (v : String) : u ++ v ++ ">" ≠ "Option<" ++ s := by
    rw [String.append_assoc]
    exact append_ne_append hu rfl hc _ _
  cases t with
  | nullable inner => cases hnull
  | ref ns model => exact absurd rfl (href ns model)
  | array item => exact hargument (u := "Vec<") rfl (by decide) _
  | map value => exact hargument (u := "std::collections::HashMap<String, ") rfl (by decide) _
  | _ => exact hplain rfl (by decide)

theorem text_eq_optionLayers_iff (hscope : scope ∉ foreignScopes) (hcolon : ':' ∉ name.toList)
    (hclose : '>' ∉ name.toList) {t : DataType} (hnull : t.isNullable = false)
    (href : ∀ ns model, t = .ref ns model → ns = scope ∧ '>' ∉ model.toList) {n : Nat} :
    t.text = optionLayers n (qualify scope name) ↔ n = 0 ∧ t = .ref scope name := by
  by_cases h : ∃ ns model, t = .ref ns model
  · obtain ⟨ns, model, rfl⟩ := h
    obtain ⟨rfl, hmodel⟩ := href ns model rfl
    cases n with
    | zero =>
      rw [text_ref, optionLayers, qualify_eq hscope, qualify_eq hscope, String.append_right_inj]
      simp
    | succ n =>
      refine iff_of_false (fun h => ?_) (by simp)
      rw [text_ref, optionLayers] at h
      exact append_close_ne_qualify hscope hmodel _ h.symm
  · have hother : ∀ ns model, t ≠ .ref ns model := fun ns model ht => h ⟨ns, model, ht⟩
    cases n with
    | zero =>
      exact iff_of_false (text_ne_qualify hscope hcolon hclose hother) fun h => hother _ _ h.2
    | succ n =>
      refine iff_of_false (fun h => ?_) fun h => hother _ _ h.2
      rw [optionLayers, String.append_assoc] at h
      exact text_ne_option hnull hother _ h

end Text

/-! ## Types of properties -/

/-- The name of the model that a reference leads to. -/
def referencedName (target : String) : String :=
  (Name.ofText (String.ofList (lastSegment target.toList))).pascal

theorem isNullable_of_isLeaf {t : DataType} (h : t.isLeaf = true) : t.isNullable = false := by
  cases t with
  | nullable inner => cases h
  | _ => rfl

/-- Apart from `null` an inline schema has a type that is neither optional nor a reference. -/
theorem ofBody_shape (scope : String) (body : SchemaBody Schema) :
    (ofBody scope body).isNullable = false ∧ ∀ ns model, ofBody scope body ≠ .ref ns model := by
  obtain ⟨type?, format, description, allowsNull, properties, required, additional, items⟩ := body
  simp only [ofBody]
  split
  · exact ⟨rfl, fun _ _ h => by cases h⟩
  · split
    · exact ⟨rfl, fun _ _ h => by cases h⟩
    · refine ⟨isNullable_of_isLeaf (isLeaf_ofPlain _), fun ns model h => ?_⟩
      exact not_mentions_ofPlain _ (h ▸ Mentions.ref ns model)

/-- The type of a schema apart from `null`. -/
def ofSchemaBase (scope : String) : Schema → DataType
  | .ref target => ofReference scope target
  | .inline body => ofBody scope body

theorem isNullable_ofSchemaBase (scope : String) (schema : Schema) :
    (ofSchemaBase scope schema).isNullable = false := by
  cases schema with
  | ref target => rfl
  | inline body => exact (ofBody_shape scope body).1

theorem ofSchemaBase_eq_ref_iff {scope ns model : String} {schema : Schema} :
    ofSchemaBase scope schema = .ref ns model ↔
      ns = scope ∧ ∃ target, schema = .ref target ∧ referencedName target = model := by
  cases schema with
  | ref target => simp [ofSchemaBase, ofReference, referencedName, eq_comm]
  | inline body => simp [ofSchemaBase, (ofBody_shape scope body).2]

/-- A property is optional once or not at all. -/
theorem ofField_eq (scope : String) (schema : Schema) (required : Bool) :
    ofField scope (some schema) required = ofSchemaBase scope schema ∨
      ofField scope (some schema) required = .nullable (ofSchemaBase scope schema) := by
  have hbase : ofSchema scope schema = ofSchemaBase scope schema ∨
      ofSchema scope schema = .nullable (ofSchemaBase scope schema) := by
    cases schema with
    | ref target => exact Or.inl (by rw [ofSchema, ofSchemaBase])
    | inline body =>
      rw [ofSchema]
      split
      · exact Or.inr rfl
      · exact Or.inl rfl
  have hnull := isNullable_ofSchemaBase scope schema
  unfold ofField
  split
  · exact hbase
  · right
    rw [ofOptional]
    rcases hbase with h | h
    · rw [h, optional, if_neg (by simp [hnull])]
    · rw [h]
      rfl

/-! ## Texts of fields -/

theorem fieldText_eq {t u : DataType} (hnull : u.isNullable = false) (ht : t = u ∨ t = .nullable u)
    (enclosing : String) :
    t.fieldText enclosing =
      if u.refersTo enclosing then "Option<Box<" ++ u.text ++ ">>" else t.text := by
  rcases ht with rfl | rfl
  · cases t <;> first | rfl | cases hnull
  · by_cases h : u.refersTo enclosing = true
    · simp only [fieldText, h, if_true]
    · have hoptional : (nullable u).refersTo enclosing = false := rfl
      simp only [fieldText, h, hoptional, if_false, Bool.false_eq_true]

theorem refersTo_iff {enclosing : String} {t : DataType} :
    t.refersTo enclosing = true ↔ ∃ ns, t = .ref ns enclosing := by
  cases t <;> simp [refersTo]

/-- A boxed reference is no reference under options. -/
theorem boxed_ne_optionLayers {scope name : String} (hscope : scope ∉ foreignScopes)
    (hclose : '>' ∉ name.toList) (s : String) (n : Nat) :
    "Option<Box<" ++ s ++ ">>" ≠ optionLayers n (qualify scope name) := by
  have hbox : "Option<Box<" ++ s ++ ">>" = "Option<" ++ ("Box<" ++ s ++ ">") ++ ">" := by
    simp only [← String.toList_inj, String.toList_append, List.append_assoc]
    rfl
  rw [hbox]
  intro h
  cases n with
  | zero => exact append_close_ne_qualify hscope hclose _ h
  | succ n =>
    rw [optionLayers, String.append_left_inj, String.append_right_inj] at h
    cases n with
    | zero => exact append_close_ne_qualify hscope hclose _ h
    | succ n =>
      rw [optionLayers, String.append_assoc, String.append_assoc] at h
      exact append_ne_append rfl rfl (by decide) _ _ h

/-- A field of the model `enclosing` is written as another model, under any number of options, if
and only if its property is a reference to that model. -/
theorem fieldText_ofField_iff {scope name enclosing : String} (hscope : scope ∉ foreignScopes)
    (hcolon : ':' ∉ name.toList) (hclose : '>' ∉ name.toList) (schema : Schema)
    (required : Bool) :
    (∃ n, (ofField scope (some schema) required).fieldText enclosing =
        optionLayers n (qualify scope name)) ↔
      name ≠ enclosing ∧ ∃ target, schema = .ref target ∧ referencedName target = name := by
  have hnull := isNullable_ofSchemaBase scope schema
  have href : ∀ ns model, ofSchemaBase scope schema = .ref ns model →
      ns = scope ∧ '>' ∉ model.toList := by
    intro ns model h
    obtain ⟨rfl, target, -, rfl⟩ := ofSchemaBase_eq_ref_iff.1 h
    exact ⟨rfl, Name.not_mem_pascal (by decide) _⟩
  have hbase : (∃ target, schema = .ref target ∧ referencedName target = name) ↔
      ofSchemaBase scope schema = .ref scope name := by simp [ofSchemaBase_eq_ref_iff]
  have htext {n : Nat} := text_eq_optionLayers_iff hscope hcolon hclose hnull href (n := n)
  have hshape := ofField_eq scope schema required
  rw [fieldText_eq hnull hshape, hbase]
  by_cases hself : (ofSchemaBase scope schema).refersTo enclosing = true
  · -- A reference to the enclosing model is boxed, and it leads to no other model.
    obtain ⟨ns, heq⟩ := refersTo_iff.1 hself
    rw [if_pos hself]
    refine iff_of_false (fun ⟨n, h⟩ => boxed_ne_optionLayers hscope hclose _ n h) fun ⟨hne, h⟩ => ?_
    exact hne (DataType.ref.inj (h.symm.trans heq)).2
  · rw [if_neg hself]
    have hother : ofSchemaBase scope schema = .ref scope name → name ≠ enclosing := by
      rintro heq rfl
      exact hself (refersTo_iff.2 ⟨scope, heq⟩)
    rw [and_iff_right_of_imp hother]
    rcases hshape with h | h <;> rw [h]
    · exact ⟨fun ⟨n, hn⟩ => (htext.1 hn).2, fun heq => ⟨0, htext.2 ⟨rfl, heq⟩⟩⟩
    · refine ⟨fun ⟨n, hn⟩ => ?_, fun heq => ⟨1, ?_⟩⟩
      · cases n with
        | zero => exact absurd hn (append_close_ne_qualify hscope hclose _)
        | succ n =>
          refine (htext (n := n).1 ?_).2
          exact (String.append_right_inj _).1 ((String.append_left_inj _).1 hn)
      · rw [heq]
        rfl

end ActivityForge.DataType
