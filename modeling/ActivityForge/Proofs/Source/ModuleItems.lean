import ActivityForge.Proofs.Source.Readback

/-!
# Items of module files

What a module file declares and re-exports, as it is read off its lines: `items?` finds the modules
and the names, each with the module that it comes from.  In the module file of the models these are
the models with fields (`items?_modelsModule`), in the root module file the modules that the root
module is written from (`items?_rootModule`).
-/

namespace ActivityForge.Source

open Document (cutAt? cutAt?_append dropStart? dropStart?_append dropStart?_eq_some)

/-! ## Items -/

/-- A keyword without what stands before it as an identifier. -/
def unescape (text : String) : String :=
  match dropStart? "r#".toList text.toList with
  | some rest => String.ofList rest
  | none => text

/-- What a line of a module file declares or re-exports. -/
inductive Item
  | submodule (isPublic : Bool) (name : String)
  | reexport (origin name : String)
  /-- The names stand in lines of their own. -/
  | reexports (origin : String) (names : Lines)
deriving DecidableEq, Repr

/-- The re-export of one name, by the path to it. -/
def Item.ofPath? (path : String) : Option Item := do
  let (origin, rest) ← cutAt? ':' path.toList
  let name ← dropStart? ":".toList rest
  pure (.reexport (String.ofList origin) (String.ofList name))

def Item.read? (line : String) (rest : Lines) : Option Item :=
  (between? "mod " ";" line).map (.submodule false)
  <|> (between? "pub mod " ";" line).map (.submodule true)
  <|> (between? "pub use " "::\x7b" line).map (.reexports · (inside rest))
  <|> (between? "pub use " ";" line).bind Item.ofPath?

/-- A line of a module file that begins no item: it is in a group of names, or it is a comment. -/
def isItemRest (line : String) : Bool :=
  isInner line || line = "\x7d;" || startsWith "//" line

/-- The items of a module file. -/
def items? : Lines → Option (List Item) := readAll? isItemRest Item.read?

theorem unescape_of_not_mem {text : String} (h : '#' ∉ text.toList) : unescape text = text := by
  unfold unescape
  cases hrest : dropStart? "r#".toList text.toList with
  | none => rfl
  | some rest =>
    rw [dropStart?_eq_some hrest] at h
    exact absurd (List.mem_append_left rest (by decide)) h

theorem unescape_escapeKeyword {text : String} (h : '#' ∉ text.toList) :
    unescape (escapeKeyword text) = text := by
  unfold escapeKeyword
  split
  · rw [unescape, String.toList_append, dropStart?_append]
    exact String.ofList_toList
  · exact unescape_of_not_mem h

theorem isItemRest_eq_false {line : String} {c : Char} (hline : line.toList.head? = some c)
    (hc : c ∉ [' ', '/', '\x7d']) : isItemRest line = false := by
  simp only [List.mem_cons, List.not_mem_nil, or_false, not_or] at hc
  have houter : Outer line := by
    refine ⟨?_, by simp [hline, hc.1]⟩
    rintro rfl
    cases hline
  have hcomment : startsWith "//" line = false :=
    startsWith_eq_false (by decide) (by simp [hline, hc.2.1])
  have hclose : line ≠ "\x7d;" := by
    rintro rfl
    exact hc.2.2 (Option.some.inj hline).symm
  simp [isItemRest, houter.isInner_eq_false, hcomment, hclose]

/-! ### One item -/

theorem read?_submodule (name : String) (rest : Lines) :
    Item.read? ("mod " ++ name ++ ";") rest = some (.submodule false name) := by
  rw [Item.read?, between?_append]
  rfl

theorem read?_publicSubmodule (name : String) (rest : Lines) :
    Item.read? ("pub mod " ++ name ++ ";") rest = some (.submodule true name) := by
  have hprivate : between? "mod " ";" ("pub mod " ++ name ++ ";") = none :=
    between?_eq_none (startsWith_eq_false (by decide) (by simp))
  rw [Item.read?, hprivate, between?_append]
  rfl

/-- A line that re-exports something declares no module. -/
theorem between?_mod_use (path : String) :
    between? "mod " ";" ("pub use " ++ path) = none ∧
      between? "pub mod " ";" ("pub use " ++ path) = none := by
  have huse : "pub use " ++ path = "pub " ++ ("use " ++ path) := by
    rw [← String.append_assoc]
    rfl
  refine ⟨between?_eq_none (startsWith_eq_false (by decide) (by simp)), between?_eq_none ?_⟩
  rw [huse, show "pub mod " = "pub " ++ "mod " by decide, startsWith_append_append]
  exact startsWith_eq_false (by decide) (by simp)

theorem read?_reexports (origin : String) (rest : Lines) :
    Item.read? ("pub use " ++ origin ++ "::\x7b") rest =
      some (.reexports origin (inside rest)) := by
  obtain ⟨hprivate, hpublic⟩ := between?_mod_use (origin ++ "::\x7b")
  rw [← String.append_assoc] at hprivate hpublic
  rw [Item.read?, hprivate, hpublic, between?_append]
  rfl

theorem read?_reexport {origin : String} (h : ':' ∉ origin.toList) (name : String) (rest : Lines) :
    Item.read? ("pub use " ++ origin ++ "::" ++ name ++ ";") rest =
      some (.reexport origin name) := by
  have hline : "pub use " ++ origin ++ "::" ++ name ++ ";" =
      "pub use " ++ (origin ++ "::" ++ name) ++ ";" := by
    simp only [String.append_assoc]
  have hpath : (origin ++ "::" ++ name).toList =
      origin.toList ++ ':' :: (":".toList ++ name.toList) := by
    simp
  have hone : Item.ofPath? (origin ++ "::" ++ name) = some (.reexport origin name) := by
    rw [Item.ofPath?, hpath, cutAt?_append h]
    simp only [Option.bind_eq_bind, Option.bind_some, dropStart?_append, String.ofList_toList]
    rfl
  obtain ⟨hprivate, hpublic⟩ := between?_mod_use (origin ++ "::" ++ name ++ ";")
  rw [← String.append_assoc] at hprivate hpublic
  have hgroup : between? "pub use " "::\x7b"
      ("pub use " ++ (origin ++ "::" ++ name) ++ ";") = none := by
    refine between?_eq_none_of_getLast? (by decide) ?_
    rw [String.toList_append, List.getLast?_append]
    simp
  rw [hline, Item.read?, hprivate, hpublic, hgroup, between?_append, Option.bind_some, hone]
  rfl

/-! ### Files of items -/

theorem items?_append {part : Lines} (h : ∀ line ∈ part, isItemRest line = true) (rest : Lines) :
    items? (part ++ rest) = items? rest :=
  readAll?_append h rest

theorem items?_map {α : Type} {write : α → String} {view : α → Item}
    (hline : ∀ a, isItemRest (write a) = false)
    (hread : ∀ a rest, Item.read? (write a) rest = some (view a)) (as : List α) (rest : Lines) :
    items? (as.map write ++ rest) = (items? rest).map (as.map view ++ ·) :=
  readAll?_map hline hread as rest

theorem items?_cons {line : String} {rest : Lines} {item : Item} (hline : isItemRest line = false)
    (hread : Item.read? line rest = some item) :
    items? (line :: rest) = (items? rest).map (item :: ·) :=
  readAll?_cons hline hread

theorem not_mem_escapeKeyword_modelModule {c : Char} (hc : Name.isNameChar c = false)
    (hhash : c ≠ '#') (m : Model) : c ∉ (escapeKeyword (modelModule m)).toList :=
  not_mem_identifier hc hhash m.name.pascal

theorem not_mem_moduleOfContract {c : Char} (hc : Name.isNameChar c = false) (s : Settings) :
    c ∉ (moduleOfContract s).toList :=
  Name.not_mem_memberName hc s.contractName

/-- The beginning of a module file has no items. -/
theorem isItemRest_header (header : String) :
    ∀ line ∈ ["//! " ++ header, ""], isItemRest line = true := by
  have hcomment : startsWith "//" ("//! " ++ header) = true := by
    rw [startsWith]
    simp [dropStart?]
  simp only [List.forall_mem_cons]
  refine ⟨?_, by decide, by simp⟩
  rw [isItemRest, hcomment, Bool.or_true]

theorem items?_modelsModule (b : Blueprint) :
    items? (ModelsModule.ofBlueprint b).lines = some
      ((emittedModels b).map (fun m => .submodule false (escapeKeyword (modelModule m)))
        ++ (emittedModels b).map fun m =>
          .reexport (escapeKeyword (modelModule m)) m.name.pascal) := by
  have hlines : (ModelsModule.ofBlueprint b).lines =
      ["//! " ++ headerLine b.info, ""] ++
        ((emittedModels b).map (fun m => "mod " ++ escapeKeyword (modelModule m) ++ ";") ++
          ([""] ++ ((emittedModels b).map (fun m =>
            "pub use " ++ escapeKeyword (modelModule m) ++ "::" ++ m.name.pascal ++ ";")
              ++ []))) := by
    simp only [ModelsModule.lines, ModelsModule.ofBlueprint, List.map_map, Function.comp_def,
      List.append_assoc, List.append_nil]
  have hempty : ∀ line ∈ [""], isItemRest line = true := by decide
  have hdeclares (m : Model) :
      isItemRest ("mod " ++ escapeKeyword (modelModule m) ++ ";") = false :=
    isItemRest_eq_false (c := 'm') (by simp) (by decide)
  have hexports (m : Model) : isItemRest
      ("pub use " ++ escapeKeyword (modelModule m) ++ "::" ++ m.name.pascal ++ ";") = false :=
    isItemRest_eq_false (c := 'p') (by simp) (by decide)
  have hcolon (m : Model) : ':' ∉ (escapeKeyword (modelModule m)).toList :=
    not_mem_escapeKeyword_modelModule (by decide) (by decide) m
  rw [hlines, items?_append (isItemRest_header _),
    items?_map hdeclares fun m => read?_submodule _, items?_append hempty,
    items?_map hexports fun m => read?_reexport (hcolon m) _]
  simp [items?, readAll?]

/-- The names that are re-exported from the contract. -/
def contractExports (contractName : String) : String :=
  "ActivityFailure, ActivityOptions, RetryPolicy, " ++ contractName ++ ", activity_options,"

theorem indent_contractExports (contractName : String) : indent [contractExports contractName] =
    ["    ActivityFailure, ActivityOptions, RetryPolicy, " ++ contractName
      ++ ", activity_options,"] := by
  have hne : contractExports contractName ≠ "" := by
    unfold contractExports
    simp
  have hline : "    " ++ contractExports contractName =
      "    ActivityFailure, ActivityOptions, RetryPolicy, " ++ contractName
        ++ ", activity_options," := by
    unfold contractExports
    simp only [← String.append_assoc, String.reduceAppend]
  exact (indent_singleton hne).trans (congrArg (fun line => [line]) hline)

/-- The re-export of the implementation, if there is one. -/
def implementationExports (m : RootModule) : List Item :=
  if m.hasImplementation then
    [.reexport (m.contractModule ++ "_impl") (m.contractName ++ "Impl")] else []

theorem items?_implementationExports {m : RootModule} (h : ':' ∉ m.contractModule.toList) :
    items? (if m.hasImplementation then
      ["pub use " ++ m.contractModule ++ "_impl::" ++ m.contractName ++ "Impl;"] else []) =
        some (implementationExports m) := by
  unfold implementationExports
  split
  · have hline : "pub use " ++ m.contractModule ++ "_impl::" ++ m.contractName ++ "Impl;" =
        "pub use " ++ (m.contractModule ++ "_impl") ++ "::" ++ (m.contractName ++ "Impl")
          ++ ";" := by
      simp only [String.append_assoc]
      rfl
    have hcolon : ':' ∉ (m.contractModule ++ "_impl").toList := by simp [h]
    rw [hline, items?_cons (isItemRest_eq_false (c := 'p') (by simp) (by decide))
      (read?_reexport hcolon _ [])]
    rfl
  · rfl

theorem items?_rootModule {m : RootModule} (h : ':' ∉ m.contractModule.toList) :
    items? m.lines = some (m.declared.map (.submodule true) ++
      .reexports (escapeKeyword m.contractModule) [contractExports m.contractName] ::
        implementationExports m) := by
  have hlines : m.lines = ["//! " ++ m.header, ""] ++
      (m.declared.map (fun e => "pub mod " ++ e ++ ";") ++
        ([""] ++ ("pub use " ++ escapeKeyword m.contractModule ++ "::\x7b") ::
          (indent [contractExports m.contractName] ++ "\x7d;" ::
            if m.hasImplementation then
              ["pub use " ++ m.contractModule ++ "_impl::" ++ m.contractName ++ "Impl;"]
            else []))) := by
    rw [indent_contractExports]
    simp only [RootModule.lines, List.append_assoc, List.cons_append, List.nil_append]
  have hempty : ∀ line ∈ [""], isItemRest line = true := by decide
  have hdeclares (e : String) : isItemRest ("pub mod " ++ e ++ ";") = false :=
    isItemRest_eq_false (c := 'p') (by simp) (by decide)
  have hgroup : isItemRest ("pub use " ++ escapeKeyword m.contractModule ++ "::\x7b") = false :=
    isItemRest_eq_false (c := 'p') (by simp) (by decide)
  have hclose : isInner "\x7d;" = false := by decide
  have hnames : ∀ line ∈ indent [contractExports m.contractName] ++ ["\x7d;"],
      isItemRest line = true := by
    rw [List.forall_mem_append]
    refine ⟨fun line hline => ?_, by decide⟩
    simp [isItemRest, isInner_of_mem_indent hline]
  rw [hlines, items?_append (isItemRest_header _), items?_map hdeclares read?_publicSubmodule,
    items?_append hempty, items?_cons hgroup (read?_reexports _ _),
    inside_indent_append _ hclose, List.append_cons, items?_append hnames,
    items?_implementationExports h]
  rfl

end ActivityForge.Source
