import ActivityForge.Path
import ActivityForge.Proofs.Text.Line

/-!
# Paths inside a directory

A path is cut into its pieces at the slashes, and put together of them again.  A path that is joined
to a directory has the pieces of both (`pieces_join`).  If it descends, that is, if each of its
pieces is the name of something, then it is followed by following the directory first and going
down along the pieces from there (`steps_join`).
-/

namespace ActivityForge

namespace Text

theorem intercalate_splitAt (sep : Char) (cs : List Char) :
    [sep].intercalate (splitAt sep cs) = cs := by
  induction cs with
  | nil => rfl
  | cons c cs ih =>
    obtain ⟨piece, pieces, h⟩ := List.exists_cons_of_ne_nil (splitAt_ne_nil sep cs)
    rw [h] at ih
    by_cases hc : c = sep
    · rw [splitAt, if_pos hc, h, List.intercalate_cons_cons, ih, hc]
      rfl
    · rw [splitAt_cons_of_ne hc h]
      cases pieces with
      | nil => simpa using ih
      | cons next pieces =>
        rw [List.intercalate_cons_cons] at ih ⊢
        rw [List.cons_append, List.cons_append, ih]

theorem splitAt_injective (sep : Char) : Function.Injective (splitAt sep) := fun cs ds h => by
  rw [← intercalate_splitAt sep cs, h, intercalate_splitAt]

end Text

namespace Path

/-! ## Pieces -/

/-- What stands between the slashes of a path. -/
def pieces (path : String) : List String := (Text.splitAt '/' path.toList).map String.ofList

theorem pieces_ne_nil (path : String) : pieces path ≠ [] := by
  simpa [pieces] using Text.splitAt_ne_nil '/' path.toList

theorem pieces_injective : Function.Injective pieces := fun p q h => by
  have hofList : Function.Injective String.ofList := fun _ _ => String.ofList_injective
  exact String.toList_inj.1 (Text.splitAt_injective '/' (List.map_injective_iff.2 hofList h))

theorem pieces_of_not_mem {path : String} (h : '/' ∉ path.toList) : pieces path = [path] := by
  rw [pieces, Text.splitAt_of_not_mem h, List.map_singleton, String.ofList_toList]

theorem pieces_append_slash (front path : String) :
    pieces (front ++ "/" ++ path) = pieces front ++ pieces path := by
  have hchars : (front ++ "/" ++ path).toList = front.toList ++ '/' :: path.toList := by simp
  rw [pieces, hchars, Text.splitAt_append, List.map_append, pieces, pieces]

/-- A path that goes down only: every piece of it is a name. -/
def Descends (path : String) : Prop :=
  ∀ piece ∈ pieces path, piece ≠ "" ∧ piece ≠ "." ∧ piece ≠ ".."

/-- The pieces that are no names have two characters at most. -/
theorem descends_of_length {path : String} (hslash : '/' ∉ path.toList)
    (hlength : 2 < path.length) : Descends path := by
  rw [Descends, pieces_of_not_mem hslash, List.forall_mem_singleton]
  refine ⟨?_, ?_, ?_⟩ <;>
  · rintro rfl
    exact absurd hlength (by decide)

theorem Descends.append {front path : String} (hfront : Descends front) (h : Descends path) :
    Descends (front ++ "/" ++ path) := by
  rw [Descends, pieces_append_slash, List.forall_mem_append]
  exact ⟨hfront, h⟩

/-! ## Joined paths -/

/-- The pieces of a directory in front of those of a path inside it. -/
def frontPieces (directory : String) : List String :=
  if directory.isEmpty then []
  else if directory.endsWith "/" then (pieces directory).dropLast
  else pieces directory

theorem exists_front_of_endsWith {directory : String} (h : directory.endsWith "/" = true) :
    ∃ front, directory = front ++ "/" := by
  rw [String.endsWith_eq_endsWith_toSlice, String.Slice.endsWith_string_iff] at h
  obtain ⟨front, hfront⟩ : "/".toList <:+ directory.toList := by simpa using h
  refine ⟨String.ofList front, ?_⟩
  rw [← String.toList_inj, String.toList_append, String.toList_ofList, hfront]

theorem pieces_join (directory path : String) :
    pieces (join directory path) = frontPieces directory ++ pieces path := by
  unfold join frontPieces
  by_cases hempty : directory.isEmpty = true
  · simp [String.isEmpty_iff.1 hempty]
  · by_cases hslash : directory.endsWith "/" = true
    · obtain ⟨front, rfl⟩ := exists_front_of_endsWith hslash
      -- A directory that ends in a slash has an empty last piece.
      have hpieces : pieces (front ++ "/") = pieces front ++ [""] := by
        rw [← String.append_empty (s := front ++ "/"), pieces_append_slash]
        rfl
      simp only [hempty, hslash, hpieces, Bool.or_true, ↓reduceIte, Bool.false_eq_true,
        List.dropLast_concat, pieces_append_slash]
    · simp only [hempty, hslash, Bool.or_self, Bool.false_eq_true, ↓reduceIte,
        pieces_append_slash]

theorem isAbsolute_iff {path : String} : isAbsolute path = true ↔ path.toList.head? = some '/' := by
  rw [isAbsolute, String.startsWith_string_iff]
  cases path.toList with
  | nil => simp
  | cons c cs => simp [eq_comm]

theorem Descends.isAbsolute_eq_false {path : String} (h : Descends path) :
    isAbsolute path = false := by
  rw [← Bool.not_eq_true, isAbsolute_iff]
  intro hfirst
  obtain ⟨cs, hcs⟩ := List.head?_eq_some_iff.1 hfirst
  have hempty : "" ∈ pieces path := by
    rw [pieces, hcs, Text.splitAt, if_pos rfl]
    exact List.mem_cons_self
  exact (h "" hempty).1 rfl

theorem isAbsolute_join (directory : String) {path : String} (h : Descends path) :
    isAbsolute (join directory path) = isAbsolute directory := by
  by_cases hempty : directory = ""
  · subst hempty
    have hjoin : join "" path = path := by simp [join]
    rw [hjoin, h.isAbsolute_eq_false]
    decide
  · obtain ⟨c, cs, hcs⟩ := List.exists_cons_of_ne_nil (mt String.toList_eq_nil_iff.1 hempty)
    rw [Bool.eq_iff_iff, isAbsolute_iff, isAbsolute_iff, join]
    split <;> simp [hcs]

/-- The names of directories on the way into a directory. -/
def wayInto (directory : String) : List String :=
  (frontPieces directory).filter fun p => p ≠ "" && p ≠ "."

/-- A path that descends inside a directory is followed into the directory first. -/
theorem steps_join (directory : String) {path : String} (h : Descends path) :
    ∃ way name, pieces path = way ++ [name] ∧
      steps (join directory path) =
        ⟨isAbsolute directory, wayInto directory ++ way, some name, false⟩ := by
  obtain ⟨way, name, hpath⟩ : ∃ way name, pieces path = way ++ [name] :=
    ⟨_, _, (List.dropLast_append_getLast (pieces_ne_nil path)).symm⟩
  refine ⟨way, name, hpath, ?_⟩
  have hfrom := isAbsolute_join directory h
  rw [Descends, hpath, List.forall_mem_append, List.forall_mem_singleton] at h
  obtain ⟨hway, hname⟩ := h
  have hall : pieces (join directory path) = frontPieces directory ++ way ++ [name] := by
    rw [pieces_join, hpath, List.append_assoc]
  -- The last piece is a name, so nothing is trimmed.
  have htrimmed : ((pieces (join directory path)).reverse.dropWhile fun p => p = "").reverse =
      frontPieces directory ++ way ++ [name] := by
    rw [hall, List.reverse_append, List.reverse_singleton, List.singleton_append,
      List.dropWhile_cons_of_neg (by simpa using hname.1), List.reverse_cons, List.reverse_reverse]
  have hnames : (way.filter fun p => p ≠ "" && p ≠ ".") = way :=
    List.filter_eq_self.2 fun p hp => by simpa using ⟨(hway p hp).1, (hway p hp).2.1⟩
  have hsteps : steps (join directory path) =
      let trimmed := ((pieces (join directory path)).reverse.dropWhile fun p => p = "").reverse
      { fromRoot := isAbsolute (join directory path)
        way := trimmed.dropLast.filter fun p => p ≠ "" && p ≠ "."
        last := trimmed.getLast?.filter fun p => p ≠ "."
        endsInSlash := trimmed.length < (pieces (join directory path)).length } := rfl
  rw [hsteps]
  dsimp only
  rw [htrimmed, hall, hfrom, List.dropLast_concat, List.filter_append, hnames,
    List.getLast?_concat, wayInto]
  simp [hname.2.1]

end Path

end ActivityForge
