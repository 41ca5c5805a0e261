import FetchClient.Proofs.Files.LastStep
import Mathlib.Data.List.DropRight

/-!
# What a path lies below

- `Path.Below`: whether a path begins like another one and goes on;
- `Path.below_join`: the path of an entry lies below that of its directory;
- `Path.below_parent`: a path lies below its parent, unless that is empty.
-/

namespace FetchClient.Files.Path

variable {path around name : String}

/-- Whether a path begins like another one and goes on. -/
structure Below (path around : String) : Prop where
  absolute : isAbsolute path = isAbsolute around
  steps : ∃ more, more ≠ [] ∧ (Route.ofText path).steps = (Route.ofText around).steps ++ more
  noFault : pathFault? path = none → pathFault? around = none

theorem pathFault?_eq_none_iff :
    pathFault? path = none ↔
      hasNul path = false ∧ path ≠ "" ∧ path.utf8ByteSize ≤ maxPath := by
  unfold pathFault?
  by_cases hnul : hasNul path = true
  · simp [hnul]
  · by_cases hempty : path = ""
    · simp [hempty]
      decide
    · have hisEmpty : path.isEmpty = false := by simpa using hempty
      by_cases hlong : maxPath < path.utf8ByteSize
      · simp [hnul, hisEmpty, hlong]
      · simp [hnul, hempty, hisEmpty, hlong, Nat.not_lt.mp hlong]

theorem below_of_append {rest : String} (hne : around ≠ "")
    (hsteps : ∃ more, more ≠ [] ∧
      (Route.ofText (around ++ rest)).steps = (Route.ofText around).steps ++ more) :
    Below (around ++ rest) around := by
  refine ⟨?_, hsteps, ?_⟩
  · have hnil : around.toList ≠ [] := by simpa using hne
    rw [isAbsolute, isAbsolute, String.toList_append, List.head?_append_of_ne_nil _ hnil]
  · rw [pathFault?_eq_none_iff, pathFault?_eq_none_iff, hasNul, hasNul, String.toList_append,
      String.utf8ByteSize_append]
    rintro ⟨hnul, -, hlong⟩
    rw [List.contains_append, Bool.or_eq_false_iff] at hnul
    exact ⟨hnul.1, hne, by omega⟩

theorem below_join (hne : path ≠ "") (hname : name ≠ "") (hslash : HasNoSlash name) :
    Below (join path name) path := by
  have hsteps := steps_join path hname hslash
  obtain ⟨rest, hrest⟩ : ∃ rest, join path name = path ++ rest := by
    unfold join
    split
    · exact ⟨name, rfl⟩
    · exact ⟨"/" ++ name, String.append_assoc⟩
  rw [hrest] at hsteps ⊢
  exact below_of_append hne ⟨[name], List.cons_ne_nil _ _, hsteps⟩

theorem ne_empty_of_inner? {piece : String} (h : (inner? piece).isSome) : piece ≠ "" := by
  rintro rfl
  cases h

theorem dropUncounted_prefix (pieces : List (String × Option Component)) :
    dropUncounted pieces <+: pieces :=
  List.rdropWhile_prefix _ _

/-- A path is what its parent is made of and at least one more component. -/
theorem exists_of_parent? (h : parent? path = some around) :
    ∃ kept others, marked path = kept ++ others ∧ (∃ last ∈ others, last.2.isSome) ∧
      around = textOf kept := by
  have haround : around = textOf (dropUncounted (dropUncounted (marked path)).dropLast) := by
    unfold parent? at h
    split at h <;> cases h
    rfl
  have hcounted : dropUncounted (marked path) ≠ [] := by
    intro hnil
    have hnone : ∀ piece ∈ marked path, piece.2 = none := by
      simpa [Option.isNone_iff_eq_none] using List.rdropWhile_eq_nil_iff.mp hnil
    have hcomponents : components path = [] := List.filterMap_eq_nil_iff.mpr hnone
    rw [parent?, hcomponents] at h
    cases h
  have hlast : ((dropUncounted (marked path)).getLast hcounted).2.isSome := by
    have hnot := List.rdropWhile_last_not (fun piece : String × Option Component => piece.2.isNone)
      (marked path) hcounted
    exact Option.isSome_iff_ne_none.mpr fun hnone => hnot (Option.isNone_iff_eq_none.mpr hnone)
  obtain ⟨others, hothers⟩ := dropUncounted_prefix (marked path)
  obtain ⟨between, hbetween⟩ := dropUncounted_prefix (dropUncounted (marked path)).dropLast
  refine ⟨_, between ++ [(dropUncounted (marked path)).getLast hcounted] ++ others, ?_,
    ⟨_, List.mem_append_left _ (List.mem_append_right _ List.mem_cons_self), hlast⟩, haround⟩
  rw [← List.append_assoc, ← List.append_assoc, hbetween, List.dropLast_append_getLast, hothers]

/-- The root alone is written as a slash, which is no piece. -/
theorem below_root (habsolute : isAbsolute path = true) (hsteps : (Route.ofText path).steps ≠ []) :
    Below path "/" := by
  obtain ⟨rest, rfl⟩ : ∃ rest, path = "/" ++ rest := by
    have hhead : path.toList.head? = some '/' := by simpa [isAbsolute] using habsolute
    obtain ⟨rest, hrest⟩ := List.head?_eq_some_iff.mp hhead
    refine ⟨String.ofList rest, ?_⟩
    rw [← String.toList_inj, String.toList_append, String.toList_ofList (l := rest), hrest]
    rfl
  exact below_of_append (by decide) ⟨_, hsteps, rfl⟩

theorem first?_eq_root_iff {piece : String} :
    first? path piece = some .root ↔ isAbsolute path = true := by
  unfold first? inner?
  split_ifs <;> simp_all

/-- Pieces from the beginning of a path, with slashes between them. The root alone is a slash. -/
theorem textOf_marked (path first : String) (pieces : List String) :
    textOf ((first, first? path first) :: pieces.map fun piece => (piece, inner? piece)) =
      if isAbsolute path = true ∧ pieces = [] then "/"
      else "/".intercalate (first :: pieces) := by
  have hnames : (pieces.map fun piece => (piece, inner? piece)).map (·.1) = pieces := by
    rw [List.map_map]
    exact List.map_id pieces
  unfold textOf
  split
  · next hroot =>
    obtain ⟨hfirst, hnone⟩ := List.cons.inj hroot
    rw [if_pos ⟨first?_eq_root_iff.mp (Prod.ext_iff.mp hfirst).2, List.map_eq_nil_iff.mp hnone⟩]
  · next hother =>
    rw [if_neg, List.map_cons, hnames]
    rintro ⟨habsolute, rfl⟩
    exact hother first (by rw [first?_eq_root_iff.mpr habsolute]; rfl)

/-- What is in front of the last component is in front of a step. -/
theorem below_parent (h : parent? path = some around) (hne : around ≠ "") : Below path around := by
  obtain ⟨kept, others, hmarked, ⟨last, hlast, hcounts⟩, rfl⟩ := exists_of_parent? h
  obtain ⟨first, pieces, hpieces⟩ : ∃ first pieces, slashPieces path = first :: pieces :=
    List.exists_cons_of_ne_nil (by simp [slashPieces, Text.pieces_ne_nil])
  rw [marked, hpieces] at hmarked
  cases kept with
  | nil => exact absurd rfl hne
  | cons head kept =>
    obtain ⟨rfl, hrest⟩ := List.cons.inj hmarked
    obtain ⟨before, behind, rfl, rfl, rfl⟩ := List.map_eq_append_iff.mp hrest
    -- The last component is none of the kept ones, and so it is a step.
    have hbehind : behind.filter (· ≠ "") ≠ [] := by
      obtain ⟨piece, hpiece, rfl⟩ := List.mem_map.mp hlast
      have hpieceNe : piece ≠ "" := ne_empty_of_inner? hcounts
      exact List.ne_nil_of_mem (List.mem_filter.mpr ⟨hpiece, by simpa using hpieceNe⟩)
    have hsteps : (Route.ofText path).steps =
        (first :: before).filter (· ≠ "") ++ behind.filter (· ≠ "") := by
      show (slashPieces path).filter _ = _
      rw [hpieces, ← List.cons_append, List.filter_append]
    rw [textOf_marked] at hne ⊢
    split_ifs at hne ⊢ with hroot
    · refine below_root hroot.1 ?_
      rw [hsteps]
      exact List.append_ne_nil_of_right_ne_nil _ hbehind
    · have hnoSlash : ∀ name ∈ first :: before, HasNoSlash name := fun name hname =>
        hasNoSlash_of_mem_slashPieces
          (hpieces ▸ List.cons_append ▸ List.mem_append_left behind hname)
      have hbehindNe : behind ≠ [] := by
        rintro rfl
        exact hbehind rfl
      have hpath : path =
          "/".intercalate (first :: before) ++ ("/" ++ "/".intercalate behind) := by
        rw [← String.append_assoc,
          ← String.intercalate_append_of_ne_nil (List.cons_ne_nil _ _) hbehindNe,
          List.cons_append, ← hpieces, intercalate_slashPieces]
      rw [hpath] at hsteps ⊢
      refine below_of_append hne ⟨_, hbehind, ?_⟩
      rw [hsteps]
      show _ = (slashPieces _).filter _ ++ _
      rw [slashPieces_intercalate (List.cons_ne_nil _ _) hnoSlash]

end FetchClient.Files.Path
