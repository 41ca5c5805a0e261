import FetchClient.Files.Walk
import FetchClient.Proofs.Text.Lines
import Mathlib.Data.List.Induction

/-!
# The steps of a path

- `Path.intercalate_slashPieces`: the pieces of a path, with slashes between them, are the path;
- `Path.getLast?_components`: the last step of a path is its last component, unless it is a dot;
- `Path.steps_join`: the steps of a path to an entry of a directory;
- `Path.getLast?_steps_withFileName`: the last step of a path that was given another file name.
-/

namespace FetchClient.Files.Path

open Files.Tree (isName)

variable {path name : String} {component : Component}

/-- Whether a text has no slash in it. -/
def HasNoSlash (text : String) : Prop :=
  ∀ c ∈ text.toList, c ≠ '/'

theorem hasNoSlash_of_mem_slashPieces (h : name ∈ slashPieces path) : HasNoSlash name := by
  obtain ⟨piece, hpiece, rfl⟩ := List.mem_map.mp h
  intro c hc
  rw [String.toList_ofList] at hc
  have hnot := Text.not_separates_of_mem_pieces hpiece c hc
  simpa using hnot

theorem slashPieces_append (before rest : String) :
    slashPieces (before ++ "/" ++ rest) = slashPieces before ++ slashPieces rest := by
  have htext : (before ++ "/" ++ rest).toList = before.toList ++ '/' :: rest.toList := by
    rw [String.toList_append, String.toList_append, List.append_assoc]
    rfl
  rw [slashPieces, htext, Text.pieces_append_cons _ _ (by decide), List.map_append]
  rfl

theorem slashPieces_of_hasNoSlash (h : HasNoSlash name) : slashPieces name = [name] := by
  rw [slashPieces, Text.pieces_of_not_separates fun c hc => by simpa using h c hc]
  simp

theorem intercalate_slashPieces (path : String) : "/".intercalate (slashPieces path) = path := by
  rw [← String.toList_inj, String.toList_intercalate, slashPieces, List.map_map]
  have hid : String.toList ∘ String.ofList = id := funext fun _ => String.toList_ofList
  rw [hid, List.map_id]
  exact Text.intercalate_pieces '/' path.toList

theorem slashPieces_intercalate {names : List String} (hne : names ≠ [])
    (h : ∀ name ∈ names, HasNoSlash name) : slashPieces ("/".intercalate names) = names := by
  have hpieces : Text.pieces (· == '/') (['/'].intercalate (names.map String.toList)) =
      names.map String.toList := by
    refine Text.pieces_intercalate (by simpa using hne) fun text htext => ?_
    obtain ⟨name, hname, rfl⟩ := List.mem_map.mp htext
    exact fun hslash => h name hname '/' hslash rfl
  have hid : String.ofList ∘ String.toList = id := funext fun _ => String.ofList_toList
  rw [slashPieces, String.toList_intercalate]
  show (Text.pieces (· == '/') (['/'].intercalate (names.map String.toList))).map String.ofList = names
  rw [hpieces, List.map_map, hid, List.map_id]

/-! ## The last component -/

theorem inner?_of_isName (hne : name ≠ "") (hname : isName name = true) :
    inner? name = some (.name name) := by
  rw [isName, Bool.and_eq_true, bne_iff_ne, bne_iff_ne] at hname
  rw [inner?, if_neg (by simp [hne, hname.1]), if_neg hname.2]

/-- Empty pieces at the end of a path do not count. -/
theorem getLast?_filterMap_inner? {pieces : List String}
    (hlast : (pieces.filter (· ≠ "")).getLast? = some name) (hinner : inner? name = some component) :
    (pieces.filterMap inner?).getLast? = some component := by
  induction pieces using List.reverseRecOn with
  | nil => cases hlast
  | append_singleton pieces piece ih =>
    rw [List.filter_append] at hlast
    rw [List.filterMap_append]
    -- From behind: the last piece decides unless it is empty.
    by_cases hempty : piece = ""
    · subst hempty
      have hnone : inner? "" = none := by decide
      simpa [hnone] using ih (by simpa using hlast)
    · obtain rfl : piece = name := by simpa [hempty] using hlast
      simp [hinner]

/-- A path whose first piece is not empty does not begin at the top. -/
theorem isAbsolute_of_slashPieces {first : String} {pieces : List String}
    (hpieces : slashPieces path = first :: pieces) (hfirst : first ≠ "") :
    isAbsolute path = false := by
  unfold slashPieces at hpieces
  unfold isAbsolute
  cases hpath : path.toList with
  | nil => rfl
  | cons c rest =>
    rw [hpath] at hpieces
    by_cases hc : c = '/'
    · subst hc
      rw [Text.pieces_cons_separator rest (by decide)] at hpieces
      exact absurd (List.cons.inj hpieces).1.symm hfirst
    · simpa using hc

/-- The last step of a path is its last component, unless it is a dot. -/
theorem getLast?_components (hlast : (Route.ofText path).steps.getLast? = some name)
    (hinner : inner? name = some component) : (components path).getLast? = some component := by
  have hsteps : ((slashPieces path).filter (· ≠ "")).getLast? = some name := hlast
  unfold components marked
  cases hpieces : slashPieces path with
  | nil =>
    rw [hpieces] at hsteps
    cases hsteps
  | cons first pieces =>
    rw [hpieces, List.filter_cons] at hsteps
    have hrest : ((pieces.map fun piece => (piece, inner? piece)).filterMap (·.2)) =
        pieces.filterMap inner? := by
      rw [List.filterMap_map]
      rfl
    cases hbehind : (pieces.filter (· ≠ "")).getLast? with
    | some last =>
      -- The first piece does not matter, for another one counts behind it.
      have hsame : last = name := by
        split at hsteps <;> simp_all [List.getLast?_cons]
      have hcounted := getLast?_filterMap_inner? (hsame ▸ hbehind) hinner
      rw [List.filterMap_cons, hrest]
      split
      · exact hcounted
      · rw [List.getLast?_cons, hcounted, Option.getD_some]
    | none =>
      have hfilter : pieces.filter (· ≠ "") = [] := List.getLast?_eq_none_iff.mp hbehind
      have hempty : ∀ piece ∈ pieces, piece = "" := by simpa using hfilter
      have hnothing : pieces.filterMap inner? = [] := by
        rw [List.filterMap_eq_nil_iff]
        intro piece hpiece
        rw [hempty piece hpiece]
        decide
      rw [hfilter] at hsteps
      split at hsteps
      · next hfirst =>
        obtain rfl : first = name := by simpa using hsteps
        have hne : first ≠ "" := by simpa using hfirst
        have hdot : first ≠ "." := by
          rintro rfl
          cases hinner
        have hcounts : first? path first = some component := by
          rw [first?, isAbsolute_of_slashPieces hpieces hne, if_neg (by decide), if_neg hdot,
            hinner]
        rw [List.filterMap_cons, hrest, hnothing]
        simp [hcounts]
      · cases hsteps

theorem ne_empty_of_mem_steps (h : name ∈ (Route.ofText path).steps) : name ≠ "" := by
  simpa using (List.mem_filter.mp h).2

theorem fileName?_of_getLast? (hlast : (Route.ofText path).steps.getLast? = some name)
    (hname : isName name = true) : fileName? path = some name := by
  have hne := ne_empty_of_mem_steps (List.mem_of_getLast? hlast)
  rw [fileName?, getLast?_components hlast (inner?_of_isName hne hname)]

/-- Where the last step leaves a directory, a path has no file name. -/
theorem fileName?_eq_none (hlast : (Route.ofText path).steps.getLast? = some "..") :
    fileName? path = none := by
  rw [fileName?, getLast?_components hlast rfl]

/-- A component that is a name is a piece. -/
theorem mem_slashPieces_of_mem_components (h : .name name ∈ components path) :
    name ∈ slashPieces path := by
  have hinner : ∀ {piece : String}, inner? piece = some (.name name) → piece = name := by
    intro piece hpiece
    unfold inner? at hpiece
    split_ifs at hpiece <;> simp_all
  obtain ⟨⟨piece, found⟩, hmem, rfl⟩ := List.mem_filterMap.mp h
  unfold marked at hmem
  cases hpieces : slashPieces path with
  | nil =>
    rw [hpieces] at hmem
    cases hmem
  | cons first pieces =>
    rw [hpieces, List.mem_cons, List.mem_map] at hmem
    rcases hmem with hfirst | ⟨other, hother, heq⟩
    · obtain ⟨rfl, hcounts⟩ := Prod.ext_iff.mp hfirst
      have hname : inner? piece = some (.name name) := by
        change some _ = first? path piece at hcounts
        unfold first? at hcounts
        split_ifs at hcounts
        · cases hcounts
        · cases hcounts
        · exact hcounts.symm
      exact hinner hname ▸ List.mem_cons_self
    · obtain ⟨rfl, hcounts⟩ := Prod.ext_iff.mp heq
      exact hinner hcounts ▸ List.mem_cons_of_mem _ hother

theorem hasNoSlash_of_fileName? (h : fileName? path = some name) : HasNoSlash name := by
  unfold fileName? at h
  split at h
  · next text hlast =>
    cases h
    exact hasNoSlash_of_mem_slashPieces
      (mem_slashPieces_of_mem_components (List.mem_of_getLast? hlast))
  · cases h

/-- A path without steps is nothing but slashes. -/
theorem isAbsolute_of_steps_eq_nil (hne : path ≠ "") (h : (Route.ofText path).steps = []) :
    isAbsolute path = true := by
  obtain ⟨first, pieces, hpieces⟩ : ∃ first pieces, slashPieces path = first :: pieces :=
    List.exists_cons_of_ne_nil (by simp [slashPieces, Text.pieces_ne_nil])
  have hempty : first = "" := by
    have hsteps : (slashPieces path).filter (· ≠ "") = [] := h
    rw [hpieces] at hsteps
    by_contra hfirst
    simp [hfirst] at hsteps
  obtain ⟨c, text, htext⟩ := List.exists_cons_of_ne_nil (show path.toList ≠ [] by simpa using hne)
  by_cases hc : c = '/'
  · rw [isAbsolute, htext, hc]
    rfl
  · -- Otherwise the first piece would begin with the first character.
    have hmem : c ∈ first.toList := by
      obtain ⟨piece, others, hrest⟩ :=
        List.exists_cons_of_ne_nil (Text.pieces_ne_nil (· == '/') text)
      have hcut : Text.pieces (· == '/') path.toList = (c :: piece) :: others := by
        rw [htext]
        simp [Text.pieces, hc, hrest]
      rw [slashPieces, hcut, List.map_cons] at hpieces
      rw [← (List.cons.inj hpieces).1, String.toList_ofList]
      exact List.mem_cons_self
    rw [hempty] at hmem
    cases hmem

/-! ## The steps to an entry -/

theorem steps_append (before rest : String) :
    (Route.ofText (before ++ "/" ++ rest)).steps =
      (Route.ofText before).steps ++ (Route.ofText rest).steps := by
  show (slashPieces _).filter _ = _
  rw [slashPieces_append, List.filter_append]
  rfl

theorem steps_of_name (hne : name ≠ "") (hslash : HasNoSlash name) :
    (Route.ofText name).steps = [name] := by
  show (slashPieces name).filter _ = _
  rw [slashPieces_of_hasNoSlash hslash]
  simpa using hne

theorem steps_join (path : String) (hne : name ≠ "") (hslash : HasNoSlash name) :
    (Route.ofText (join path name)).steps = (Route.ofText path).steps ++ [name] := by
  unfold join
  split
  · next hends =>
    rw [Bool.or_eq_true, String.isEmpty_iff, beq_iff_eq] at hends
    rcases hends with rfl | hends
    · rw [String.empty_append, steps_of_name hne hslash]
      rfl
    · obtain ⟨before, rfl⟩ : ∃ before, path = before ++ "/" := by
        refine ⟨String.ofList path.toList.dropLast, ?_⟩
        rw [← String.toList_inj, String.toList_append, String.toList_ofList]
        exact (List.dropLast_append_getLast? '/' hends).symm
      have hend : (Route.ofText (before ++ "/")).steps = (Route.ofText before).steps := by
        have happend := steps_append before ""
        rw [String.append_empty] at happend
        rw [happend]
        exact List.append_nil _
      rw [steps_append, steps_of_name hne hslash, hend]
  · rw [steps_append, steps_of_name hne hslash]

theorem slash_join (path : String) (hne : name ≠ "") (hslash : HasNoSlash name) :
    (Route.ofText (join path name)).slash = false := by
  have hlast : (join path name).toList.getLast? = name.toList.getLast? := by
    have hname : name.toList ≠ [] := by simpa using hne
    unfold join
    split <;> simp [List.getLast?_append, List.getLast?_cons, List.getLast?_eq_some_getLast hname]
  show ((join path name).toList.getLast? == some '/') = false
  rw [hlast, beq_eq_false_iff_ne]
  exact fun hend => hslash '/' (List.mem_of_getLast? hend) rfl

theorem getLast?_steps_withFileName (hne : name ≠ "") (hslash : HasNoSlash name) :
    (Route.ofText (withFileName path name)).steps.getLast? = some name := by
  unfold withFileName
  split <;> rw [steps_join _ hne hslash, List.getLast?_concat]

theorem slash_withFileName (hne : name ≠ "") (hslash : HasNoSlash name) :
    (Route.ofText (withFileName path name)).slash = false := by
  unfold withFileName
  split <;> rw [slash_join _ hne hslash]

end FetchClient.Files.Path
