import FetchClient.Proofs.Files.Ways
import FetchClient.Proofs.Files.Parent

/-!
# Directories on the way

- `Tree.isDirectory_iff`: a path leads to a directory if its steps do;
- `Tree.isDirectory_of_below`, `Tree.isDirectory_of_mem_ancestors`: where a path leads to a directory,
  the paths around it do too;
- `Tree.leadsToName_of_findEntry`: where a path leads to a file, its last step is a name, or two
  dots;
- `Tree.makeDirectories_of_isDirectory`: a directory that is there is not made again;
- `Tree.isDirectory_of_makeDirectoriesAt`: when making directories fails, the directory is not there.
-/

namespace FetchClient.Files.Tree

open Files.Path (Below)

variable {tree other : Tree} {directory location : Location} {path around name : String}
  {slash : Bool} {entry : Entry} {contents : Contents}

/-! ## Paths that lead to directories -/

/-- What a name leads through is there. -/
theorem Leads.exists_entry {links : Nat} {origin : Location} {step : String} {steps : List String}
    (hleads : Leads tree links origin (step :: steps) location) (hname : isName step = true) :
    step.utf8ByteSize ≤ maxName ∧ (tree.entryAt? (origin ++ [step])).isSome := by
  obtain ⟨hdot, hdots⟩ := isName_iff.mp hname
  generalize hall : step :: steps = all at hleads
  cases hleads with
  | done => cases hall
  | stay => exact absurd (List.cons.inj hall).1 hdot
  | leave => exact absurd (List.cons.inj hall).1 hdots
  | enter _ _ hshort hentry =>
    obtain ⟨rfl, -⟩ := List.cons.inj hall
    exact ⟨hshort, by rw [hentry]; rfl⟩
  | follow _ _ hshort hentry =>
    obtain ⟨rfl, -⟩ := List.cons.inj hall
    exact ⟨hshort, by rw [hentry]; rfl⟩

/-- A last step that stays in a directory ends there. -/
theorem Leads.directory_of_append_dot {links : Nat} {origin : Location} {steps : List String}
    (hleads : Leads tree links origin (steps ++ ["."]) location) :
    tree.entryAt? location = some .directory ∧ Leads tree links origin steps location := by
  obtain ⟨left, middle, hfirst, hlast⟩ := hleads.of_append rfl
  have hmiddle := hlast.directory_of_ne_nil (List.cons_ne_nil _ _)
  rw [← walk_eq_ok_iff, walk, if_neg (not_not.mpr hmiddle), if_pos rfl, walk] at hlast
  cases hlast
  exact ⟨hmiddle, hfirst⟩

/-- A step that stays in a directory changes nothing. -/
theorem leads_append_dot_iff {links : Nat} {origin : Location} {steps : List String}
    (hdirectory : tree.entryAt? location = some .directory) :
    Leads tree links origin (steps ++ ["."]) location ↔ Leads tree links origin steps location := by
  constructor
  · exact fun hleads => hleads.directory_of_append_dot.2
  · intro hleads
    obtain ⟨left, hwalk⟩ := hleads.walk_append
    rw [← walk_eq_ok_iff, hwalk, walk, if_neg (not_not.mpr hdirectory), if_pos rfl, walk]

/-- A slash behind a directory leads to the same directory. -/
theorem leads_allSteps_iff {route : Route} {links : Nat} {origin : Location}
    (hdirectory : tree.entryAt? location = some .directory) :
    Leads tree links origin route.allSteps location ↔
      Leads tree links origin route.steps location := by
  rw [Route.allSteps]
  split
  · exact leads_append_dot_iff hdirectory
  · rfl

theorem isDirectory_iff :
    tree.isDirectory path = true ↔
      pathFault? path = none ∧
      ∃ location, Leads tree maxLinks ((Route.ofText path).start tree.here)
          (Route.ofText path).steps location ∧
        tree.entryAt? location = some .directory := by
  have hfind : tree.isDirectory path = true ↔ tree.findEntry path = .ok .directory := by
    unfold isDirectory
    rcases tree.findEntry path with fault | (_ | _ | _) <;> simp
  rw [hfind, findEntry_eq_ok_iff]
  constructor
  · rintro ⟨hfault, location, hleads, hdirectory⟩
    exact ⟨hfault, location, (leads_allSteps_iff hdirectory).mp hleads, hdirectory⟩
  · rintro ⟨hfault, location, hleads, hdirectory⟩
    exact ⟨hfault, location, (leads_allSteps_iff hdirectory).mpr hleads, hdirectory⟩

theorem start_of_below (hbelow : Below path around) (origin : Location) :
    (Route.ofText path).start origin = (Route.ofText around).start origin := by
  have habsolute : (Route.ofText path).absolute = (Route.ofText around).absolute :=
    hbelow.absolute
  rw [Route.start, Route.start, habsolute]

/-- What a path leads through is a directory. -/
theorem isDirectory_of_leads (hbelow : Below path around) (hfault : pathFault? path = none)
    (hleads : Leads tree maxLinks ((Route.ofText path).start tree.here)
      (Route.ofText path).steps location) :
    tree.isDirectory around = true := by
  obtain ⟨more, hne, hsteps⟩ := hbelow.steps
  obtain ⟨left, middle, hfirst, hsecond⟩ := hleads.of_append hsteps
  rw [start_of_below hbelow] at hfirst
  exact isDirectory_iff.mpr
    ⟨hbelow.noFault hfault, middle, hfirst, hsecond.directory_of_ne_nil hne⟩

theorem isDirectory_of_below (hbelow : Below path around) (h : tree.isDirectory path = true) :
    tree.isDirectory around = true := by
  obtain ⟨hfault, location, hleads, -⟩ := isDirectory_iff.mp h
  exact isDirectory_of_leads hbelow hfault hleads

/-- More directories do not take directories away. -/
theorem isDirectory_of_extends (h : Extends tree other) (hthere : tree.isDirectory path = true) :
    other.isDirectory path = true := by
  obtain ⟨hfault, location, hleads, hdirectory⟩ := isDirectory_iff.mp hthere
  refine isDirectory_iff.mpr ⟨hfault, location, ?_, h.kept _ _ hdirectory⟩
  rw [h.here]
  exact hleads.of_keepsWays h.keepsWays (h.kept location)

theorem LeadsToName.isDirectory (hbelow : Below path around)
    (hsteps : (Route.ofText path).steps = (Route.ofText around).steps ++ [name])
    (h : LeadsToName tree path directory name slash) : tree.isDirectory around = true := by
  have hleads := h.leads
  rw [hsteps, List.dropLast_concat, start_of_below hbelow] at hleads
  exact isDirectory_iff.mpr ⟨hbelow.noFault h.noFault, directory, hleads, h.directory⟩

/-! ## Paths that lead to files -/

/-- The last step to a file is a name, unless it leaves a directory. -/
theorem leadsToName_of_findEntry (h : tree.findEntry path = .ok (.file contents)) :
    (∃ directory name, LeadsToName tree path directory name false ∧
      tree.entryAt? (directory ++ [name]) ≠ some .directory) ∨
    (Route.ofText path).steps.getLast? = some ".." := by
  obtain ⟨hfault, location, hleads, hfile⟩ := findEntry_eq_ok_iff.mp h
  have hnot : tree.entryAt? location ≠ some .directory := by
    rw [hfile]
    simp
  have hslash : (Route.ofText path).slash = false := by
    by_contra hslash
    rw [Route.allSteps, if_pos (by simpa using hslash)] at hleads
    exact hnot hleads.directory_of_append_dot.1
  rw [Route.allSteps, hslash, if_neg (by decide)] at hleads
  cases hlast : (Route.ofText path).steps.getLast? with
  | none =>
    have hsteps := List.getLast?_eq_none_iff.mp hlast
    have habsolute := Path.isAbsolute_of_steps_eq_nil (Path.pathFault?_eq_none_iff.mp hfault).2.1
      hsteps
    rw [hsteps, Route.start, show (Route.ofText path).absolute = true from habsolute] at hleads
    cases hleads
    exact absurd rfl hnot
  | some step =>
    have hsteps := (List.dropLast_append_getLast? step hlast).symm
    obtain ⟨left, middle, hfirst, hsecond⟩ := hleads.of_append hsteps
    have hmiddle := hsecond.directory_of_ne_nil (List.cons_ne_nil _ _)
    by_cases hname : isName step = true
    · obtain ⟨hshort, -⟩ := hsecond.exists_entry hname
      refine .inl ⟨middle, step, ⟨hfault, hlast, hname, hshort, hslash, hfirst, hmiddle⟩, ?_⟩
      intro hdirectory
      -- Then the path would lead to this directory.
      obtain ⟨hdot, hdots⟩ := isName_iff.mp hname
      rw [← walk_eq_ok_iff, walk, if_neg (not_not.mpr hmiddle), if_neg hdot, if_neg hdots,
        if_neg (Nat.not_lt.mpr hshort), hdirectory] at hsecond
      simp only [walk, Except.ok.injEq] at hsecond
      exact hnot (hsecond ▸ hdirectory)
    · by_cases hdot : step = "."
      · subst hdot
        rw [hsteps] at hleads
        exact absurd hleads.directory_of_append_dot.1 hnot
      · right
        have hdots : step = ".." := by
          by_contra hdots
          exact hname (isName_iff.mpr ⟨hdot, hdots⟩)
        rw [hdots]

/-- What a path to a file leads through is a directory. -/
theorem isDirectory_of_findEntry (hbelow : Below path around)
    (h : tree.findEntry path = .ok entry) : tree.isDirectory around = true := by
  obtain ⟨hfault, location, hleads, -⟩ := findEntry_eq_ok_iff.mp h
  unfold Route.allSteps at hleads
  split at hleads
  · exact isDirectory_of_leads hbelow hfault hleads.directory_of_append_dot.2
  · exact isDirectory_of_leads hbelow hfault hleads

/-! ## Making directories -/

/-- The last step to a directory is a name that is taken, or leaves no choice but a directory. -/
theorem spot_of_isDirectory (h : tree.isDirectory path = true) :
    (∃ found, tree.spot path = .ok (.directory found)) ∨
      ∃ found name slash, tree.spot path = .ok (.named found name slash) ∧
        (tree.entryAt? (found ++ [name])).isSome := by
  obtain ⟨hfault, location, hleads, hdirectory⟩ := isDirectory_iff.mp h
  cases hlast : (Route.ofText path).steps.getLast? with
  | none =>
    left
    refine ⟨(Route.ofText path).start tree.here, ?_⟩
    simp [spot, spotFrom, hfault, hlast, Spot.isTooLong, bind, Except.bind, pure, Except.pure]
  | some step =>
    by_cases hname : isName step = true
    · right
      have hsteps := (List.dropLast_append_getLast? step hlast).symm
      obtain ⟨left, middle, hfirst, hsecond⟩ := hleads.of_append hsteps
      obtain ⟨hshort, hentry⟩ := hsecond.exists_entry hname
      have hmiddle := hsecond.directory_of_ne_nil (List.cons_ne_nil _ _)
      exact ⟨middle, step, (Route.ofText path).slash,
        spot_eq_named_iff.mpr ⟨hfault, hlast, hname, hshort, rfl, hfirst, hmiddle⟩, hentry⟩
    · left
      have hwalk := walk_eq_ok_iff.mpr ((leads_append_dot_iff hdirectory).mpr hleads)
      refine ⟨location, ?_⟩
      simp [spot, spotFrom, hfault, hlast, hname, hwalk, Spot.isTooLong, bind, Except.bind, pure,
        Except.pure, Except.map]

/-- Where a directory is there, none is made. -/
theorem makeDirectory_of_isDirectory (h : tree.isDirectory path = true) :
    tree.makeDirectory path = .error .occupied := by
  unfold makeDirectory
  rcases spot_of_isDirectory h with ⟨found, hspot⟩ | ⟨found, name, slash, hspot, hentry⟩
  · simp only [hspot, bind, Except.bind]
    rfl
  · simp only [hspot, hentry, bind, Except.bind, if_true]
    rfl

/-- A directory that is there is not made again. -/
theorem makeDirectories_of_isDirectory (h : tree.isDirectory path = true) :
    tree.makeDirectories path = (tree, .ok ()) := by
  have hne : path.isEmpty = false := by
    obtain ⟨hfault, -⟩ := isDirectory_iff.mp h
    simpa using (Path.pathFault?_eq_none_iff.mp hfault).2.1
  obtain ⟨around, haround⟩ : ∃ around, ancestors (path.length + 1) path = path :: around := by
    rw [ancestors, hne]
    cases Path.parent? path with
    | none => exact ⟨[], rfl⟩
    | some parent => exact ⟨ancestors path.length parent, rfl⟩
  rw [makeDirectories, haround, makeDirectoriesAt, makeDirectory_of_isDirectory h]
  simp [h]

/-- Making directories fails at the directory itself or at one around it. -/
theorem makeDirectoriesAt_eq_error {fault : Fault} {rest : List String}
    (h : tree.makeDirectoriesAt (path :: rest) = (other, .error fault)) :
    other.isDirectory path = false ∨
      ∃ fault, tree.makeDirectoriesAt rest = (other, .error fault) := by
  have hrefused : ∀ {left : Tree} {reason : Fault},
      (left, if left.isDirectory path then Except.ok () else .error reason) =
        (other, .error fault) → other.isDirectory path = false := by
    intro left reason hleft
    obtain ⟨rfl, hresult⟩ := Prod.ext_iff.mp hleft
    by_contra hthere
    rw [Bool.not_eq_false] at hthere
    rw [if_pos hthere] at hresult
    cases hresult
  unfold makeDirectoriesAt at h
  cases hfirst : tree.makeDirectory path with
  | ok made =>
    rw [hfirst] at h
    cases h
  | error reason =>
    rw [hfirst] at h
    cases reason with
    | notFound =>
      cases hrest : tree.makeDirectoriesAt rest with
      | mk between result =>
        rw [hrest] at h
        cases result with
        | error reason =>
          obtain ⟨rfl, -⟩ := Prod.ext_iff.mp h
          exact .inr ⟨reason, rfl⟩
        | ok _ =>
          cases hagain : between.makeDirectory path with
          | ok made =>
            simp only [hagain] at h
            cases h
          | error reason =>
            simp only [hagain] at h
            exact .inl (hrefused h)
    | _ => exact .inl (hrefused h)

theorem ancestors_empty (fuel : Nat) : ancestors fuel "" = [] := by
  cases fuel <;> rfl

/-- Where a path leads to a directory, all paths around it do too. -/
theorem isDirectory_of_mem_ancestors {fuel : Nat} (hthere : tree.isDirectory path = true)
    (hmem : around ∈ ancestors fuel path) : tree.isDirectory around = true := by
  induction fuel generalizing path with
  | zero => cases hmem
  | succ fuel ih =>
    rw [ancestors] at hmem
    split at hmem
    · cases hmem
    · cases hparent : Path.parent? path with
      | none =>
        rw [hparent, List.mem_singleton] at hmem
        rwa [hmem]
      | some parent =>
        rw [hparent, List.mem_cons] at hmem
        rcases hmem with rfl | hmem
        · exact hthere
        · have hne : parent ≠ "" := by
            rintro rfl
            rw [ancestors_empty] at hmem
            cases hmem
          exact ih (isDirectory_of_below (Path.below_parent hparent hne) hthere) hmem

/-- When making directories fails, the directory is not there. -/
theorem isDirectory_of_makeDirectoriesAt {fault : Fault} {fuel : Nat}
    (h : tree.makeDirectoriesAt (ancestors fuel path) = (other, .error fault)) :
    other.isDirectory path = false := by
  induction fuel generalizing path other fault with
  | zero => cases h
  | succ fuel ih =>
    rw [ancestors] at h
    split at h
    · cases h
    · cases hparent : Path.parent? path with
      | none =>
        rw [hparent] at h
        rcases makeDirectoriesAt_eq_error h with hmissing | ⟨fault, haround⟩
        · exact hmissing
        · cases haround
      | some parent =>
        rw [hparent] at h
        rcases makeDirectoriesAt_eq_error h with hmissing | ⟨fault, haround⟩
        · exact hmissing
        · have hne : parent ≠ "" := by
            rintro rfl
            rw [ancestors_empty] at haround
            cases haround
          have hmissing := ih haround
          by_contra hthere
          rw [Bool.not_eq_false] at hthere
          rw [isDirectory_of_below (Path.below_parent hparent hne) hthere] at hmissing
          cases hmissing

end FetchClient.Files.Tree
