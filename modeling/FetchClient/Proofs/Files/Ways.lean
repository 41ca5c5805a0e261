import FetchClient.Files.Requests
import FetchClient.Proofs.Files.Extension

/-!
# Where paths lead after a change

- `Tree.Leads`: whether some steps lead from one location to another one;
- `Tree.Leads.walk_linksOn`: what is left behind some steps for those that follow;
- `Tree.KeepsWays`: whether all directories and links of one tree are in another one;
- `Tree.LeadsToName`: whether a path leads to a name in a directory;
- `Tree.findEntry_of_extends`: more directories leave all files as they are;
- `Tree.LeadsToName.findEntry_eq_file_iff`: the file at a name in a directory.
-/

namespace FetchClient

/-- A request succeeds if each of its parts does, the later ones with what the earlier ones gave. -/
theorem bind_eq_ok_iff {ε α β : Type} {x : Except ε α} {f : α → Except ε β} {b : β} :
    (x >>= f) = .ok b ↔ ∃ a, x = .ok a ∧ f a = .ok b := by
  cases x <;> simp [bind, Except.bind]

namespace Files.Tree

variable {tree other : Tree} {links : Nat} {origin location directory : Location}
  {steps : List String} {path name text : String} {entry : Entry} {contents : Contents}
  {slash : Bool}

/-! ## Walks that end somewhere -/

/-- Whether some steps lead from one location to another one. -/
inductive Leads (tree : Tree) : Nat → Location → List String → Location → Prop where
  | done (links : Nat) (location : Location) : Leads tree links location [] location
  | stay {links : Nat} {origin location : Location} {steps : List String}
      (hdirectory : tree.entryAt? origin = some .directory)
      (hrest : Leads tree links origin steps location) :
      Leads tree links origin ("." :: steps) location
  | leave {links : Nat} {origin location : Location} {steps : List String}
      (hdirectory : tree.entryAt? origin = some .directory)
      (hrest : Leads tree links origin.dropLast steps location) :
      Leads tree links origin (".." :: steps) location
  | enter {links : Nat} {origin location : Location} {step : String} {steps : List String}
      {entry : Entry} (hdirectory : tree.entryAt? origin = some .directory)
      (hname : isName step = true) (hshort : step.utf8ByteSize ≤ maxName)
      (hentry : tree.entryAt? (origin ++ [step]) = some entry)
      (hfound : ∀ target, entry ≠ .link target)
      (hrest : Leads tree links (origin ++ [step]) steps location) :
      Leads tree links origin (step :: steps) location
  | follow {links : Nat} {origin location : Location} {step target : String} {steps : List String}
      (hdirectory : tree.entryAt? origin = some .directory)
      (hname : isName step = true) (hshort : step.utf8ByteSize ≤ maxName)
      (hentry : tree.entryAt? (origin ++ [step]) = some (.link target))
      (htarget : target.isEmpty = false)
      (hrest : Leads tree links ((Route.ofText target).start origin)
        ((Route.ofText target).allSteps ++ steps) location) :
      Leads tree (links + 1) origin (step :: steps) location

theorem isName_iff {step : String} : isName step = true ↔ step ≠ "." ∧ step ≠ ".." := by
  rw [isName, Bool.and_eq_true, bne_iff_ne, bne_iff_ne]

theorem leads_of_walk (hwalk : tree.walk links origin steps = .ok location) :
    Leads tree links origin steps location := by
  -- The cases are those of the walk, and the ones that end in a fault are ruled out.
  induction links, origin, steps using Tree.walk.induct tree with
  | case1 links origin =>
    rw [walk] at hwalk
    cases hwalk
    exact .done links _
  | case2 links origin step steps hnot =>
    rw [walk, if_pos hnot] at hwalk
    cases hwalk
  | case3 links origin steps hdirectory ih =>
    rw [walk, if_neg hdirectory, if_pos rfl] at hwalk
    exact .stay (not_not.mp hdirectory) (ih hwalk)
  | case4 links origin steps hdirectory hdots ih =>
    rw [walk, if_neg hdirectory, if_neg hdots, if_pos rfl] at hwalk
    exact .leave (not_not.mp hdirectory) (ih hwalk)
  | case5 links origin step steps hdirectory hdot hdots hlong =>
    rw [walk, if_neg hdirectory, if_neg hdot, if_neg hdots, if_pos hlong] at hwalk
    cases hwalk
  | case6 links origin step steps hdirectory hdot hdots hlong hnone =>
    rw [walk, if_neg hdirectory, if_neg hdot, if_neg hdots, if_neg hlong, hnone] at hwalk
    cases hwalk
  | case7 origin step steps hdirectory hdot hdots hlong target hlink =>
    rw [walk, if_neg hdirectory, if_neg hdot, if_neg hdots, if_neg hlong, hlink] at hwalk
    cases hwalk
  | case8 origin step steps hdirectory hdot hdots hlong target hlink links hempty =>
    rw [walk, if_neg hdirectory, if_neg hdot, if_neg hdots, if_neg hlong, hlink] at hwalk
    simp only [hempty, if_true] at hwalk
    cases hwalk
  | case9 origin step steps hdirectory hdot hdots hlong target hlink links route htarget ih =>
    rw [walk, if_neg hdirectory, if_neg hdot, if_neg hdots, if_neg hlong, hlink] at hwalk
    simp only [htarget] at hwalk
    exact .follow (not_not.mp hdirectory) (isName_iff.mpr ⟨hdot, hdots⟩) (Nat.not_lt.mp hlong)
      hlink (Bool.not_eq_true _ ▸ htarget) (ih hwalk)
  | case10 links origin step steps hdirectory hdot hdots hlong entry hfound hentry ih =>
    rw [walk, if_neg hdirectory, if_neg hdot, if_neg hdots, if_neg hlong, hentry] at hwalk
    refine .enter (not_not.mp hdirectory) (isName_iff.mpr ⟨hdot, hdots⟩) (Nat.not_lt.mp hlong)
      hentry hfound (ih ?_)
    cases entry with
    | link target => exact absurd rfl (hfound target)
    | _ => exact hwalk

/-- The links on a way are those that are followed one by one. -/
theorem linksOn_follow {step target : String}
    (hname : isName step = true) (hentry : tree.entryAt? (origin ++ [step]) = some (.link target)) :
    tree.linksOn (links + 1) origin (step :: steps) =
      tree.linksOn links ((Route.ofText target).start origin)
        ((Route.ofText target).allSteps ++ steps) + 1 := by
  obtain ⟨hdot, hdots⟩ := isName_iff.mp hname
  rw [linksOn, if_neg hdot, if_neg hdots, hentry]

theorem linksOn_enter {step : String} (hname : isName step = true)
    (hfound : ∀ target, tree.entryAt? (origin ++ [step]) ≠ some (.link target)) :
    tree.linksOn links origin (step :: steps) = tree.linksOn links (origin ++ [step]) steps := by
  obtain ⟨hdot, hdots⟩ := isName_iff.mp hname
  rw [linksOn, if_neg hdot, if_neg hdots]
  split
  · exact absurd ‹_› (hfound _)
  · rfl

/-- Further steps go on where some steps lead, with as many links as are left. -/
theorem Leads.walk_linksOn (hleads : Leads tree links origin steps location) (more : List String) :
    tree.walk links origin (steps ++ more) =
      tree.walk (links - tree.linksOn links origin steps) location more := by
  induction hleads with
  | done links location => rw [linksOn, Nat.sub_zero, List.nil_append]
  | stay hdirectory _ ih =>
    rw [List.cons_append, walk, if_neg (not_not.mpr hdirectory), if_pos rfl, ih, linksOn, if_pos rfl]
  | leave hdirectory _ ih =>
    rw [List.cons_append, walk, if_neg (not_not.mpr hdirectory), if_neg (by decide), if_pos rfl, ih,
      linksOn, if_neg (by decide), if_pos rfl]
  | @enter links origin location step steps entry hdirectory hname hshort hentry hfound _ ih =>
    obtain ⟨hdot, hdots⟩ := isName_iff.mp hname
    have hnot : ∀ target, tree.entryAt? (origin ++ [step]) ≠ some (.link target) :=
      fun target hlink => hfound target (Option.some.inj (hentry.symm.trans hlink))
    rw [List.cons_append, walk, if_neg (not_not.mpr hdirectory), if_neg hdot, if_neg hdots,
      if_neg (Nat.not_lt.mpr hshort), hentry, linksOn_enter hname hnot, ← ih]
    cases entry with
    | link target => exact absurd rfl (hfound target)
    | _ => rfl
  | follow hdirectory hname hshort hentry htarget _ ih =>
    obtain ⟨hdot, hdots⟩ := isName_iff.mp hname
    rw [List.cons_append, walk, if_neg (not_not.mpr hdirectory), if_neg hdot, if_neg hdots,
      if_neg (Nat.not_lt.mpr hshort), hentry, linksOn_follow hname hentry, Nat.add_sub_add_right,
      ← ih, List.append_assoc]
    simp only [htarget, Bool.false_eq_true, if_false]

theorem Leads.walk_append (hleads : Leads tree links origin steps location) :
    ∃ left, ∀ more, tree.walk links origin (steps ++ more) = tree.walk left location more :=
  ⟨_, hleads.walk_linksOn⟩

/-- A way does not have more links than may be followed, and no fewer when more may be. -/
theorem Leads.linksOn_add (hleads : Leads tree links origin steps location) (more : Nat) :
    tree.linksOn (links + more) origin steps ≤ links := by
  induction hleads with
  | done links location =>
    rw [linksOn]
    exact Nat.zero_le _
  | stay _ _ ih => rwa [linksOn, if_pos rfl]
  | leave _ _ ih => rwa [linksOn, if_neg (by decide), if_pos rfl]
  | enter _ hname _ hentry hfound _ ih =>
    rwa [linksOn_enter hname]
    exact fun target hlink => hfound target (Option.some.inj (hentry.symm.trans hlink))
  | follow _ hname _ hentry _ _ ih =>
    rw [Nat.add_right_comm, linksOn_follow hname hentry]
    exact Nat.succ_le_succ ih

theorem walk_of_leads (hleads : Leads tree links origin steps location) :
    tree.walk links origin steps = .ok location := by
  obtain ⟨left, hwalk⟩ := hleads.walk_append
  have hend := hwalk []
  rwa [List.append_nil, walk] at hend

theorem walk_eq_ok_iff :
    tree.walk links origin steps = .ok location ↔ Leads tree links origin steps location :=
  ⟨leads_of_walk, walk_of_leads⟩

/-- Where nothing has the name of the first step, the other steps do not matter. -/
theorem walk_missing {step : String} (hname : isName step = true)
    (hshort : step.utf8ByteSize ≤ maxName) (hdirectory : tree.entryAt? origin = some .directory)
    (hnone : tree.entryAt? (origin ++ [step]) = none) :
    tree.walk links origin (step :: steps) = .error .notFound := by
  obtain ⟨hdot, hdots⟩ := isName_iff.mp hname
  rw [walk, if_neg (not_not.mpr hdirectory), if_neg hdot, if_neg hdots,
    if_neg (Nat.not_lt.mpr hshort), hnone]

/-- Steps lead to one location only. -/
theorem Leads.unique {location' : Location} (h : Leads tree links origin steps location)
    (h' : Leads tree links origin steps location') : location' = location := by
  rw [← walk_eq_ok_iff] at h h'
  rw [h] at h'
  exact (Except.ok.inj h').symm

/-- Where steps lead somewhere, the first of them do too. -/
theorem Leads.of_append {all more : List String} (hleads : Leads tree links origin all location)
    (hall : all = steps ++ more) :
    ∃ left middle, Leads tree links origin steps middle ∧ Leads tree left middle more location := by
  have hnone : ∀ {links origin all}, Leads tree links origin all location → all = more →
      ∃ left middle, Leads tree links origin [] middle ∧ Leads tree left middle more location :=
    fun h hall => ⟨_, _, .done _ _, hall ▸ h⟩
  induction hleads generalizing steps with
  | done links location =>
    obtain ⟨rfl, rfl⟩ := List.append_eq_nil_iff.mp hall.symm
    exact ⟨links, location, .done _ _, .done _ _⟩
  | stay hdirectory hrest ih =>
    cases steps with
    | nil => exact hnone (.stay hdirectory hrest) hall
    | cons step steps =>
      obtain ⟨rfl, hsteps⟩ := List.cons.inj hall
      obtain ⟨left, middle, hfirst, hsecond⟩ := ih hsteps hnone
      exact ⟨left, middle, .stay hdirectory hfirst, hsecond⟩
  | leave hdirectory hrest ih =>
    cases steps with
    | nil => exact hnone (.leave hdirectory hrest) hall
    | cons step steps =>
      obtain ⟨rfl, hsteps⟩ := List.cons.inj hall
      obtain ⟨left, middle, hfirst, hsecond⟩ := ih hsteps hnone
      exact ⟨left, middle, .leave hdirectory hfirst, hsecond⟩
  | enter hdirectory hname hshort hentry hfound hrest ih =>
    cases steps with
    | nil => exact hnone (.enter hdirectory hname hshort hentry hfound hrest) hall
    | cons step steps =>
      obtain ⟨rfl, hsteps⟩ := List.cons.inj hall
      obtain ⟨left, middle, hfirst, hsecond⟩ := ih hsteps hnone
      exact ⟨left, middle, .enter hdirectory hname hshort hentry hfound hfirst, hsecond⟩
  | follow hdirectory hname hshort hentry htarget hrest ih =>
    cases steps with
    | nil => exact hnone (.follow hdirectory hname hshort hentry htarget hrest) hall
    | cons step steps =>
      obtain ⟨rfl, hsteps⟩ := List.cons.inj hall
      -- The steps of the link come first, and then what is left of the first steps.
      obtain ⟨left, middle, hfirst, hsecond⟩ :=
        ih ((congrArg _ hsteps).trans (List.append_assoc ..).symm) hnone
      exact ⟨left, middle, .follow hdirectory hname hshort hentry htarget hfirst, hsecond⟩

/-- Further steps are only made in a directory. -/
theorem Leads.directory_of_ne_nil (hleads : Leads tree links origin steps location)
    (hne : steps ≠ []) : tree.entryAt? origin = some .directory := by
  cases hleads with
  | done => exact absurd rfl hne
  | stay hdirectory => exact hdirectory
  | leave hdirectory => exact hdirectory
  | enter hdirectory => exact hdirectory
  | follow hdirectory => exact hdirectory

/-! ## Changes that keep the ways -/

/-- Whether all directories and links of one tree are in another one. -/
structure KeepsWays (tree other : Tree) : Prop where
  here : other.here = tree.here
  directory : ∀ location, tree.entryAt? location = some .directory →
    other.entryAt? location = some .directory
  link : ∀ location target, tree.entryAt? location = some (.link target) →
    other.entryAt? location = some (.link target)

theorem KeepsWays.trans {most : Tree} (h : KeepsWays tree other) (h' : KeepsWays other most) :
    KeepsWays tree most :=
  ⟨h'.here.trans h.here, fun _ hentry => h'.directory _ (h.directory _ hentry),
   fun _ _ hentry => h'.link _ _ (h.link _ _ hentry)⟩

theorem Extends.keepsWays (h : Extends tree other) : KeepsWays tree other :=
  ⟨h.here, fun _ => h.kept _ _, fun _ _ => h.kept _ _⟩

/-- A file may take a place where neither a directory nor a link is. -/
theorem keepsWays_put (hdirectory : tree.entryAt? location ≠ some .directory)
    (hlink : ∀ target, tree.entryAt? location ≠ some (.link target)) :
    KeepsWays tree (tree.put location (.file contents)) := by
  refine ⟨rfl, fun other hother => ?_, fun other target hother => ?_⟩
  · rw [entryAt?_put_of_ne, hother]
    rintro rfl
    exact hdirectory hother
  · rw [entryAt?_put_of_ne, hother]
    rintro rfl
    exact hlink target hother

/-- What is put at a place changes nothing elsewhere. -/
theorem keepsWays_erase_put (hne : location ≠ []) :
    KeepsWays (tree.erase location) (tree.put location entry) := by
  have hkept : ∀ {other found}, (tree.erase location).entryAt? other = some found →
      (tree.put location entry).entryAt? other = some found := by
    intro other found hother
    rw [entryAt?_put_of_ne, entryAt?_of_erase hother]
    rintro rfl
    rw [entryAt?_erase_self hne] at hother
    cases hother
  exact ⟨rfl, fun _ => hkept, fun _ _ => hkept⟩

/-- A file that is new leads nowhere. -/
theorem keepsWays_of_put (hne : location ≠ []) :
    KeepsWays (tree.put location (.file contents)) tree := by
  refine ⟨rfl, fun other hother => ?_, fun other target hother => ?_⟩
  all_goals
    by_cases hsame : other = location
    · rw [hsame, entryAt?_put_self hne] at hother
      cases hother
    · rwa [entryAt?_put_of_ne hsame] at hother

/-- A file may be erased. -/
theorem keepsWays_erase (hdirectory : tree.entryAt? location ≠ some .directory)
    (hlink : ∀ target, tree.entryAt? location ≠ some (.link target)) :
    KeepsWays tree (tree.erase location) := by
  refine ⟨rfl, fun other hother => ?_, fun other target hother => ?_⟩
  · rw [entryAt?_erase_of_ne, hother]
    rintro rfl
    exact hdirectory hother
  · rw [entryAt?_erase_of_ne, hother]
    rintro rfl
    exact hlink target hother

theorem keepsWays_of_erase (tree : Tree) (location : Location) :
    KeepsWays (tree.erase location) tree :=
  ⟨rfl, fun _ => entryAt?_of_erase, fun _ _ => entryAt?_of_erase⟩

/-- A file can only be entered at the end of a way. -/
theorem Leads.eq_of_file (hfile : tree.entryAt? origin = some (.file contents))
    (hleads : Leads tree links origin steps location) : location = origin := by
  cases hleads with
  | done => rfl
  | _ => simp_all

/-- What steps begin at is kept if the ways and what is at their end are. -/
theorem Leads.entryAt?_of_keepsWays (h : KeepsWays tree other)
    (hend : ∀ entry, tree.entryAt? location = some entry → other.entryAt? location = some entry)
    (hleads : Leads tree links origin steps location)
    (hentry : tree.entryAt? origin = some entry) : other.entryAt? origin = some entry := by
  cases entry with
  | directory => exact h.directory _ hentry
  | link target => exact h.link _ _ hentry
  | file contents =>
    -- A file need not have been kept, unless it is where the steps end.
    obtain rfl := hleads.eq_of_file hentry
    exact hend _ hentry

/-- Steps lead where they led before if the ways and what is at their end are kept. -/
theorem Leads.of_keepsWays (h : KeepsWays tree other)
    (hend : ∀ entry, tree.entryAt? location = some entry → other.entryAt? location = some entry)
    (hleads : Leads tree links origin steps location) :
    Leads other links origin steps location := by
  induction hleads with
  | done links location => exact .done links location
  | stay hdirectory _ ih => exact .stay (h.directory _ hdirectory) (ih hend)
  | leave hdirectory _ ih => exact .leave (h.directory _ hdirectory) (ih hend)
  | enter hdirectory hname hshort hentry hfound hrest ih =>
    exact .enter (h.directory _ hdirectory) hname hshort
      (hrest.entryAt?_of_keepsWays h hend hentry) hfound (ih hend)
  | follow hdirectory hname hshort hentry htarget _ ih =>
    exact .follow (h.directory _ hdirectory) hname hshort (h.link _ _ hentry) htarget (ih hend)

/-- The links on a way stay as many if the ways and what is at their end are kept. -/
theorem Leads.linksOn_of_keepsWays (h : KeepsWays tree other)
    (hend : ∀ entry, tree.entryAt? location = some entry → other.entryAt? location = some entry)
    (hleads : Leads tree links origin steps location) :
    other.linksOn links origin steps = tree.linksOn links origin steps := by
  induction hleads with
  | done links location => rw [linksOn, linksOn]
  | stay _ _ ih => rw [linksOn, if_pos rfl, linksOn, if_pos rfl, ih hend]
  | leave _ _ ih =>
    rw [linksOn, if_neg (by decide), if_pos rfl, linksOn, if_neg (by decide), if_pos rfl, ih hend]
  | enter _ hname _ hentry hfound hrest ih =>
    have hkept := hrest.entryAt?_of_keepsWays h hend hentry
    rw [linksOn_enter hname, linksOn_enter hname, ih hend]
    · exact fun target hlink => hfound target (Option.some.inj (hentry.symm.trans hlink))
    · exact fun target hlink => hfound target (Option.some.inj (hkept.symm.trans hlink))
  | follow _ hname _ hentry _ _ ih =>
    rw [linksOn_follow hname hentry, linksOn_follow hname (h.link _ _ hentry), ih hend]

/-! ## Names in directories -/

theorem location_ne_nil (directory : Location) (name : String) :
    directory ++ [name] ≠ [] :=
  List.append_ne_nil_of_right_ne_nil _ (List.cons_ne_nil _ _)

/-- Whether a path leads to a name in a directory. -/
structure LeadsToName (tree : Tree) (path : String) (directory : Location) (name : String)
    (slash : Bool) : Prop where
  noFault : pathFault? path = none
  last : (Route.ofText path).steps.getLast? = some name
  isName : isName name = true
  short : name.utf8ByteSize ≤ maxName
  slash : (Route.ofText path).slash = slash
  leads : Leads tree maxLinks ((Route.ofText path).start tree.here)
    (Route.ofText path).steps.dropLast directory
  directory : tree.entryAt? directory = some .directory

theorem leadsToName_of_route (steps : List String) (hfault : pathFault? path = none)
    (hroute : Route.ofText path = ⟨false, steps ++ [name], false⟩)
    (hname : Tree.isName name = true) (hshort : name.utf8ByteSize ≤ maxName)
    (hleads : Leads tree maxLinks tree.here steps directory)
    (hdirectory : tree.entryAt? directory = some .directory) :
    LeadsToName tree path directory name false where
  noFault := hfault
  last := by rw [hroute, List.getLast?_concat]
  isName := hname
  short := hshort
  slash := by rw [hroute]
  leads := by
    rw [hroute, List.dropLast_concat]
    exact hleads
  directory := hdirectory

theorem spotFrom_eq_named_iff {route : Route} :
    tree.spotFrom links origin route = .ok (.named directory name slash) ↔
      route.steps.getLast? = some name ∧ isName name = true ∧ route.slash = slash ∧
      Leads tree links (route.start origin) route.steps.dropLast directory ∧
      tree.entryAt? directory = some .directory := by
  rw [← walk_eq_ok_iff]
  constructor
  · intro h
    unfold spotFrom at h
    cases hlast : route.steps.getLast? with
    | none =>
      rw [hlast] at h
      cases h
    | some step =>
      rw [hlast] at h
      by_cases hname : isName step = true
      · simp only [hname, if_true] at h
        obtain ⟨found, hwalk, h⟩ := bind_eq_ok_iff.mp h
        by_cases hdirectory : tree.entryAt? found = some .directory
        · simp only [hdirectory, ne_eq, not_true_eq_false, if_false] at h
          cases h
          exact ⟨rfl, hname, rfl, hwalk, hdirectory⟩
        · simp [hdirectory] at h
      · cases hwalk : tree.walk links (route.start origin) (route.steps ++ ["."]) <;>
          simp [hname, hwalk, Except.map] at h
  · rintro ⟨hlast, hname, rfl, hwalk, hdirectory⟩
    simp [spotFrom, hlast, hname, hwalk, hdirectory, bind, Except.bind, pure, Except.pure]

/-- A name alone is looked for in the directory itself. -/
theorem spotFrom_name (hroute : Route.ofText name = ⟨false, [name], false⟩)
    (hname : isName name = true) (hdirectory : tree.entryAt? directory = some .directory)
    (links : Nat) :
    tree.spotFrom links directory (Route.ofText name) = .ok (.named directory name false) := by
  rw [hroute]
  exact spotFrom_eq_named_iff.mpr ⟨rfl, hname, rfl, .done _ _, hdirectory⟩

theorem LeadsToName.spotFrom (h : LeadsToName tree path directory name slash) :
    tree.spotFrom maxLinks tree.here (Route.ofText path) = .ok (.named directory name slash) :=
  spotFrom_eq_named_iff.mpr ⟨h.last, h.isName, h.slash, h.leads, h.directory⟩

theorem spot_eq_named_iff :
    tree.spot path = .ok (.named directory name slash) ↔
      LeadsToName tree path directory name slash := by
  constructor
  · intro h
    unfold spot at h
    cases hfault : pathFault? path with
    | some fault =>
      rw [hfault] at h
      cases h
    | none =>
      rw [hfault] at h
      obtain ⟨found, hspot, h⟩ := bind_eq_ok_iff.mp h
      by_cases hlong : found.isTooLong = true
      · simp [hlong] at h
      · simp only [hlong, if_false, Bool.false_eq_true] at h
        cases h
        obtain ⟨hlast, hname, hslash, hleads, hdirectory⟩ := spotFrom_eq_named_iff.mp hspot
        have hshort : name.utf8ByteSize ≤ maxName := by simpa [Spot.isTooLong] using hlong
        exact ⟨hfault, hlast, hname, hshort, hslash, hleads, hdirectory⟩
  · intro h
    have hshort : Spot.isTooLong (.named directory name slash) = false := by
      simpa [Spot.isTooLong] using h.short
    simp [spot, h.noFault, h.spotFrom, hshort, bind, Except.bind, pure, Except.pure]

theorem LeadsToName.of_keepsWays (hways : KeepsWays tree other)
    (h : LeadsToName tree path directory name slash) :
    LeadsToName other path directory name slash := by
  refine { h with leads := ?_, directory := hways.directory _ h.directory }
  rw [hways.here]
  refine h.leads.of_keepsWays hways fun entry hentry => ?_
  rw [h.directory] at hentry
  cases hentry
  exact hways.directory _ h.directory

/-! ## Files at the end -/

theorem findEntry_eq_ok_iff :
    tree.findEntry path = .ok entry ↔
      pathFault? path = none ∧
      ∃ location, Leads tree maxLinks ((Route.ofText path).start tree.here)
          (Route.ofText path).allSteps location ∧
        tree.entryAt? location = some entry := by
  simp only [← walk_eq_ok_iff]
  unfold findEntry find
  cases hfault : pathFault? path with
  | some fault => simp [bind, Except.bind]
  | none =>
    cases hwalk : tree.walk maxLinks ((Route.ofText path).start tree.here)
        (Route.ofText path).allSteps with
    | error fault => simp [bind, Except.bind]
    | ok location =>
      cases hentry : tree.entryAt? location <;> simp [hentry, bind, Except.bind, pure, Except.pure]

theorem readText_eq_ok_iff :
    tree.readText path = .ok text ↔ tree.findEntry path = .ok (.file (.text text)) := by
  unfold readText
  cases tree.findEntry path with
  | error fault => simp [bind, Except.bind]
  | ok entry =>
    rcases entry with (contents | bytes) | _ | target <;>
      simp [bind, Except.bind, pure, Except.pure]

/-- What leads nowhere is not read. -/
theorem readText_eq_error {route : Route} {fault : Fault} (hfault : pathFault? path = none)
    (hroute : Route.ofText path = route)
    (hwalk : tree.walk maxLinks (route.start tree.here) route.allSteps = .error fault) :
    tree.readText path = .error fault := by
  have hfind : tree.find path = .error fault := by
    simp only [find, hfault, hroute]
    exact hwalk
  simp [readText, findEntry, hfind, bind, Except.bind]

/-- A tree with more directories gives what it gave before. -/
theorem findEntry_of_extends (h : Extends tree other) (hfind : tree.findEntry path = .ok entry) :
    other.findEntry path = .ok entry := by
  obtain ⟨hfault, location, hleads, hentry⟩ := findEntry_eq_ok_iff.mp hfind
  refine findEntry_eq_ok_iff.mpr ⟨hfault, location, ?_, h.kept _ _ hentry⟩
  rw [h.here]
  exact hleads.of_keepsWays h.keepsWays (h.kept location)

/-- What a path leads to after an entry was erased, it led to before. -/
theorem findEntry_of_erase (h : (tree.erase location).findEntry path = .ok entry) :
    tree.findEntry path = .ok entry := by
  obtain ⟨hfault, found, hleads, hentry⟩ := findEntry_eq_ok_iff.mp h
  exact findEntry_eq_ok_iff.mpr ⟨hfault, found,
    hleads.of_keepsWays (keepsWays_of_erase tree location) fun _ => entryAt?_of_erase,
    entryAt?_of_erase hentry⟩

/-- The file that a path gives is the one at the name that it leads to. -/
theorem LeadsToName.findEntry_eq_file_iff (h : LeadsToName tree path directory name false)
    (hlink : ∀ target, tree.entryAt? (directory ++ [name]) ≠ some (.link target)) :
    tree.findEntry path = .ok (.file contents) ↔
      tree.entryAt? (directory ++ [name]) = some (.file contents) := by
  have hsteps : (Route.ofText path).allSteps = (Route.ofText path).steps.dropLast ++ [name] := by
    rw [Route.allSteps, h.slash, if_neg (by decide)]
    exact (List.dropLast_append_getLast? name h.last).symm
  obtain ⟨hdot, hdots⟩ := isName_iff.mp h.isName
  -- The last step is made where the steps in front of it lead.
  obtain ⟨left, hwalk⟩ := h.leads.walk_append
  have hlast := hwalk [name]
  rw [walk, if_neg (not_not.mpr h.directory), if_neg hdot, if_neg hdots,
    if_neg (Nat.not_lt.mpr h.short)] at hlast
  simp only [Tree.findEntry_eq_ok_iff, h.noFault, ← walk_eq_ok_iff, hsteps, hlast, true_and]
  cases hentry : tree.entryAt? (directory ++ [name]) with
  | none => simp
  | some entry =>
    cases entry with
    | link target => exact absurd hentry (hlink target)
    | _ => simp [walk, hentry]

theorem LeadsToName.readText_eq_ok (h : LeadsToName tree path directory name false)
    (hentry : tree.entryAt? (directory ++ [name]) = some (.file (.text text))) :
    tree.readText path = .ok text :=
  readText_eq_ok_iff.mpr ((h.findEntry_eq_file_iff (by simp [hentry])).mpr hentry)

end Files.Tree

end FetchClient
