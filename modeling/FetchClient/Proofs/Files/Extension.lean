import FetchClient.Files.Tree
import Mathlib.Data.List.Basic

/-!
# Trees with more directories

- `Tree.entryAt?_put_self`, `Tree.entryAt?_erase_self` and their counterparts for other locations:
  what is at a location after a change;
- `Tree.Extends`: whether one tree is another one with some more directories;
- `Tree.Extends.join`: two trees with more directories have a tree with more directories than both;
- `Tree.Untouched`: whether nothing happened at a location, unless a directory was made there.
-/

namespace FetchClient.Files.Tree

variable {tree more : Tree} {location other : Location} {entry : Entry}

/-! ## Single entries -/

theorem lookup_filter_ne (entries : List (Location × Entry)) (h : other ≠ location) :
    (entries.filter fun entry => entry.1 != location).lookup other = entries.lookup other := by
  induction entries with
  | nil => rfl
  | cons first entries ih =>
    obtain ⟨key, value⟩ := first
    by_cases hkey : key = location
    · have hother : (other == key) = false := beq_false_of_ne (hkey ▸ h)
      rw [List.filter_cons_of_neg (by simp [hkey]), ih, List.lookup_cons, hother]
    · rw [List.filter_cons_of_pos (by simpa using hkey), List.lookup_cons, List.lookup_cons, ih]

theorem lookup_filter_self (entries : List (Location × Entry)) :
    (entries.filter fun entry => entry.1 != location).lookup location = none := by
  rw [List.lookup_eq_none_iff]
  intro first hfirst
  have hne := (List.mem_filter.mp hfirst).2
  simpa using Ne.symm (bne_iff_ne.mp hne)

theorem entryAt?_erase_of_ne (h : other ≠ location) :
    (tree.erase location).entryAt? other = tree.entryAt? other := by
  unfold entryAt? erase
  rw [lookup_filter_ne _ h]

theorem entryAt?_erase_self (h : location ≠ []) :
    (tree.erase location).entryAt? location = none := by
  unfold entryAt? erase
  rw [if_neg h, lookup_filter_self]

/-- What is there after an entry was erased was there before. -/
theorem entryAt?_of_erase (h : (tree.erase location).entryAt? other = some entry) :
    tree.entryAt? other = some entry := by
  by_cases hsame : other = location
  · subst hsame
    by_cases htop : other = []
    · rwa [entryAt?, if_pos htop] at h ⊢
    · rw [entryAt?_erase_self htop] at h
      cases h
  · rwa [entryAt?_erase_of_ne hsame] at h

theorem entryAt?_put_of_ne (h : other ≠ location) :
    (tree.put location entry).entryAt? other = tree.entryAt? other := by
  have herase : (tree.erase location).entryAt? other = tree.entryAt? other := entryAt?_erase_of_ne h
  have hother : (other == location) = false := beq_false_of_ne h
  rw [← herase]
  simp only [entryAt?, put, List.lookup_cons, hother]

theorem entryAt?_put_self (h : location ≠ []) :
    (tree.put location entry).entryAt? location = some entry := by
  simp [entryAt?, put, h]

/-! ## More directories -/

/-- Whether one tree is another one with some more directories, where nothing was. -/
structure Extends (tree more : Tree) : Prop where
  here : more.here = tree.here
  kept : ∀ location entry, tree.entryAt? location = some entry → more.entryAt? location = some entry
  added : ∀ location, tree.entryAt? location = none →
    more.entryAt? location = none ∨ more.entryAt? location = some .directory

namespace Extends

theorem refl (tree : Tree) : Extends tree tree :=
  ⟨rfl, fun _ _ h => h, fun _ h => .inl h⟩

theorem trans {most : Tree} (h : Extends tree more) (h' : Extends more most) :
    Extends tree most := by
  refine ⟨h'.here.trans h.here, fun _ _ hentry => h'.kept _ _ (h.kept _ _ hentry), ?_⟩
  intro location hnone
  rcases h.added location hnone with hmore | hmore
  · exact h'.added location hmore
  · exact .inr (h'.kept _ _ hmore)

/-- Trees with the same entries extend each other. -/
theorem of_entryAt?_eq (hhere : more.here = tree.here)
    (hentry : ∀ location, more.entryAt? location = tree.entryAt? location) : Extends tree more :=
  ⟨hhere, fun _ _ h => (hentry _).trans h, fun _ h => .inl ((hentry _).trans h)⟩

theorem put_directory (h : tree.entryAt? location = none) :
    Extends tree (tree.put location .directory) := by
  have hne : location ≠ [] := by
    rintro rfl
    cases h
  refine ⟨rfl, fun other entry hother => ?_, fun other hother => ?_⟩
  · have hdiffers : other ≠ location := by
      rintro rfl
      rw [h] at hother
      cases hother
    rw [entryAt?_put_of_ne hdiffers, hother]
  · by_cases hsame : other = location
    · exact .inr (hsame ▸ entryAt?_put_self (hsame ▸ hne))
    · exact .inl ((entryAt?_put_of_ne hsame).trans hother)

theorem entryAt?_append (other : Tree) (here : Location) :
    (Tree.mk (tree.entries ++ other.entries) here).entryAt? location =
      (tree.entryAt? location).or (other.entryAt? location) := by
  unfold entryAt?
  split
  · rfl
  · exact List.lookup_append

/-- Where one extension has an entry, another one has the same or, for a directory, none. -/
theorem agrees {other : Tree} (h : Extends tree more) (h' : Extends tree other)
    (hentry : more.entryAt? location = some entry) :
    other.entryAt? location = some entry ∨
      other.entryAt? location = none ∧ entry = .directory := by
  cases htree : tree.entryAt? location with
  | some before =>
    rw [h.kept location before htree] at hentry
    exact .inl (hentry ▸ h'.kept location before htree)
  | none =>
    have hdirectory : entry = .directory := by
      rcases h.added location htree with hmore | hmore
      · rw [hmore] at hentry
        cases hentry
      · rw [hmore] at hentry
        exact (Option.some.inj hentry).symm
    rcases h'.added location htree with hother | hother
    · exact .inr ⟨hother, hdirectory⟩
    · exact .inl (hdirectory ▸ hother)

/-- Two extensions of a tree have a common one, with the directories of both. -/
theorem join {other : Tree} (h : Extends tree more) (h' : Extends tree other) :
    ∃ joint, Extends more joint ∧ Extends other joint := by
  refine ⟨⟨more.entries ++ other.entries, tree.here⟩, ⟨h.here.symm, ?_, ?_⟩,
    ⟨h'.here.symm, ?_, ?_⟩⟩
  · intro location entry hmore
    rw [entryAt?_append, hmore, Option.some_or]
  · intro location hmore
    rw [entryAt?_append, hmore, Option.none_or]
    cases hother : other.entryAt? location with
    | none => exact .inl rfl
    | some entry =>
      rcases agrees h' h hother with hsame | ⟨-, rfl⟩
      · rw [hmore] at hsame
        cases hsame
      · exact .inr rfl
  · intro location entry hother
    rw [entryAt?_append, hother]
    rcases agrees h' h hother with hsame | ⟨hnone, -⟩
    · rw [hsame, Option.some_or]
    · rw [hnone, Option.none_or]
  · intro location hother
    rw [entryAt?_append, hother, Option.or_none]
    cases hmore : more.entryAt? location with
    | none => exact .inl rfl
    | some entry =>
      rcases agrees h h' hmore with hsame | ⟨-, rfl⟩
      · rw [hother] at hsame
        cases hsame
      · exact .inr rfl

end Extends

/-- Whether what is at a location stayed there, or a directory is there where nothing was. -/
def Untouched (tree other : Tree) (location : Location) : Prop :=
  other.entryAt? location = tree.entryAt? location ∨
    tree.entryAt? location = none ∧ other.entryAt? location = some .directory

theorem Extends.untouched (h : Extends tree more) (location : Location) :
    Untouched tree more location := by
  cases htree : tree.entryAt? location with
  | some entry => exact .inl ((h.kept _ _ htree).trans htree.symm)
  | none =>
    rcases h.added _ htree with hnone | hdirectory
    · exact .inl (hnone.trans htree.symm)
    · exact .inr ⟨htree, hdirectory⟩

end FetchClient.Files.Tree
