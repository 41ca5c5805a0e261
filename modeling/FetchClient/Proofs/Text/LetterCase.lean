import FetchClient.Text.Identifier

/-!
# Letter case and identifiers

Which characters of an identifier may change their case without leaving it.

- `markedInUpperCase`: the letters whose upper-case form is a letter with a mark behind it that is
  no letter itself;
- `all_isIdentifierPart_upper_iff`: all other characters of identifiers may be put into upper case;
- `exists_upper_eq_cons`: whatever is put into upper case begins with a character of an identifier;
- `isIdentifierStart_lower`, `lower_dotted`: all letters but one may be put into lower case.

The tables of letters and of case mappings are compared run by run: the image of a run of characters
lies within a single range of letters, so no character has to be looked at on its own.
-/

namespace FetchClient.Text

/-! ## Ranges -/

/-- Whether all code points from `low` to `high` are letters of one range. As the ranges ascend, it
can only be the first one that does not end before `high`. -/
def inOneRange (low high : Nat) : Bool :=
  match alphabeticRanges.find? fun range => high.ble range.2 with
  | some range => range.1.ble low
  | none => false

theorem inRanges_of_inOneRange {low high n : Nat} (h : inOneRange low high = true) (hlow : low ≤ n)
    (hhigh : n ≤ high) : inRanges alphabeticRanges n = true := by
  rw [inOneRange] at h
  split at h
  · rename_i range hfind
    have hlast : high ≤ range.2 := Nat.le_of_ble_eq_true (by simpa using List.find?_some hfind)
    have hfirst : range.1 ≤ low := Nat.le_of_ble_eq_true h
    rw [inRanges, List.any_eq_true]
    exact ⟨range, List.mem_of_find?_eq_some hfind, by simp; omega⟩
  · cases h

/-- No range of letters meets the code points that are no characters. -/
theorem alphabeticRanges_valid :
    ∀ range ∈ alphabeticRanges, range.2 < 0xD800 ∨ 0xDFFF < range.1 ∧ range.2 < 0x110000 := by
  decide +kernel

theorem toNat_ofNat_of_inRanges {n : Nat} (h : inRanges alphabeticRanges n = true) :
    (Char.ofNat n).toNat = n := by
  rw [inRanges, List.any_eq_true] at h
  obtain ⟨range, hrange, hn⟩ := h
  rw [Bool.and_eq_true, decide_eq_true_eq, decide_eq_true_eq] at hn
  have hvalid : n.isValidChar := by
    rcases alphabeticRanges_valid range hrange with hlow | ⟨hhigh, hend⟩
    · exact .inl (by omega)
    · exact .inr ⟨by omega, by omega⟩
  rw [Char.ofNat, dif_pos hvalid]
  rfl

theorem isAlphabetic_ofNat {n : Nat} (h : inRanges alphabeticRanges n = true) :
    isAlphabetic (Char.ofNat n) = true := by
  rw [isAlphabetic, toNat_ofNat_of_inRanges h, h]

/-! ## Runs of case mappings -/

/-- Whether a run maps its characters to letters: either its images all lie in one range, or every
single one of them is looked up. -/
def CaseRun.staysAlphabetic (run : CaseRun) : Bool :=
  inOneRange (run.first + run.shift).toNat (run.last + run.shift).toNat ||
  (List.range (run.last + 1 - run.first)).all fun i =>
    i % run.step != 0 ||
      inOneRange (run.first + i + run.shift).toNat (run.first + i + run.shift).toNat

theorem staysAlphabetic_runs : ∀ run ∈ upperRuns ++ lowerRuns, run.staysAlphabetic = true := by
  decide +kernel

theorem staysAlphabetic_upperRuns : ∀ run ∈ upperRuns, run.staysAlphabetic = true := fun run hrun =>
  staysAlphabetic_runs run (List.mem_append_left _ hrun)

theorem staysAlphabetic_lowerRuns : ∀ run ∈ lowerRuns, run.staysAlphabetic = true := fun run hrun =>
  staysAlphabetic_runs run (List.mem_append_right _ hrun)

theorem CaseRun.isAlphabetic_image {run : CaseRun} {n : Nat} (h : run.staysAlphabetic = true)
    (hcovers : run.covers n = true) :
    isAlphabetic (Char.ofNat (n + run.shift).toNat) = true := by
  simp only [CaseRun.covers, Bool.and_eq_true, decide_eq_true_eq, beq_iff_eq] at hcovers
  obtain ⟨⟨hlow, hhigh⟩, hstep⟩ := hcovers
  apply isAlphabetic_ofNat
  rw [staysAlphabetic, Bool.or_eq_true, List.all_eq_true] at h
  rcases h with hends | hpoints
  · exact inRanges_of_inOneRange hends (by omega) (by omega)
  · have hpoint := hpoints (n - run.first) (List.mem_range.mpr (by omega))
    rw [hstep, show (run.first : Int) + ((n - run.first : Nat) : Int) = n by omega] at hpoint
    exact inRanges_of_inOneRange (by simpa using hpoint) (Nat.le_refl _) (Nat.le_refl _)

/-- What is found in a table of expansions is a row of it. -/
theorem mem_of_lookup {expansions : List (Nat × List Nat)} {n : Nat} {points : List Nat}
    (h : expansions.lookup n = some points) : (n, points) ∈ expansions := by
  obtain ⟨before, after, hsplit, -⟩ := List.lookup_eq_some_iff.mp h
  rw [hsplit]
  exact List.mem_append_right _ List.mem_cons_self

/-- A character without an expansion is mapped to a letter, or to itself. -/
theorem mapCase_of_lookup_eq_none {expansions : List (Nat × List Nat)} {runs : List CaseRun}
    {c : Char} (hstays : ∀ run ∈ runs, run.staysAlphabetic = true)
    (hnone : expansions.lookup c.toNat = none) :
    ∃ d, mapCase expansions runs c = [d] ∧ (isAlphabetic d = true ∨ d = c) := by
  rw [mapCase, hnone]
  cases hfind : runs.find? (·.covers c.toNat) with
  | none => exact ⟨c, rfl, .inr rfl⟩
  | some run =>
    have hrun := hstays run (List.mem_of_find?_eq_some hfind)
    have hcovers : run.covers c.toNat = true := by simpa using List.find?_some hfind
    exact ⟨_, rfl, .inl (CaseRun.isAlphabetic_image hrun hcovers)⟩

theorem isIdentifierStart_of_isAlphabetic {c : Char} (h : isAlphabetic c = true) :
    isIdentifierStart c = true := by
  rw [isIdentifierStart, h, Bool.true_or, Bool.true_or]

/-! ## Upper case -/

/-- The letters whose upper-case form holds a mark that is no letter: with caron, diaeresis, breve,
line below, ring, tilde or breathing. -/
def markedInUpperCase : List Char :=
  [0x1F0, 0x390, 0x3B0, 0x1E96, 0x1E97, 0x1E98, 0x1E99, 0x1F50, 0x1F52, 0x1F54, 0x1F56, 0x1FB6,
   0x1FB7, 0x1FC6, 0x1FC7, 0x1FD2, 0x1FD3, 0x1FD6, 0x1FD7, 0x1FE2, 0x1FE3, 0x1FE4, 0x1FE6, 0x1FE7,
   0x1FF6, 0x1FF7].map Char.ofNat

/-- Whether a code point is a letter, as a range of its own. -/
def isLetterPoint (n : Nat) : Bool :=
  inOneRange n n

theorem isIdentifierPart_ofNat {n : Nat} (h : isLetterPoint n = true) :
    isIdentifierPart (Char.ofNat n) = true :=
  isIdentifierPart_of_start (isIdentifierStart_of_isAlphabetic
    (isAlphabetic_ofNat (inRanges_of_inOneRange h (Nat.le_refl n) (Nat.le_refl n))))

/-- Every expansion begins with a letter, and all of it are letters but behind a marked one. -/
theorem upperExpansions_letters :
    ∀ expansion ∈ upperExpansions, expansion.2.head?.any isLetterPoint = true ∧
      (Char.ofNat expansion.1 ∈ markedInUpperCase ∨ expansion.2.all isLetterPoint = true) := by
  decide +kernel

theorem upperExpansions_marked {expansion : Nat × List Nat} (hmem : expansion ∈ upperExpansions)
    (hplain : Char.ofNat expansion.1 ∉ markedInUpperCase) :
    (expansion.2.map Char.ofNat).all isIdentifierPart = true := by
  have hletters := (upperExpansions_letters expansion hmem).2.resolve_left hplain
  rw [List.all_map, List.all_eq_true]
  intro n hn
  exact isIdentifierPart_ofNat (List.all_eq_true.mp hletters n hn)

theorem upper_marked {c : Char} (hmarked : c ∈ markedInUpperCase) :
    (upper c).all isIdentifierPart = false := by
  have hall : markedInUpperCase.all (fun c => !(upper c).all isIdentifierPart) = true := by
    decide +kernel
  simpa using List.all_eq_true.mp hall c hmarked

/-- A character of an identifier may be put into upper case there unless it is one of the marked
letters. -/
theorem all_isIdentifierPart_upper_iff {c : Char} (h : isIdentifierPart c = true) :
    (upper c).all isIdentifierPart = true ↔ c ∉ markedInUpperCase := by
  constructor
  · intro hall hmarked
    rw [upper_marked hmarked] at hall
    cases hall
  · intro hplain
    cases hlookup : upperExpansions.lookup c.toNat with
    | some points =>
      have hall := upperExpansions_marked (mem_of_lookup hlookup) (by rwa [Char.ofNat_toNat])
      rw [upper, mapCase, hlookup]
      exact hall
    | none =>
      obtain ⟨d, hupper, hd⟩ := mapCase_of_lookup_eq_none staysAlphabetic_upperRuns hlookup
      have hpart : isIdentifierPart d = true := by
        rcases hd with hd | rfl
        · exact isIdentifierPart_of_start (isIdentifierStart_of_isAlphabetic hd)
        · exact h
      rw [upper, hupper, List.all_cons, hpart, List.all_nil, Bool.true_and]

/-- The upper-case form of a character of an identifier may have marks in it, but it begins with a
character of an identifier again. -/
theorem exists_upper_eq_cons {c : Char} (h : isIdentifierPart c = true) :
    ∃ d rest, upper c = d :: rest ∧ isIdentifierPart d = true := by
  cases hlookup : upperExpansions.lookup c.toNat with
  | some points =>
    have hhead := (upperExpansions_letters _ (mem_of_lookup hlookup)).1
    rw [Option.any_eq_true] at hhead
    obtain ⟨n, hn, hletter⟩ := hhead
    obtain ⟨rest, rfl⟩ := List.head?_eq_some_iff.mp hn
    rw [upper, mapCase, hlookup]
    exact ⟨Char.ofNat n, rest.map Char.ofNat, rfl, isIdentifierPart_ofNat hletter⟩
  | none =>
    obtain ⟨d, hupper, hd⟩ := mapCase_of_lookup_eq_none staysAlphabetic_upperRuns hlookup
    refine ⟨d, [], hupper, ?_⟩
    rcases hd with hd | rfl
    · exact isIdentifierPart_of_start (isIdentifierStart_of_isAlphabetic hd)
    · exact h

/-! ## Lower case -/

/-- The one letter whose lower-case form is more than a letter: a capital I with a dot above, which
becomes an i with the dot as a mark behind it. -/
def dotted : Char := 'İ'

theorem lower_dotted : lower dotted = ['i', '\u0307'] := by
  decide

theorem isIdentifierPart_dot : isIdentifierPart '\u0307' = false := by
  decide +kernel

/-- Every other character is put into lower case as a letter or as itself. -/
theorem lower_of_ne_dotted {c : Char} (hc : c ≠ dotted) :
    ∃ d, lower c = [d] ∧ (isAlphabetic d = true ∨ d = c) := by
  have hnone : lowerExpansions.lookup c.toNat = none := by
    have hne : c.toNat ≠ 0x130 := by
      intro hpoint
      apply hc
      rw [← Char.ofNat_toNat c, hpoint]
      rfl
    -- The table of expansions has a single row.
    rw [lowerExpansions, List.lookup_cons, beq_false_of_ne hne]
    rfl
  exact mapCase_of_lookup_eq_none staysAlphabetic_lowerRuns hnone

theorem lower_ne_nil (c : Char) : lower c ≠ [] := by
  by_cases hc : c = dotted
  · rw [hc, lower_dotted]
    exact List.cons_ne_nil _ _
  · obtain ⟨d, hlower, -⟩ := lower_of_ne_dotted hc
    rw [hlower]
    exact List.cons_ne_nil _ _

/-- Every other character that may begin an identifier is put into lower case as one that may. -/
theorem isIdentifierStart_lower {c : Char} (h : isIdentifierStart c = true) (hc : c ≠ dotted) :
    ∃ d, lower c = [d] ∧ isIdentifierStart d = true := by
  obtain ⟨d, hlower, hd⟩ := lower_of_ne_dotted hc
  refine ⟨d, hlower, ?_⟩
  rcases hd with hd | rfl
  · exact isIdentifierStart_of_isAlphabetic hd
  · exact h

end FetchClient.Text
