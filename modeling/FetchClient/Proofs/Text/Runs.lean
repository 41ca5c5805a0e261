import FetchClient.Proofs.Text.Lines

/-!
# Runs of a text

- `Text.runs_append_cons`: a separator parts the runs in front of it from those behind it;
- `Text.runs_intercalate`: runs with separators between them are found again;
- `Text.HasRuns`: what the runs of a text are, said of the text and not by way of its pieces;
- `Text.hasRuns_iff`: every text has runs in this sense, and they are the ones that are found;
- `Text.runs_eq_nil_iff`: there are none exactly in a text of separators.
-/

namespace FetchClient.Text

variable {separates : Char → Bool} {text gap rest : List Char}

/-! ## Runs that are found -/

theorem ne_nil_of_mem_runs {run : List Char} (h : run ∈ runs separates text) : run ≠ [] := by
  have hfull := (List.mem_filter.mp h).2
  simpa using hfull

theorem not_separates_of_mem_runs {run : List Char} (h : run ∈ runs separates text) :
    ∀ c ∈ run, separates c = false :=
  not_separates_of_mem_pieces (List.mem_filter.mp h).1

/-- A separator belongs to no run, and no run goes on behind it. -/
theorem runs_append_cons {c : Char} (text rest : List Char) (hc : separates c = true) :
    runs separates (text ++ c :: rest) = runs separates text ++ runs separates rest := by
  rw [runs, pieces_append_cons text rest hc, List.filter_append]
  rfl

theorem runs_cons_separator {c : Char} (rest : List Char) (hc : separates c = true) :
    runs separates (c :: rest) = runs separates rest :=
  runs_append_cons [] rest hc

/-- Separators in front of a text are in none of its runs. -/
theorem runs_append_of_separates (hgap : ∀ c ∈ gap, separates c = true) (rest : List Char) :
    runs separates (gap ++ rest) = runs separates rest := by
  induction gap with
  | nil => rfl
  | cons c gap ih =>
    rw [List.forall_mem_cons] at hgap
    rw [List.cons_append, runs_cons_separator _ hgap.1, ih hgap.2]

/-- A text without a separator is one run, unless it is empty. -/
theorem runs_of_not_separates (hne : text ≠ []) (h : ∀ c ∈ text, separates c = false) :
    runs separates text = [text] := by
  have hfull : text.isEmpty = false := by simpa using hne
  rw [runs, pieces_of_not_separates h, List.filter_singleton, hfull]
  rfl

/-- Runs with separators between them are found again. -/
theorem runs_intercalate {c : Char} {found : List (List Char)} (hc : separates c = true)
    (h : ∀ run ∈ found, run ≠ [] ∧ ∀ d ∈ run, separates d = false) :
    runs separates ([c].intercalate found) = found := by
  induction found with
  | nil => rfl
  | cons run found ih =>
    obtain ⟨⟨hne, hrun⟩, hfound⟩ := List.forall_mem_cons.mp h
    cases found with
    | nil => rw [List.intercalate_singleton, runs_of_not_separates hne hrun]
    | cons next others =>
      rw [List.intercalate_cons_cons, List.append_assoc, List.singleton_append,
        runs_append_cons _ _ hc, runs_of_not_separates hne hrun, ih hfound,
        List.singleton_append]

/-! ## What runs are -/

/-- The runs of a text, in order: stretches without a separator, each as long as it can be. -/
inductive HasRuns (separates : Char → Bool) : List Char → List (List Char) → Prop where
  /-- In separators alone there is no run. -/
  | none {gap : List Char} (hgap : ∀ c ∈ gap, separates c = true) : HasRuns separates gap []
  /-- Behind separators, or at once, a run begins; it ends at a separator or with the text. -/
  | run {gap run rest : List Char} {found : List (List Char)}
      (hgap : ∀ c ∈ gap, separates c = true) (hne : run ≠ [])
      (hrun : ∀ c ∈ run, separates c = false) (hend : ∀ c ∈ rest.head?, separates c = true)
      (hrest : HasRuns separates rest found) :
      HasRuns separates (gap ++ (run ++ rest)) (run :: found)

theorem HasRuns.eq_runs {found : List (List Char)} (h : HasRuns separates text found) :
    found = runs separates text := by
  induction h with
  | none hgap =>
    have hnone := runs_append_of_separates hgap []
    rw [List.append_nil] at hnone
    rw [hnone]
    rfl
  | @run gap run rest found hgap hne hrun hend _ ih =>
    rw [runs_append_of_separates hgap, ih]
    cases rest with
    | nil =>
      rw [List.append_nil, runs_of_not_separates hne hrun]
      rfl
    | cons c rest =>
      have hc : separates c = true := hend c rfl
      rw [runs_append_cons _ _ hc, runs_cons_separator _ hc, runs_of_not_separates hne hrun]
      rfl

/-- A text has runs: one more character in front goes into the first gap, or into the first run if
that begins at once, or is a run of its own. -/
theorem exists_hasRuns (separates : Char → Bool) (text : List Char) :
    ∃ found, HasRuns separates text found := by
  induction text with
  | nil => exact ⟨[], .none (List.forall_mem_nil _)⟩
  | cons c text ih =>
    obtain ⟨found, hfound⟩ := ih
    by_cases hc : separates c = true
    · cases hfound with
      | none hgap => exact ⟨[], .none (List.forall_mem_cons.mpr ⟨hc, hgap⟩)⟩
      | @run gap run rest found hgap hne hrun hend hrest =>
        have hlonger : ∀ d ∈ c :: gap, separates d = true := List.forall_mem_cons.mpr ⟨hc, hgap⟩
        exact ⟨_, .run hlonger hne hrun hend hrest⟩
    · have hinside : separates c = false := by simpa using hc
      have halone : ∀ d ∈ [c], separates d = false := by simpa using hinside
      have hbefore : ∀ d ∈ ([] : List Char), separates d = true := List.forall_mem_nil _
      cases hfound with
      | none hgap =>
        refine ⟨_, .run hbefore (List.cons_ne_nil c []) halone (fun d hd => ?_) (.none hgap)⟩
        exact hgap d (List.mem_of_mem_head? hd)
      | @run gap run rest found hgap hne hrun hend hrest =>
        cases gap with
        | nil =>
          -- The run begins at once, so it begins one character earlier now.
          exact ⟨_, .run hbefore (List.cons_ne_nil c run)
            (List.forall_mem_cons.mpr ⟨hinside, hrun⟩) hend hrest⟩
        | cons d gap =>
          have hd : separates d = true := hgap d List.mem_cons_self
          refine ⟨_, .run hbefore (List.cons_ne_nil c []) halone (fun e he => ?_)
            (.run hgap hne hrun hend hrest)⟩
          obtain rfl : d = e := Option.some.inj he
          exact hd

theorem hasRuns_iff {found : List (List Char)} :
    HasRuns separates text found ↔ found = runs separates text := by
  constructor
  · exact HasRuns.eq_runs
  · rintro rfl
    obtain ⟨found, hfound⟩ := exists_hasRuns separates text
    exact hfound.eq_runs ▸ hfound

theorem runs_eq_nil_iff : runs separates text = [] ↔ ∀ c ∈ text, separates c = true := by
  rw [eq_comm, ← hasRuns_iff]
  constructor
  · rintro ⟨hgap⟩
    exact hgap
  · exact .none

end FetchClient.Text
