import FetchClient.Proofs.Text.LetterCase
import FetchClient.Proofs.Text.Runs

/-!
# What sanitizing leaves of a text

- `identifierRuns`: the maximal stretches of identifier characters in a text;
- `sanitize_eq`: sanitizing joins these, each but the first with its first character in upper case;
- `fitsIdentifier`: the texts of which no letter gets a mark when it is put into another case;
- `isIdentifier_lowerFirst_sanitize`: exactly these become identifiers that begin in lower case;
- `sanitize_eq_self_iff`: a text is left as it is if it is an identifier or empty, and otherwise not.
-/

namespace FetchClient.Text

/-- The maximal stretches of identifier characters. -/
def identifierRuns (text : List Char) : List (List Char) :=
  runs (fun c => !isIdentifierPart c) text

/-- The joined runs, of which all but the first begin in upper case. -/
def joinRuns : List (List Char) → List Char
  | [] => []
  | first :: others => first ++ others.flatMap upperFirst

/-! ## The runs of a text -/

theorem isIdentifierPart_of_mem_identifierRuns {text run : List Char}
    (h : run ∈ identifierRuns text) : ∀ c ∈ run, isIdentifierPart c = true := by
  intro c hc
  simpa using not_separates_of_mem_runs h c hc

/-- What is kept of a text, by whether something was kept before and whether the last character was
dropped. Behind a kept character the first piece goes on as it is. -/
theorem keepParts_started (text first : List Char) (others : List (List Char))
    (h : pieces (fun c => !isIdentifierPart c) text = first :: others) :
    keepParts true false text = first ++ others.flatMap upperFirst ∧
    keepParts true true text = upperFirst first ++ others.flatMap upperFirst := by
  induction text generalizing first others with
  | nil =>
    rw [pieces_nil] at h
    obtain ⟨rfl, rfl⟩ := List.cons_eq_cons.mp h
    exact ⟨rfl, rfl⟩
  | cons c rest ih =>
    obtain ⟨piece, pieces', hrest⟩ := List.exists_cons_of_ne_nil
      (pieces_ne_nil (fun c => !isIdentifierPart c) rest)
    obtain ⟨hkept, hdropped⟩ := ih piece pieces' hrest
    -- A character that is kept lengthens the first piece, and one that is dropped ends it.
    by_cases hc : isIdentifierPart c = true
    · rw [pieces, if_neg (by simp [hc]), hrest] at h
      obtain ⟨rfl, rfl⟩ := List.cons_eq_cons.mp h
      simp only [keepParts, hc, if_true, Bool.and_false, Bool.and_true, hkept, upperFirst,
        List.append_assoc, List.cons_append, List.nil_append, and_self, Bool.false_eq_true,
        if_false]
    · rw [pieces_cons_separator rest (by simpa using hc), hrest] at h
      obtain ⟨rfl, rfl⟩ := List.cons_eq_cons.mp h
      simp only [keepParts, hc, if_false, hdropped, Bool.false_eq_true, List.flatMap_cons,
        upperFirst, List.nil_append, and_self]

/-- Empty pieces leave nothing behind. -/
theorem flatMap_upperFirst_filter (pieces : List (List Char)) :
    (pieces.filter (!·.isEmpty)).flatMap upperFirst = pieces.flatMap upperFirst := by
  induction pieces with
  | nil => rfl
  | cons piece pieces ih =>
    cases piece with
    | nil => simpa [upperFirst] using ih
    | cons c piece => simpa [upperFirst] using ih

theorem keepParts_eq_joinRuns (pending : Bool) (text : List Char) :
    keepParts false pending text = joinRuns (identifierRuns text) := by
  induction text generalizing pending with
  | nil => rfl
  | cons c rest ih =>
    by_cases hc : isIdentifierPart c = true
    · obtain ⟨piece, pieces', hrest⟩ := List.exists_cons_of_ne_nil
        (pieces_ne_nil (fun c => !isIdentifierPart c) rest)
      have hruns : identifierRuns (c :: rest) =
          (c :: piece) :: pieces'.filter (!·.isEmpty) := by
        rw [identifierRuns, runs, pieces, if_neg (by simp [hc]), hrest]
        rfl
      rw [hruns, joinRuns, flatMap_upperFirst_filter, keepParts, if_pos hc, Bool.false_and,
        (keepParts_started rest piece pieces' hrest).1]
      rfl
    · have hruns : identifierRuns (c :: rest) = identifierRuns rest := by
        rw [identifierRuns, runs, pieces_cons_separator rest (by simpa using hc)]
        rfl
      rw [hruns, keepParts, if_neg hc, ih]

/-- Sanitizing a text joins its runs and guards a digit at the beginning. -/
theorem sanitize_eq (text : List Char) :
    sanitize text = guardDigit (joinRuns (identifierRuns text)) := by
  rw [sanitize, keepParts_eq_joinRuns]

/-! ## When the result is an identifier -/

/-- Whether no letter gets a mark on the way to an identifier that begins in lower case: the first
run does not begin with the letter that lower case marks, and no other run begins with one that
upper case marks. -/
def fitsIdentifier (text : List Char) : Bool :=
  match identifierRuns text with
  | [] => true
  | first :: others =>
    first.head? != some dotted && others.all fun run => !run.head?.any markedInUpperCase.contains

theorem all_upperFirst {run : List Char} (hparts : ∀ c ∈ run, isIdentifierPart c = true) :
    (upperFirst run).all isIdentifierPart = !run.head?.any markedInUpperCase.contains := by
  cases run with
  | nil => rfl
  | cons c rest =>
    obtain ⟨hc, hrest⟩ := List.forall_mem_cons.mp hparts
    have hupper := all_isIdentifierPart_upper_iff hc
    rw [upperFirst, List.all_append, List.all_eq_true.mpr hrest, Bool.and_true, List.head?_cons,
      Option.any_some, Bool.eq_iff_iff, hupper]
    simp

theorem all_flatMap_upperFirst {others : List (List Char)}
    (hparts : ∀ run ∈ others, ∀ c ∈ run, isIdentifierPart c = true) :
    (others.flatMap upperFirst).all isIdentifierPart =
      others.all fun run => !run.head?.any markedInUpperCase.contains := by
  rw [List.all_flatMap, Bool.eq_iff_iff, List.all_eq_true, List.all_eq_true]
  refine forall₂_congr fun run hrun => ?_
  rw [all_upperFirst (hparts run hrun)]

theorem isIdentifierStart_of_part {c : Char} (h : isIdentifierPart c = true)
    (hdigit : c.isDigit = false) : isIdentifierStart c = true := by
  rw [isIdentifierPart, hdigit, Bool.or_false] at h
  exact h

/-- The first character of the joined runs decides how the identifier begins: a digit is guarded,
and any other character is put into lower case. -/
theorem isIdentifier_lowerFirst_guardDigit {c : Char} (tail : List Char)
    (hc : isIdentifierPart c = true) :
    isIdentifier (lowerFirst (guardDigit (c :: tail))) =
      (c != dotted && tail.all isIdentifierPart) := by
  by_cases hdigit : c.isDigit = true
  · have hne : c ≠ dotted := by
      rintro rfl
      revert hdigit
      decide
    -- The underscore in front of the digit has no lower case of its own.
    have hguard : lower '_' = ['_'] := by decide
    have hstart : isIdentifierStart '_' = true := by simp [isIdentifierStart]
    rw [guardDigit, if_pos hdigit, lowerFirst, hguard, List.singleton_append, isIdentifier, hstart,
      List.all_cons, hc, Bool.true_and, Bool.true_and, bne_iff_ne.mpr hne, Bool.true_and]
  · have hstart := isIdentifierStart_of_part hc (by simpa using hdigit)
    rw [guardDigit, if_neg hdigit, lowerFirst]
    by_cases hne : c = dotted
    · rw [hne, lower_dotted, List.cons_append, List.cons_append, isIdentifier, List.all_cons,
        isIdentifierPart_dot, Bool.false_and, Bool.and_false, bne_self_eq_false, Bool.false_and]
    · obtain ⟨d, hlower, hd⟩ := isIdentifierStart_lower hstart hne
      rw [hlower, List.singleton_append, isIdentifier, hd, Bool.true_and, bne_iff_ne.mpr hne,
        Bool.true_and]

theorem isIdentifier_lowerFirst_sanitize {text : List Char} (h : identifierRuns text ≠ []) :
    isIdentifier (lowerFirst (sanitize text)) = fitsIdentifier text := by
  obtain ⟨first, others, hruns⟩ := List.exists_cons_of_ne_nil h
  have hmem : ∀ run ∈ first :: others, run ∈ identifierRuns text := by
    rw [hruns]
    exact fun _ hrun => hrun
  obtain ⟨c, rest, rfl⟩ := List.exists_cons_of_ne_nil
    (ne_nil_of_mem_runs (hmem first List.mem_cons_self))
  have hfirst := isIdentifierPart_of_mem_identifierRuns (hmem _ List.mem_cons_self)
  obtain ⟨hc, hrest⟩ := List.forall_mem_cons.mp hfirst
  have hothers : ∀ run ∈ others, ∀ c ∈ run, isIdentifierPart c = true := fun run hrun =>
    isIdentifierPart_of_mem_identifierRuns (hmem run (List.mem_cons_of_mem _ hrun))
  rw [sanitize_eq, hruns, joinRuns, List.cons_append, isIdentifier_lowerFirst_guardDigit _ hc,
    List.all_append, List.all_eq_true.mpr hrest, Bool.true_and, all_flatMap_upperFirst hothers,
    fitsIdentifier, hruns]
  rfl

theorem lowerFirst_eq_nil_iff {text : List Char} : lowerFirst text = [] ↔ text = [] := by
  cases text with
  | nil => exact Iff.rfl
  | cons c rest =>
    refine ⟨fun h => absurd (List.append_eq_nil_iff.mp h).1 (lower_ne_nil c), fun h => ?_⟩
    exact absurd h (List.cons_ne_nil _ _)

theorem guardDigit_eq_nil_iff {text : List Char} : guardDigit text = [] ↔ text = [] := by
  cases text with
  | nil => exact Iff.rfl
  | cons c rest =>
    rw [guardDigit]
    split <;> simp

/-- Nothing is left exactly of the texts without identifier characters. -/
theorem lowerFirst_sanitize_eq_nil_iff {text : List Char} :
    lowerFirst (sanitize text) = [] ↔ identifierRuns text = [] := by
  rw [lowerFirst_eq_nil_iff, sanitize_eq, guardDigit_eq_nil_iff]
  cases hruns : identifierRuns text with
  | nil => exact iff_of_true rfl rfl
  | cons first others =>
    have hmem : first ∈ identifierRuns text := by
      rw [hruns]
      exact List.mem_cons_self
    have hfirst : first ≠ [] := ne_nil_of_mem_runs hmem
    rw [joinRuns, List.append_eq_nil_iff]
    exact iff_of_false (fun h => hfirst h.1) (List.cons_ne_nil _ _)

/-! ## Identifiers -/

theorem all_isIdentifierPart_of_isIdentifier {text : List Char} (h : isIdentifier text = true) :
    text.all isIdentifierPart = true := by
  cases text with
  | nil => rfl
  | cons c rest =>
    rw [isIdentifier, Bool.and_eq_true] at h
    rw [List.all_cons, isIdentifierPart_of_start h.1, h.2, Bool.and_self]

/-- What follows an identifier need not be one to make a longer one with it. -/
theorem isIdentifier_append {text : List Char} (hne : text ≠ []) (more : List Char) :
    isIdentifier (text ++ more) = (isIdentifier text && more.all isIdentifierPart) := by
  cases text with
  | nil => exact absurd rfl hne
  | cons c rest =>
    rw [List.cons_append, isIdentifier, isIdentifier, List.all_append, Bool.and_assoc]

/-! ## What is left as it is -/

theorem isDigit_eq_false_of_start {c : Char} (h : isIdentifierStart c = true) : c.isDigit = false := by
  by_contra hdigit
  rw [Bool.not_eq_false, Char.isDigit, Bool.and_eq_true, decide_eq_true_eq, decide_eq_true_eq]
    at hdigit
  have hpoint : c.toNat ∈ List.range' 48 10 := by
    have hlow : 48 ≤ c.toNat := hdigit.1
    have hhigh : c.toNat ≤ 57 := hdigit.2
    rw [List.mem_range'_1]
    omega
  have hnone : ∀ n ∈ List.range' 48 10, isIdentifierStart (Char.ofNat n) = false := by
    decide +kernel
  have hc := hnone c.toNat hpoint
  rw [Char.ofNat_toNat, h] at hc
  cases hc

/-- Nothing is dropped from identifier characters, and nothing is put into upper case. -/
theorem keepParts_of_all {text : List Char} (started : Bool)
    (h : text.all isIdentifierPart = true) : keepParts started false text = text := by
  induction text generalizing started with
  | nil => rfl
  | cons c rest ih =>
    rw [List.all_cons, Bool.and_eq_true] at h
    rw [keepParts, if_pos h.1, Bool.and_false, ih true h.2]
    rfl

/-- What is kept begins with a character of an identifier, in whatever case. -/
theorem isIdentifierPart_of_head_keepParts {started pending : Bool} {text rest : List Char}
    {c : Char} (h : keepParts started pending text = c :: rest) : isIdentifierPart c = true := by
  induction text generalizing started pending with
  | nil => cases h
  | cons d text ih =>
    rw [keepParts] at h
    by_cases hd : isIdentifierPart d = true
    · rw [if_pos hd] at h
      split at h
      · obtain ⟨e, marks, hupper, he⟩ := exists_upper_eq_cons hd
        rw [hupper, List.cons_append] at h
        obtain ⟨rfl, -⟩ := List.cons_eq_cons.mp h
        exact he
      · obtain ⟨rfl, -⟩ := List.cons_eq_cons.mp h
        exact hd
    · rw [if_neg hd] at h
      exact ih h

/-- Once something is dropped, the texts differ at that place: what is kept goes on with a character
of an identifier there, or ends. -/
theorem all_of_keepParts_eq {started : Bool} {text : List Char}
    (h : keepParts started false text = text) : text.all isIdentifierPart = true := by
  induction text generalizing started with
  | nil => rfl
  | cons c rest ih =>
    by_cases hc : isIdentifierPart c = true
    · rw [keepParts, if_pos hc, Bool.and_false] at h
      rw [List.all_cons, hc, ih (List.cons_eq_cons.mp h).2, Bool.and_self]
    · rw [keepParts, if_neg hc] at h
      exact absurd (isIdentifierPart_of_head_keepParts h) hc

theorem sanitize_of_isIdentifier {text : List Char} (h : isIdentifier text = true) :
    sanitize text = text := by
  have hparts := all_isIdentifierPart_of_isIdentifier h
  cases text with
  | nil => cases h
  | cons c rest =>
    rw [isIdentifier, Bool.and_eq_true] at h
    rw [sanitize, keepParts_of_all false hparts, guardDigit, isDigit_eq_false_of_start h.1]
    rfl

theorem isIdentifier_of_sanitize_eq {c : Char} {rest : List Char}
    (h : sanitize (c :: rest) = c :: rest) : isIdentifier (c :: rest) = true := by
  -- No digit was guarded: the text would begin with the guard, and what is kept of it too.
  have hkept : keepParts false false (c :: rest) = c :: rest ∧ c.isDigit = false := by
    rw [sanitize] at h
    cases hparts : keepParts false false (c :: rest) with
    | nil =>
      rw [hparts] at h
      cases h
    | cons d others =>
      rw [hparts, guardDigit] at h
      split at h
      · next hdigit =>
        obtain ⟨rfl, rfl⟩ := List.cons_eq_cons.mp h
        have hguard : isIdentifierPart '_' = true := by simp [isIdentifierPart, isIdentifierStart]
        rw [keepParts, if_pos hguard, Bool.and_false] at hparts
        obtain ⟨rfl, -⟩ := List.cons_eq_cons.mp hparts
        exact absurd hdigit (by decide)
      · next hdigit =>
        obtain ⟨rfl, rfl⟩ := List.cons_eq_cons.mp h
        exact ⟨rfl, by simpa using hdigit⟩
  have hparts := all_of_keepParts_eq hkept.1
  rw [List.all_cons, Bool.and_eq_true] at hparts
  rw [isIdentifier, isIdentifierStart_of_part hparts.1 hkept.2, hparts.2, Bool.and_self]

theorem sanitize_eq_self_iff {text : List Char} :
    sanitize text = text ↔ text = [] ∨ isIdentifier text = true := by
  constructor
  · intro h
    cases text with
    | nil => exact .inl rfl
    | cons c rest => exact .inr (isIdentifier_of_sanitize_eq h)
  · rintro (rfl | h)
    · rfl
    · exact sanitize_of_isIdentifier h

/-- **Sanitizing**: a text has certain runs of identifier characters and no others. The first of them
is kept as it is, each later one is put behind with its first character in upper case, and an
underscore goes in front exactly if the result begins with a digit. So identifiers and the empty text
stay as they are, and no other text does. -/
theorem sanitize_joins_runs (text : List Char) :
    (∃ found : List (List Char),
      (∀ other, HasRuns (fun c => !isIdentifierPart c) text other ↔ other = found) ∧
      sanitize text =
        (if (joinRuns found).head?.any Char.isDigit then ['_'] else []) ++ joinRuns found) ∧
    (sanitize text = text ↔ text = [] ∨ isIdentifier text = true) := by
  refine ⟨⟨identifierRuns text, fun other => hasRuns_iff, ?_⟩, sanitize_eq_self_iff⟩
  rw [sanitize_eq]
  cases joinRuns (identifierRuns text) with
  | nil => rfl
  | cons c rest =>
    rw [guardDigit, List.head?_cons, Option.any_some]
    split <;> rfl

example : sanitize "--2-fa".toList = "_2Fa".toList := by
  decide +kernel

end FetchClient.Text
