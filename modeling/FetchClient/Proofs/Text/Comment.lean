import FetchClient.Proofs.Text.Runs
import FetchClient.Text.Comment

/-!
# Text in a comment

- `Text.Comment.Unterminated`: no `*/` in a text, and when two such texts give one together;
- `Text.Comment.isCommentLine_line`: what stands in a comment is words with one space between two of
  them and without a `*/`;
- `Text.Comment.IsCommentLine.line_eq`: a text that is so already stands there as it is;
- `Text.Comment.line_eq_nil_iff`: nothing stands there for blanks alone;
- `Text.Comment.isOneLine_line`: it stays on one line;
- `Text.Comment.FirstAt`: where a pattern stands first, as the terminator behind such a text does.
-/

namespace FetchClient.Text.Comment

variable {c : Char} {text rest : List Char}

theorem isBlank_newline : isBlank '\n' = true := by
  decide

theorem isBlank_space : isBlank ' ' = true := by
  decide

/-! ## Terminators -/

/-- The two characters that end a comment. -/
def terminator : List Char :=
  ['*', '/']

/-- No comment ends in the text. -/
def Unterminated (text : List Char) : Prop :=
  ¬ terminator <:+: text

theorem unterminated_nil : Unterminated [] := by
  rw [Unterminated, List.infix_nil]
  exact List.cons_ne_nil _ _

theorem unterminated_cons :
    Unterminated (c :: text) ↔ (c = '*' → text.head? ≠ some '/') ∧ Unterminated text := by
  rw [Unterminated, Unterminated, List.infix_cons_iff, not_or, terminator, List.cons_prefix_cons,
    List.singleton_prefix_iff_head?_eq_some, not_and, eq_comm]

/-- Two texts together may be terminated at their seam only. -/
theorem unterminated_append (h : Unterminated text) (hrest : Unterminated rest)
    (hseam : text.getLast? ≠ some '*' ∨ rest.head? ≠ some '/') : Unterminated (text ++ rest) := by
  induction text with
  | nil => exact hrest
  | cons c text ih =>
    obtain ⟨hc, htext⟩ := unterminated_cons.mp h
    cases text with
    | nil =>
      -- Only the last character of the first text stands at the seam.
      refine unterminated_cons.mpr ⟨fun hstar => ?_, hrest⟩
      subst hstar
      exact hseam.resolve_left (absurd rfl)
    | cons d text =>
      rw [List.getLast?_cons_cons] at hseam
      exact unterminated_cons.mpr ⟨hc, ih htext hseam⟩

theorem partTerminators_cons (h : c = '*' → text.head? ≠ some '/') :
    partTerminators (c :: text) = c :: partTerminators text := by
  rw [partTerminators]
  rintro rest rfl rfl
  exact h rfl rfl

theorem head?_partTerminators (text : List Char) : (partTerminators text).head? = text.head? := by
  fun_cases partTerminators text <;> rfl

theorem partTerminators_eq_nil_iff : partTerminators text = [] ↔ text = [] := by
  rw [← List.head?_eq_none_iff, head?_partTerminators, List.head?_eq_none_iff]

theorem unterminated_partTerminators (text : List Char) : Unterminated (partTerminators text) := by
  fun_induction partTerminators text with
  | case1 rest ih =>
    have hslash : Unterminated ('/' :: partTerminators rest) :=
      unterminated_cons.mpr ⟨(absurd · (by decide)), ih⟩
    have hspace : Unterminated (' ' :: '/' :: partTerminators rest) :=
      unterminated_cons.mpr ⟨(absurd · (by decide)), hslash⟩
    exact unterminated_cons.mpr ⟨fun _ => by simp, hspace⟩
  | case2 c rest hparted ih =>
    refine unterminated_cons.mpr ⟨?_, ih⟩
    rintro rfl
    rw [head?_partTerminators]
    intro hslash
    obtain ⟨tail, rfl⟩ := List.head?_eq_some_iff.mp hslash
    exact hparted tail rfl rfl
  | case3 => exact unterminated_nil

theorem partTerminators_of_unterminated (h : Unterminated text) : partTerminators text = text := by
  induction text with
  | nil => rfl
  | cons c text ih =>
    obtain ⟨hc, htext⟩ := unterminated_cons.mp h
    rw [partTerminators_cons hc, ih htext]

/-- Where there is nothing to part, there is no terminator, and only there. -/
theorem partTerminators_eq_self_iff : partTerminators text = text ↔ Unterminated text := by
  constructor
  · intro h
    rw [← h]
    exact unterminated_partTerminators text
  · exact partTerminators_of_unterminated

instance (text : List Char) : Decidable (Unterminated text) :=
  decidable_of_iff _ partTerminators_eq_self_iff

/-- No terminator goes across a space. -/
theorem partTerminators_append_space (text rest : List Char) :
    partTerminators (text ++ ' ' :: rest) =
      partTerminators text ++ ' ' :: partTerminators rest := by
  fun_induction partTerminators text with
  | case1 text ih => rw [List.cons_append, List.cons_append, partTerminators, ih]; rfl
  | case2 c text hparted ih =>
    rw [List.cons_append, partTerminators_cons, ih, List.cons_append]
    rintro rfl hslash
    cases text with
    | nil => exact absurd hslash (by simp)
    | cons d text =>
      obtain rfl : d = '/' := Option.some.inj hslash
      exact hparted text rfl rfl
  | case3 => exact partTerminators_cons (absurd · (by decide))

/-! ## Words with spaces between them -/

/-- Words, one space between two of them: no other blanks, and none at either end. -/
def IsSpaced (text : List Char) : Prop :=
  ∃ found, (∀ word ∈ found, word ≠ [] ∧ ∀ c ∈ word, isBlank c = false) ∧
    text = [' '].intercalate found

/-- Every blank in a spaced text is a space. -/
theorem IsSpaced.eq_space (h : IsSpaced text) (hc : c ∈ text) (hblank : isBlank c = true) :
    c = ' ' := by
  obtain ⟨found, hfound, rfl⟩ := h
  induction found with
  | nil => cases hc
  | cons word others ih =>
    obtain ⟨⟨-, hword⟩, hothers⟩ := List.forall_mem_cons.mp hfound
    have houtside : c ∉ word := fun hinside => by simp [hword c hinside] at hblank
    cases others with
    | nil =>
      rw [List.intercalate_singleton] at hc
      exact absurd hc houtside
    | cons next others =>
      rw [List.intercalate_cons_cons, List.mem_append, List.mem_append, List.mem_singleton] at hc
      rcases hc with (hinside | hspace) | hbehind
      · exact absurd hinside houtside
      · exact hspace
      · exact ih hothers hbehind

/-- Spaced words are the words of the text. -/
theorem IsSpaced.intercalate_words (h : IsSpaced text) : [' '].intercalate (words text) = text := by
  obtain ⟨found, hfound, rfl⟩ := h
  rw [words, runs_intercalate isBlank_space hfound]

theorem isSpaced_nil : IsSpaced [] :=
  ⟨[], List.forall_mem_nil _, rfl⟩

theorem isSpaced_singleton (hc : isBlank c = false) : IsSpaced [c] :=
  ⟨[[c]], by simpa using hc, rfl⟩

/-- A character in front goes into the first word. -/
theorem IsSpaced.cons (hc : isBlank c = false) (h : IsSpaced text) : IsSpaced (c :: text) := by
  obtain ⟨found, hfound, rfl⟩ := h
  cases found with
  | nil => exact isSpaced_singleton hc
  | cons word others =>
    obtain ⟨⟨-, hword⟩, hothers⟩ := List.forall_mem_cons.mp hfound
    have hlonger : ∀ d ∈ c :: word, isBlank d = false := List.forall_mem_cons.mpr ⟨hc, hword⟩
    exact ⟨(c :: word) :: others,
      List.forall_mem_cons.mpr ⟨⟨List.cons_ne_nil c word, hlonger⟩, hothers⟩,
      (intercalate_cons _ c word others).symm⟩

/-- Two spaced texts, neither of them empty, have a space between them. -/
theorem IsSpaced.append_space (h : IsSpaced text) (hne : text ≠ []) (hrest : IsSpaced rest)
    (hrestne : rest ≠ []) : IsSpaced (text ++ ' ' :: rest) := by
  obtain ⟨found, hfound, rfl⟩ := h
  obtain ⟨others, hothers, rfl⟩ := hrest
  refine ⟨found ++ others, List.forall_mem_append.mpr ⟨hfound, hothers⟩, ?_⟩
  have hfoundne : found ≠ [] := by
    rintro rfl
    exact hne rfl
  have hothersne : others ≠ [] := by
    rintro rfl
    exact hrestne rfl
  rw [intercalate_append ' ' hfoundne hothersne]

/-- Parting the terminators of a word makes words of it. -/
theorem isSpaced_partTerminators_word (h : ∀ c ∈ text, isBlank c = false) :
    IsSpaced (partTerminators text) := by
  fun_induction partTerminators text with
  | case1 rest ih =>
    -- The star is a word of its own here, and the slash goes into the first word of the rest.
    have hrest : ∀ c ∈ rest, isBlank c = false := fun c hc => h c (by simp [hc])
    exact (isSpaced_singleton (by decide)).append_space (List.cons_ne_nil _ _)
      ((ih hrest).cons (by decide)) (List.cons_ne_nil _ _)
  | case2 c rest _ ih =>
    obtain ⟨hc, hrest⟩ := List.forall_mem_cons.mp h
    exact (ih hrest).cons hc
  | case3 => exact isSpaced_nil

theorem IsSpaced.partTerminators (h : IsSpaced text) : IsSpaced (partTerminators text) := by
  obtain ⟨found, hfound, rfl⟩ := h
  induction found with
  | nil => exact isSpaced_nil
  | cons word others ih =>
    obtain ⟨⟨hne, hword⟩, hothers⟩ := List.forall_mem_cons.mp hfound
    have hfirst := isSpaced_partTerminators_word hword
    cases others with
    | nil => rwa [List.intercalate_singleton]
    | cons next others =>
      -- No terminator goes across the space behind the first word, so both sides are parted apart.
      have hnext : [' '].intercalate (next :: others) ≠ [] :=
        intercalate_ne_nil _ others (hothers next List.mem_cons_self).1
      rw [List.intercalate_cons_cons, List.append_assoc, List.singleton_append,
        partTerminators_append_space]
      exact hfirst.append_space (partTerminators_eq_nil_iff.not.mpr hne) (ih hothers)
        (partTerminators_eq_nil_iff.not.mpr hnext)

/-! ## The line of a text -/

/-- A text as it may stand in a comment. -/
structure IsCommentLine (text : List Char) : Prop where
  spaced : IsSpaced text
  unterminated : Unterminated text

theorem isSpaced_intercalate_words (text : List Char) :
    IsSpaced ([' '].intercalate (words text)) :=
  ⟨words text, fun _ hword => ⟨ne_nil_of_mem_runs hword, not_separates_of_mem_runs hword⟩, rfl⟩

theorem isCommentLine_line (text : List Char) : IsCommentLine (line text) where
  spaced := (isSpaced_intercalate_words text).partTerminators
  unterminated := unterminated_partTerminators _

/-- What may stand in a comment stays as it is. -/
theorem IsCommentLine.line_eq (h : IsCommentLine text) : line text = text := by
  rw [line, h.spaced.intercalate_words, partTerminators_of_unterminated h.unterminated]

/-- Of blanks alone nothing is left. -/
theorem line_eq_nil_iff : line text = [] ↔ ∀ c ∈ text, isBlank c = true := by
  rw [line, partTerminators_eq_nil_iff, ← runs_eq_nil_iff, ← words]
  constructor
  · intro h
    by_contra hne
    obtain ⟨word, others, hwords⟩ := List.exists_cons_of_ne_nil hne
    have hword : word ∈ words text := hwords ▸ List.mem_cons_self
    rw [hwords] at h
    exact intercalate_ne_nil _ others (ne_nil_of_mem_runs hword) h
  · intro h
    rw [h]
    rfl

theorem isOneLine_line (text : List Char) : IsOneLine (String.ofList (line text)) := by
  intro hbreak
  rw [String.toList_ofList] at hbreak
  exact absurd ((isCommentLine_line text).spaced.eq_space hbreak isBlank_newline) (by decide)

/-! ## Where a pattern stands first -/

/-- The pattern stands in the text behind `before` and in front of `behind`, and nowhere earlier. -/
structure FirstAt (pattern before behind text : String) : Prop where
  split : text = before ++ (pattern ++ behind)
  first : ∀ other rest, text = other ++ (pattern ++ rest) → before.length ≤ other.length

/-- A terminator is the first one if the text in front of it is unterminated, its star included. -/
theorem firstAt_terminator {before : String} (h : Unterminated (before.toList ++ ['*']))
    (behind : String) : FirstAt "*/" before behind (before ++ ("*/" ++ behind)) where
  split := rfl
  first := by
    intro other rest hother
    by_contra hearlier
    rw [Nat.not_le, ← String.length_toList, ← String.length_toList] at hearlier
    have hprefix : before.toList ++ ['*'] <+: (before ++ ("*/" ++ behind)).toList :=
      ⟨'/' :: behind.toList, by simp⟩
    have hfound : other.toList ++ terminator <+: (before ++ ("*/" ++ behind)).toList :=
      ⟨rest.toList, by simp [hother, terminator]⟩
    -- An earlier terminator ends with the star of this one, or before it.
    have hlength : (other.toList ++ terminator).length ≤ (before.toList ++ ['*']).length := by
      rw [List.length_append, List.length_append]
      exact Nat.add_le_add_right hearlier 1
    have hinside := List.prefix_of_prefix_length_le hfound hprefix hlength
    exact h ((List.suffix_append other.toList terminator).isInfix.trans hinside.isInfix)

end FetchClient.Text.Comment
