import FetchClient.Proofs.Yaml.Gaps

/-!
# Texts written without quotes are read back

- `plainStretch?_append`: the stretches between the gaps;
- `IsPlain`: the texts that no punctuation ends;
- `plainScalar?_line`, `plainScalar?_key`: such a text on a line, and a key in front of its colon.
-/

namespace FetchClient.Yaml.Lexeme

variable {cursor : Cursor} {rest : List Char}

/-! ## Stretches -/

/-- A colon ends a plain scalar only in front of a gap. -/
def NoColon (c d : Char) : Prop :=
  c = ':' → isGap d = false

theorem plainStretch?_append {stretch : List Char} (hsolid : ∀ c ∈ stretch, isGap c = false)
    {c : Char} (hcolon : (stretch ++ [c]).IsChain NoColon)
    (hend : plainStretch? false (c :: rest) = some []) :
    plainStretch? false (stretch ++ c :: rest) = some stretch := by
  induction stretch with
  | nil => exact hend
  | cons d stretch ih =>
    obtain ⟨hd, hothers⟩ := List.forall_mem_cons.mp hsolid
    obtain ⟨e, more, hbehind, hde⟩ : ∃ e more, stretch ++ c :: rest = e :: more ∧ NoColon d e := by
      cases stretch with
      | nil => exact ⟨c, rest, rfl, (List.isChain_cons_cons.mp hcolon).1⟩
      | cons e stretch => exact ⟨e, _, rfl, (List.isChain_cons_cons.mp hcolon).1⟩
    have hopen : (d == ':' && isGap e) = false := by
      rw [Bool.and_eq_false_imp, beq_iff_eq]
      exact hde
    rw [List.cons_append, plainStretch?, ih hothers hcolon.of_cons, hbehind]
    simp only [isGap] at hd hopen
    simp [hd, hopen]

theorem plainStretch?_gap {c : Char} (hc : isGap c = true) :
    plainStretch? false (c :: rest) = some [] := by
  rw [plainStretch?]
  exact if_pos hc

theorem plainStretch?_colon : plainStretch? false (':' :: ' ' :: rest) = some [] := by
  rfl

/-! ## Keys -/

/-- A word in front of a colon is read as a scalar. -/
theorem plainScalar?_key {key : List Char} (hne : key ≠ []) (hsolid : ∀ c ∈ key, isGap c = false)
    (hcolon : ':' ∉ key) (hmark : cursor.seesDocumentMark = false) (hcomment : cursor.sees '#' 0 = false)
    (hrest : cursor.rest = key ++ ':' :: ' ' :: rest) (indent : Int) :
    plainScalar? false indent cursor =
      some (.scalar .plain (String.ofList key), cursor.skip key.length, false) := by
  have hstretch : plainStretch? false cursor.rest = some key := by
    rw [hrest]
    have hnot : ∀ c ∈ key, ∀ d, NoColon c d := by
      rintro c hc d rfl
      exact absurd hc hcolon
    have hchain : key.IsChain NoColon :=
      (List.pairwise_of_forall_mem_list fun c hc d _ => hnot c hc d).isChain
    refine plainStretch?_append hsolid (List.isChain_append.mpr ⟨hchain, .singleton _, ?_⟩)
      plainStretch?_colon
    exact fun c hc d _ => hnot c (List.mem_of_mem_getLast? hc) d
  have hbehind : (cursor.skip key.length).rest = ':' :: ' ' :: rest :=
    Cursor.rest_skip hrest
  have hend : (cursor.skip key.length).seesGap 0 = false := by
    simp [Cursor.seesGap, Cursor.peek, hbehind, isBlank, isBreak]
  simp [plainScalar?, plainStretches?, hmark, hcomment, hstretch, hend, hne, Gap.none, Gap.folded]

/-! ## Lines -/

/-- The texts that are read from a line without quotes. -/
structure IsUnquoted (text : List Char) : Prop where
  ne_nil : text ≠ []
  /-- All gaps are spaces. -/
  spaces : ∀ c ∈ text, isGap c = true → c = ' '
  first : ∀ c ∈ text.head?, c ≠ ' ' ∧ c ≠ '#'
  last : ∀ c ∈ text.getLast?, c ≠ ' '
  noColon : (text ++ ['\n']).IsChain NoColon
  noComment : text.IsChain fun c d => isGap c = true → d ≠ '#'

/-- The characters that no plain scalar begins with. -/
def indicators : List Char :=
  ['#', ',', '[', ']', '{', '}', '&', '*', '!', '|', '>', '\'', '"', '%', '@', '\x60']

section Admits

variable {text : List Char} (h : Style.plain.admits text = true)
include h

theorem IsUnquoted.of_admits : IsUnquoted text := by
  simp only [Style.admits, hasPunctuation, Bool.and_eq_true, Bool.not_eq_true',
    Bool.or_eq_false_iff, hasPair_eq_false_iff, and_assoc, bne_iff_ne, beq_eq_false_iff_ne] at h
  obtain ⟨hne, hprint, hbreak, -, -, hfirst, -, -, hcolon, hlast, hcomment, hspace, hend⟩ := h
  constructor
  case ne_nil => simpa using hne
  case spaces =>
    intro c hc hgap
    have hsolid : isBreak c = false := by simpa using List.any_eq_false.mp hbreak c hc
    have htab : c ≠ '\t' := by
      rintro rfl
      cases List.all_eq_true.mp hprint _ hc
    simpa [isGap, hsolid, isBlank, htab] using hgap
  case first =>
    refine fun c hc => ⟨?_, ?_⟩
    · rintro rfl
      exact hspace hc
    · rintro rfl
      rw [Option.mem_def.mp hc] at hfirst
      cases hfirst
  case last =>
    rintro c hc rfl
    exact hend hc
  case noColon =>
    refine List.isChain_append.mpr ⟨?_, .singleton _, ?_⟩
    · exact hcolon.imp fun _ _ hcd hc => hcd (beq_iff_eq.mpr hc)
    · rintro c hc d - rfl
      exact absurd hc hlast
  case noComment => exact hcomment

/-- A text without quotes begins as a plain scalar may begin. -/
theorem exists_cons_of_admits :
    ∃ c more, text = c :: more ∧ c ∉ indicators ∧
      (c ∈ ['-', '?', ':'] → ∃ d ∈ more.head?, isGap d = false) := by
  have hchain := (IsUnquoted.of_admits h).noColon
  obtain ⟨c, more, rfl⟩ := List.exists_cons_of_ne_nil (IsUnquoted.of_admits h).ne_nil
  simp only [Style.admits, hasPunctuation, Bool.and_eq_true, Bool.not_eq_true',
    Bool.or_eq_false_iff, and_assoc] at h
  obtain ⟨-, -, -, -, -, hfirst, hdash, hquestion, -⟩ := h
  refine ⟨c, more, rfl, ?_, fun hc => ?_⟩
  · simpa [indicators, and_assoc] using hfirst
  · simp only [List.mem_cons, List.not_mem_nil, or_false] at hc
    obtain rfl | rfl | rfl := hc
    · simpa [startsAlone, Option.all_eq_false] using hdash
    · simpa [startsAlone, Option.all_eq_false] using hquestion
    · cases more with
      | nil => cases (List.isChain_cons_cons.mp hchain).1 rfl
      | cons d more => exact ⟨d, rfl, (List.isChain_cons_cons.mp hchain).1 rfl⟩

end Admits

/-- Behind the first gap there is a text without quotes again. -/
theorem IsUnquoted.of_append {stretch gap text : List Char} (hne : gap ≠ [])
    (hgap : ∀ c ∈ gap, isGap c = true) (htext : ∀ c ∈ text.head?, isGap c = false)
    (h : IsUnquoted (stretch ++ (gap ++ text))) : IsUnquoted text where
  ne_nil := by
    rintro rfl
    obtain ⟨c, hc⟩ := Option.isSome_iff_exists.mp (List.getLast?_isSome.mpr hne)
    refine h.last c ?_ (h.spaces c ?_ (hgap c (List.mem_of_mem_getLast? hc)))
    · rw [List.append_nil, List.getLast?_append, hc]
      rfl
    · simp [List.mem_of_mem_getLast? hc]
  spaces := fun c hc => h.spaces c (by simp [hc])
  first := by
    intro c hc
    have hsolid := htext c hc
    constructor
    · rintro rfl
      cases hsolid
    · obtain ⟨d, hd⟩ := Option.isSome_iff_exists.mp (List.getLast?_isSome.mpr hne)
      exact (List.isChain_append.mp h.noComment.right_of_append).2.2 d hd c hc
        (hgap d (List.mem_of_mem_getLast? hd))
  last := by
    intro c hc
    refine h.last c ?_
    rw [List.getLast?_append, List.getLast?_append, hc]
    rfl
  noColon := by
    have hchain := h.noColon
    rw [List.append_assoc, List.append_assoc] at hchain
    exact hchain.right_of_append.right_of_append
  noComment := h.noComment.right_of_append.right_of_append

/-- The first stretch is read up to the gap behind it. -/
theorem IsUnquoted.plainStretch? {stretch spaces text : List Char}
    (h : IsUnquoted (stretch ++ (spaces ++ text))) (hstretch : ∀ c ∈ stretch, isGap c = false)
    (hspaces : ∀ c ∈ spaces, isGap c = true) (hempty : spaces = [] → text = []) (rest : List Char) :
    stretch ≠ [] ∧
      Lexeme.plainStretch? false (stretch ++ (spaces ++ text) ++ '\n' :: rest) = some stretch := by
  have hcolon := h.noColon
  have hfirst := h.first
  have hne := h.ne_nil
  cases spaces with
  | nil =>
    obtain rfl := hempty rfl
    simp only [List.append_nil] at hcolon hne ⊢
    exact ⟨hne, plainStretch?_append hstretch hcolon (plainStretch?_gap rfl)⟩
  | cons c spaces =>
    have hc := hspaces c List.mem_cons_self
    refine ⟨?_, ?_⟩
    · rintro rfl
      exact (hfirst c rfl).1 (h.spaces c (by simp) hc)
    · rw [List.cons_append, List.append_assoc, List.cons_append]
      refine plainStretch?_append hstretch ?_ (plainStretch?_gap hc)
      rw [List.cons_append, List.append_cons stretch c] at hcolon
      exact hcolon.left_of_append.left_of_append

/-- One stretch with the gap behind it, where a line that is not indented ends the scalar. -/
theorem plainStretches?_gap {stretch more : List Char} {c : Char} (hne : stretch ≠ [])
    (hcomment : stretch.head? ≠ some '#') (hread : plainStretch? false cursor.rest = some stretch)
    (hc : isGap c = true) (hinside : cursor.Inside (stretch ++ c :: more)) {found : Gap}
    {after : Cursor}
    (hgap : Gap.read? 1 (c :: more).length Gap.none (cursor.skip stretch.length) =
      some (found, after)) (gap : Gap) (fuel : Nat) :
    plainStretches? false 1 (fuel + 1) gap cursor =
      if (after.column : Int) < 1 then some (gap.folded ++ stretch, after, found.broken)
      else (plainStretches? false 1 fuel found after).map fun answer =>
        (gap.folded ++ (stretch ++ answer.1), answer.2) := by
  have hfirst : cursor.sees '#' 0 = false := by
    obtain ⟨d, stretch, rfl⟩ := List.exists_cons_of_ne_nil hne
    rw [hinside.sees_zero, beq_eq_false_iff_ne]
    exact fun h => hcomment (congrArg some h)
  rw [← hinside.skip.rest] at hgap
  simp [plainStretches?, hinside.seesDocumentMark, hfirst, hread, hne, hinside.skip.atEnd,
    hinside.skip.seesGap_zero, hc, hgap, Option.map_eq_bind]

/-- The last stretch, with the end of its line. -/
theorem plainStretches?_last {stretch : List Char} (hne : stretch ≠ [])
    (hcomment : stretch.head? ≠ some '#') (hread : plainStretch? false cursor.rest = some stretch)
    (hrest : ∀ c ∈ rest.head?, isGap c = false) (hinside : cursor.Inside (stretch ++ '\n' :: rest))
    (gap : Gap) (fuel : Nat) :
    ∃ after, plainStretches? false 1 (fuel + 1) gap cursor =
        some (gap.folded ++ stretch, after, true) ∧ after.AtLine rest := by
  obtain ⟨after, hgap, hafter, hcolumn⟩ := Gap.read?_breaks
    (show ∀ c ∈ ['\n'], IsKeptBreak c from fun c hc => .inl (List.mem_singleton.mp hc))
    (show ∀ c ∈ [], c = ' ' from fun c hc => nomatch hc) Gap.none (by simp) hinside.skip.rest
    hrest (Nat.succ_le_succ (Nat.zero_le rest.length))
  refine ⟨after, ?_, hafter, hcolumn⟩
  have hshallow : (after.column : Int) < 1 := by rw [hcolumn]; decide
  rw [plainStretches?_gap hne hcomment hread rfl hinside hgap, if_pos hshallow]
  rfl

/-- A stretch with spaces behind it, and what is read from there. -/
theorem plainStretches?_spaces {stretch spaces more : List Char} (hne : stretch ≠ [])
    (hcomment : stretch.head? ≠ some '#') (hread : plainStretch? false cursor.rest = some stretch)
    (hspaces : ∀ c ∈ spaces, c = ' ') (hnonempty : spaces ≠ [])
    (hmore : ∀ c ∈ more.head?, isGap c = false)
    (hinside : cursor.Inside (stretch ++ (spaces ++ more))) (gap : Gap) (fuel : Nat) :
    ∃ next : Cursor, next.Inside more ∧
      plainStretches? false 1 (fuel + 1) gap cursor =
        (plainStretches? false 1 fuel (Gap.none.addSpaces spaces) next).map fun answer =>
          (gap.folded ++ (stretch ++ answer.1), answer.2) := by
  obtain ⟨d, spaces, rfl⟩ := List.exists_cons_of_ne_nil hnonempty
  have hnext : ((cursor.skip stretch.length).skip (d :: spaces).length).Inside more :=
    hinside.skip.skip
  have hgap : Gap.read? 1 (d :: (spaces ++ more)).length Gap.none (cursor.skip stretch.length) = _ :=
    Gap.read?_spaces hspaces Gap.none hinside.skip.rest hmore
      (Nat.succ_le_succ (List.sublist_append_left ..).length_le)
  have hdeep : ¬(((cursor.skip stretch.length).skip (d :: spaces).length).column : Int) < 1 := by
    have hcolumn := hnext.column
    omega
  have hc : isGap d = true := by rw [hspaces d List.mem_cons_self]; rfl
  refine ⟨_, hnext, ?_⟩
  rw [plainStretches?_gap hne hcomment hread hc hinside hgap, if_neg hdeep]

theorem plainStretches?_line {text : List Char} (htext : IsUnquoted text)
    (hrest : ∀ c ∈ rest.head?, isGap c = false) {fuel : Nat} (hfuel : text.length < fuel)
    (hinside : cursor.Inside (text ++ '\n' :: rest)) (gap : Gap) :
    ∃ after, plainStretches? false 1 fuel gap cursor = some (gap.folded ++ text, after, true) ∧
      after.AtLine rest := by
  -- The text gets shorter by a stretch and a gap in each round.
  induction hlength : text.length using Nat.strongRecOn generalizing text fuel cursor gap with
  | ind length ih =>
    obtain ⟨stretch, spaces, text, rfl, hstretch, hspaces, hsolid, hempty⟩ := exists_stretch isGap text
    obtain ⟨fuel, rfl⟩ := Nat.exists_eq_succ_of_ne_zero (Nat.ne_zero_of_lt hfuel)
    obtain ⟨hne, hread⟩ := htext.plainStretch? hstretch hspaces hempty rest
    have hcomment : stretch.head? ≠ some '#' := by
      obtain ⟨d, stretch, rfl⟩ := List.exists_cons_of_ne_nil hne
      exact fun h => (htext.first d rfl).2 (Option.some.inj h)
    rw [← hinside.rest] at hread
    rw [List.append_assoc] at hinside
    by_cases hnonempty : spaces = []
    · obtain rfl := hempty hnonempty
      subst hnonempty
      rw [List.append_nil, List.append_nil]
      exact plainStretches?_last hne hcomment hread hrest hinside gap fuel
    · have hunquoted := htext.of_append hnonempty hspaces hsolid
      have hblank : ∀ c ∈ spaces, c = ' ' := fun c hc =>
        htext.spaces c (List.mem_append_right _ (List.mem_append_left _ hc)) (hspaces c hc)
      have hbehind : ∀ c ∈ (text ++ '\n' :: rest).head?, isGap c = false := by
        obtain ⟨e, text, rfl⟩ := List.exists_cons_of_ne_nil hunquoted.ne_nil
        exact hsolid
      have hshorter : text.length < length ∧ text.length < fuel := by
        have hpos := List.length_pos_of_ne_nil hne
        simp only [List.length_append] at hlength hfuel
        omega
      rw [List.append_assoc] at hinside
      obtain ⟨next, hnext, hround⟩ := plainStretches?_spaces hne hcomment hread hblank hnonempty
        hbehind hinside gap fuel
      obtain ⟨after, hmore, hafter⟩ := ih text.length hshorter.1 hunquoted hshorter.2 hnext
        (Gap.none.addSpaces spaces) rfl
      refine ⟨after, ?_, hafter⟩
      rw [hround, hmore, Gap.folded_addSpaces]
      rfl

/-- A text without quotes is read back from its line, behind which a key may begin. -/
theorem plainScalar?_line {text : List Char} (htext : IsUnquoted text)
    (hrest : ∀ c ∈ rest.head?, isGap c = false) (hinside : cursor.Inside (text ++ '\n' :: rest)) :
    ∃ after, plainScalar? false 0 cursor = some (.scalar .plain (String.ofList text), after, true) ∧
      after.AtLine rest := by
  have hfuel : text.length < cursor.rest.length + 1 := by
    rw [hinside.rest]
    exact Nat.lt_succ_of_le (List.sublist_append_left ..).length_le
  obtain ⟨after, hread, hafter⟩ := plainStretches?_line htext hrest hfuel hinside Gap.none
  have hfolded : Gap.none.folded = [] := rfl
  exact ⟨after, by simp [plainScalar?, hread, hfolded], hafter⟩

end FetchClient.Yaml.Lexeme
