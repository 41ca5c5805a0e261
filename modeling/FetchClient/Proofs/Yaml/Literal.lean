import FetchClient.Proofs.Yaml.Gaps

/-!
# Texts of several lines are read back

- `blockBody`: the lines of a literal text, with the end of the last one;
- `blockHeader?_literal`: what stands behind the bar;
- `blockBreaks?_reaches`, `blockLines?_body`: the breaks and the lines;
- `blockScalar?_literal`: every text that a literal block can hold is read back.
-/

namespace FetchClient.Yaml.Lexeme

variable {cursor : Cursor} {rest : List Char}

/-! ## What is written -/

/-- The lines of a literal text, each behind the indentation unless it is empty, and the end of the
last line. -/
def blockBody (lineStart : Bool) : List Char → List Char
  | [] => if lineStart then [] else ['\n']
  | c :: rest =>
    if isBreak c then c :: blockBody true rest
    else (if lineStart then indentation else []) ++ c :: blockBody false rest

theorem literalLines_append (lineStart : Bool) (text : List Char) :
    (literalLines lineStart text ++ if text.getLast?.elim lineStart isBreak then [] else ['\n']) =
      blockBody lineStart text := by
  induction text generalizing lineStart with
  | nil => rfl
  | cons c text ih =>
    have hlast : (c :: text).getLast?.elim lineStart isBreak =
        text.getLast?.elim (isBreak c) isBreak := by
      rw [List.getLast?_cons]
      cases text.getLast? <;> rfl
    rw [hlast, literalLines, blockBody]
    cases hc : isBreak c with
    | true =>
      rw [← ih true]
      rfl
    | false =>
      rw [← ih false]
      simp

theorem length_le_blockBody (lineStart : Bool) (text : List Char) :
    text.length ≤ (blockBody lineStart text).length := by
  induction text generalizing lineStart with
  | nil => exact Nat.zero_le _
  | cons c text ih =>
    rw [blockBody]
    split
    · exact Nat.succ_le_succ (ih true)
    · rw [List.length_append, List.length_cons, List.length_cons]
      exact Nat.le_add_left_of_le (Nat.succ_le_succ (ih false))

/-- A text of several lines as it is written. -/
theorem writeText_literal {text : List Char} (hstyle : Style.choose text = .literal)
    (hne : text ≠ []) :
    writeText text = '|' :: (literalHeader text ++ '\n' :: blockBody true text) := by
  have hlast : text.getLast?.any isBreak = text.getLast?.elim true isBreak := by
    rw [List.getLast?_eq_some_getLast hne]
    rfl
  rw [writeText, hstyle, ← literalLines_append, ← hlast]
  simp

theorem blockBody_line {line : List Char} (hline : ∀ c ∈ line, isBreak c = false)
    (more : List Char) : blockBody false (line ++ more) = line ++ blockBody false more := by
  induction line with
  | nil => rfl
  | cons c line ih =>
    obtain ⟨hc, hothers⟩ := List.forall_mem_cons.mp hline
    simp [blockBody, hc, ih hothers]

theorem blockBody_breaks {breaks : List Char} (hbreaks : ∀ c ∈ breaks, isBreak c = true)
    (more : List Char) : blockBody true (breaks ++ more) = breaks ++ blockBody true more := by
  induction breaks with
  | nil => rfl
  | cons c breaks ih =>
    obtain ⟨hc, hothers⟩ := List.forall_mem_cons.mp hbreaks
    simp [blockBody, hc, ih hothers]

theorem blockBody_start {c : Char} (hc : isBreak c = false) (more : List Char) :
    blockBody true (c :: more) = ' ' :: ' ' :: c :: blockBody false more := by
  simp [blockBody, hc, indentation]

theorem blockBody_inside {c : Char} (hc : isBreak c = false) (more : List Char) :
    blockBody false (c :: more) = c :: blockBody false more := by
  simp [blockBody, hc]

theorem isAdmitted_of_mem_blockBody {text : List Char} (h : ∀ c ∈ text, isPrintable c = true)
    (lineStart : Bool) : ∀ c ∈ blockBody lineStart text, isAdmitted c = true := by
  induction text generalizing lineStart with
  | nil => cases lineStart <;> exact List.all_eq_true.mp rfl
  | cons c text ih =>
    obtain ⟨hc, hothers⟩ := List.forall_mem_cons.mp h
    have hadmitted := isAdmitted_of_isPrintable hc
    rw [blockBody]
    split
    · exact List.forall_mem_cons.mpr ⟨hadmitted, ih hothers true⟩
    · refine List.forall_mem_append.mpr ⟨?_, List.forall_mem_cons.mpr ⟨hadmitted, ih hothers false⟩⟩
      cases lineStart <;> exact List.all_eq_true.mp rfl

theorem isAdmitted_of_mem_literalHeader (text : List Char) :
    ∀ c ∈ literalHeader text, isAdmitted c = true := by
  rw [literalHeader]
  refine List.forall_mem_append.mpr ⟨?_, ?_⟩
  · split <;> exact List.all_eq_true.mp rfl
  · split
    · split_ifs <;> exact List.all_eq_true.mp rfl
    · exact List.all_eq_true.mp rfl

/-! ## The header -/

/-- How a literal text ends. -/
def chompingOf (text : List Char) : Chomping :=
  match text.reverse with
  | last :: before =>
    if !isBreak last then .strip else if before.head?.all isBreak then .keep else .clip
  | [] => .strip

/-- What is kept of the breaks at the end of a block: the first and the others. -/
def keptTail (first others : List Char) : Chomping → List Char
  | .strip => []
  | .clip => first
  | .keep => first ++ others

/-- Whether the indentation of a literal text cannot be told from its first line. -/
def isIndented (text : List Char) : Bool :=
  text.head?.any fun c => isSpace c || isBreak c

/-- The indentation that the header of a literal text declares. -/
def declaredIndent (text : List Char) : Option Nat :=
  if isIndented text then some 2 else none

theorem declaredIndent_of_break {c : Char} (hc : isBreak c = true) (text : List Char) :
    declaredIndent (c :: text) = some 2 := by
  simp [declaredIndent, isIndented, hc]

/-- No indentation is declared only where the first line of the text begins with no space. -/
theorem declaredIndent_append {breaks : List Char} (hbreaks : ∀ c ∈ breaks, isBreak c = true)
    (text : List Char) : ∀ c ∈ text.head?,
      declaredIndent (breaks ++ text) = some 2 ∨ declaredIndent (breaks ++ text) = none ∧ c ≠ ' ' := by
  intro c hc
  cases breaks with
  | cons d breaks => exact .inl (declaredIndent_of_break (hbreaks d List.mem_cons_self) _)
  | nil =>
    rw [List.nil_append, declaredIndent, isIndented, hc, Option.any_some]
    cases hindented : isSpace c || isBreak c with
    | true => exact .inl rfl
    | false =>
      refine .inr ⟨rfl, ?_⟩
      rintro rfl
      cases hindented

theorem blockHeader?_literal (text : List Char)
    (hrest : cursor.rest = literalHeader text ++ '\n' :: rest) :
    ∃ after, blockHeader? cursor =
        some (declaredIndent text, chompingOf text, after) ∧
      after.AtLine rest := by
  have hheader : literalHeader text = (if isIndented text then ['2'] else []) ++
      match chompingOf text with
      | .strip => ['-']
      | .keep => ['+']
      | .clip => [] := by
    rw [literalHeader, chompingOf, isIndented]
    cases text.reverse with
    | nil => rfl
    | cons last before =>
      cases hlast : isBreak last <;> cases hbefore : before.head?.all isBreak <;>
        simp [hlast, hbefore]
  obtain ⟨text', index, line, column⟩ := cursor
  obtain rfl : text' = _ := hrest
  rw [hheader, declaredIndent]
  cases isIndented text <;> cases chompingOf text <;>
    exact ⟨⟨rest, _, line + 1, 0⟩, rfl, rfl, rfl⟩

/-! ## Breaks -/

/-- Where no space begins a line, only a break can be passed over. -/
theorem blockBreaks?_succ (hatLine : cursor.AtLine rest)
    (hsolid : ∀ c ∈ rest.head?, c ≠ ' ' ∧ c ≠ '\t') (indent : Option Nat) (fuel deepest : Nat)
    (kept : List Char) :
    blockBreaks? indent (fuel + 1) deepest kept cursor =
      if cursor.seesBreak 0 then
        blockBreaks? indent fuel deepest (kept ++ cursor.breakText) cursor.skipBreak
      else some (deepest, kept, cursor) := by
  have hspaces : (cursor.rest.takeWhile (· == ' ')).length = 0 := by
    rw [hatLine.rest]
    cases rest with
    | nil => rfl
    | cons c rest => simp [(hsolid c rfl).1]
  have htab : cursor.sees '\t' 0 = false := by
    rw [Cursor.sees, Cursor.peek, hatLine.rest]
    cases rest with
    | nil => rfl
    | cons c rest => simp [(hsolid c rfl).2]
  have hskip : cursor.skip 0 = cursor := rfl
  cases indent <;>
    simp [blockBreaks?, hspaces, hskip, htab, hatLine.column]

/-- Breaks are passed over, and kept. -/
theorem blockBreaks?_append {breaks : List Char} (hbreaks : ∀ c ∈ breaks, IsKeptBreak c)
    (indent : Option Nat) (hatLine : cursor.AtLine (breaks ++ rest)) (fuel deepest : Nat)
    (kept : List Char) :
    ∃ after, blockBreaks? indent (breaks.length + fuel) deepest kept cursor =
        blockBreaks? indent fuel deepest (kept ++ breaks) after ∧ after.AtLine rest := by
  induction breaks generalizing cursor kept with
  | nil => exact ⟨cursor, by simp, hatLine⟩
  | cons c breaks ih =>
    obtain ⟨hc, hothers⟩ := List.forall_mem_cons.mp hbreaks
    obtain ⟨after, hmore, hafter⟩ := ih hothers (hc.skipBreak hatLine.rest) (kept ++ [c])
    have hsolid : ∀ d ∈ (c :: (breaks ++ rest)).head?, d ≠ ' ' ∧ d ≠ '\t' := by
      rintro d hd
      obtain rfl := Option.some.inj hd
      constructor <;> rintro rfl <;> cases hc.isBreak
    have hbreak : cursor.seesBreak 0 = true := by
      simp [Cursor.seesBreak, Cursor.peek, hatLine.rest, hc.isBreak]
    refine ⟨after, ?_, hafter⟩
    rw [List.length_cons, Nat.add_right_comm, blockBreaks?_succ hatLine hsolid, if_pos hbreak,
      hc.breakText hatLine.rest, hmore, List.append_assoc]
    rfl

/-- Nothing is passed over in front of a line that is not indented. -/
theorem blockBreaks?_end (hatLine : cursor.AtLine rest) (hsolid : ∀ c ∈ rest.head?, isGap c = false)
    (indent : Option Nat) (fuel deepest : Nat) (kept : List Char) :
    blockBreaks? indent fuel deepest kept cursor = some (deepest, kept, cursor) := by
  cases fuel with
  | zero => rfl
  | succ fuel =>
    have hbreak : cursor.seesBreak 0 = false := by
      rw [Cursor.seesBreak, Cursor.peek, hatLine.rest]
      cases rest with
      | nil => rfl
      | cons c rest => exact (Bool.or_eq_false_iff.mp (hsolid c rfl)).2
    have hblank : ∀ c ∈ rest.head?, c ≠ ' ' ∧ c ≠ '\t' := by
      intro c hc
      constructor <;> rintro rfl <;> cases hsolid _ hc
    rw [blockBreaks?_succ hatLine hblank, hbreak]
    rfl

/-- The indentation in front of a line is passed over. -/
theorem blockBreaks?_indentation {c : Char} (hbreak : isBreak c = false) (htab : c ≠ '\t')
    {indent : Option Nat} (hindent : indent = some 2 ∨ indent = none ∧ c ≠ ' ')
    (hatLine : cursor.AtLine (' ' :: ' ' :: c :: rest)) (fuel : Nat) (kept : List Char) :
    ∃ after : Cursor, blockBreaks? indent (fuel + 1) 0 kept cursor = some (2, kept, after) ∧
      after.rest = c :: rest ∧ after.column = 2 := by
  have hskip : (cursor.skip 2).rest = c :: rest := by rw [Cursor.skip, hatLine.rest]; rfl
  have hcolumn : (cursor.skip 2).column = 2 := by rw [Cursor.skip, hatLine.column]
  refine ⟨cursor.skip 2, ?_, hskip, hcolumn⟩
  have hopen : (cursor.skip 2).seesBreak 0 = false := by
    simp [Cursor.seesBreak, Cursor.peek, hskip, hbreak]
  have hblank : (cursor.skip 2).sees '\t' 0 = false := by
    simp [Cursor.sees, Cursor.peek, hskip, htab]
  obtain rfl | ⟨rfl, hspace⟩ := hindent
  · simp [blockBreaks?, hatLine.rest, hatLine.column, hopen, hblank, hcolumn]
  · simp [blockBreaks?, hatLine.rest, hspace, hopen, hblank, hcolumn]

/-- Where the breaks in front of a text end: at the line behind the block where no text is left, and
else at the first character of the text, behind its indentation. -/
inductive Reaches (rest : List Char) : List Char → Nat → Cursor → Prop
  | done {cursor : Cursor} (hatLine : cursor.AtLine rest) : Reaches rest [] 0 cursor
  | line {c : Char} {text : List Char} {cursor : Cursor}
      (hrest : cursor.rest = blockBody false (c :: text) ++ rest) (hcolumn : cursor.column = 2) :
      Reaches rest (c :: text) 2 cursor

/-- The breaks in front of a text are kept, and what stands behind them is reached. -/
theorem blockBreaks?_reaches {breaks text : List Char} (hbreaks : ∀ c ∈ breaks, IsKeptBreak c)
    (hsolid : ∀ c ∈ text.head?, isBreak c = false ∧ c ≠ '\t') {indent : Option Nat}
    (hindent : ∀ c ∈ text.head?, indent = some 2 ∨ indent = none ∧ c ≠ ' ')
    (hrest : ∀ c ∈ rest.head?, isGap c = false)
    (hatLine : cursor.AtLine (blockBody true (breaks ++ text) ++ rest)) {fuel : Nat}
    (hfuel : cursor.rest.length ≤ fuel) :
    ∃ deepest after, blockBreaks? indent fuel 0 [] cursor = some (deepest, breaks, after) ∧
      Reaches rest text deepest after := by
  rw [blockBody_breaks fun c hc => (hbreaks c hc).isBreak, List.append_assoc] at hatLine
  rw [hatLine.rest, List.length_append] at hfuel
  obtain ⟨spare, rfl⟩ := Nat.exists_eq_add_of_le (Nat.le_of_add_right_le hfuel)
  obtain ⟨behind, hpassed, hbehind⟩ := blockBreaks?_append hbreaks indent hatLine spare 0 []
  rw [hpassed, List.nil_append]
  cases text with
  | nil => exact ⟨0, behind, blockBreaks?_end hbehind hrest .., .done hbehind⟩
  | cons c text =>
    obtain ⟨hc, htab⟩ := hsolid c rfl
    rw [blockBody_start hc, List.cons_append, List.cons_append, List.cons_append] at hbehind
    have hspare : spare ≠ 0 := by
      rintro rfl
      rw [blockBody_start hc, List.cons_append, List.length_cons] at hfuel
      omega
    obtain ⟨spare, rfl⟩ := Nat.exists_eq_succ_of_ne_zero hspare
    obtain ⟨after, hindented, hafter, hcolumn⟩ :=
      blockBreaks?_indentation hc htab (hindent c rfl) hbehind spare breaks
    refine ⟨2, after, hindented, .line ?_ hcolumn⟩
    rw [hafter, blockBody_inside hc]
    rfl

/-! ## Lines -/

/-- A text that begins with a line is its core and the breaks at its end, the first of which is told
apart. Where there is none, a line feed stands behind the text. -/
structure Ending (text core first others : List Char) : Prop where
  last : ∃ before c, core = before ++ [c] ∧ isBreak c = false
  breaks : (text = core ∧ first = ['\n'] ∧ others = []) ∨
    ∃ c, first = [c] ∧ text = core ++ c :: others ∧ ∀ d ∈ c :: others, isBreak d = true

theorem Ending.append {text core first others : List Char} (h : Ending text core first others)
    (before : List Char) : Ending (before ++ text) (before ++ core) first others where
  last := by
    obtain ⟨inside, c, rfl, hc⟩ := h.last
    exact ⟨before ++ inside, c, (List.append_assoc ..).symm, hc⟩
  breaks := by
    obtain ⟨rfl, hfirst⟩ | ⟨c, hfirst, rfl, hbreaks⟩ := h.breaks
    · exact .inl ⟨rfl, hfirst⟩
    · exact .inr ⟨c, hfirst, (List.append_assoc ..).symm, hbreaks⟩

theorem ending_line {line : List Char} (hline : ∀ c ∈ line, isBreak c = false) (hne : line ≠ []) :
    ∃ before c, line = before ++ [c] ∧ isBreak c = false :=
  ⟨line.dropLast, line.getLast hne, (List.dropLast_append_getLast hne).symm,
    hline _ (List.getLast_mem hne)⟩

/-- The lines end in front of a line that is not indented. -/
theorem blockLines?_end (hatLine : cursor.AtLine rest) (fuel : Nat) (first others : List Char)
    (blank : Bool) :
    blockLines? true 2 fuel first others blank cursor = some ([], first, others, cursor) := by
  cases fuel with
  | zero => rfl
  | succ fuel => simp [blockLines?, hatLine.column]

/-- One line with the breaks behind it. -/
theorem blockLines?_line {line : List Char} (hline : ∀ c ∈ line, isBreak c = false) {c : Char}
    (hc : IsKeptBreak c) (hrest : cursor.rest = line ++ c :: rest) (hcolumn : cursor.column = 2)
    {deepest : Nat} {breaks : List Char} {next : Cursor}
    (hbreaks : blockBreaks? (some 2) (rest.length + 1) 0 [] (cursor.skip line.length).skipBreak =
      some (deepest, breaks, next)) (fuel : Nat) (first others : List Char) (blank : Bool) :
    ∃ startsBlank, blockLines? true 2 (fuel + 1) first others blank cursor =
      (blockLines? true 2 fuel [c] breaks startsBlank next).map fun answer =>
        (first ++ (others ++ (line ++ answer.1)), answer.2) := by
  have hafter : (cursor.skip line.length).rest = c :: rest :=
    Cursor.rest_skip hrest
  have htake : cursor.takeWhile (fun d => !isBreak d) = (line, cursor.skip line.length) := by
    have hline' : ∀ d ∈ line, (!isBreak d) = true := fun d hd => by rw [hline d hd]; rfl
    rw [Cursor.takeWhile, hrest, List.takeWhile_append_of_pos hline',
      List.takeWhile_cons_of_neg (by simp [hc.isBreak]), List.append_nil]
  have hopen : cursor.atEnd = false := by simp [Cursor.atEnd, hrest]
  refine ⟨cursor.seesBlank 0, ?_⟩
  rw [blockLines?]
  simp [hcolumn, hopen, htake, hc.breakText hafter, hafter, hbreaks, Option.map_eq_bind]

/-- The last line, with the breaks that end the text. -/
theorem blockLines?_last {line : List Char} (hline : ∀ c ∈ line, isBreak c = false) {c : Char}
    {breaks : List Char} (hbreaks : ∀ d ∈ c :: breaks, IsKeptBreak d)
    (hrest : ∀ d ∈ rest.head?, isGap d = false)
    (hcursor : cursor.rest = line ++ c :: (blockBody true breaks ++ rest))
    (hcolumn : cursor.column = 2) (fuel : Nat) (first others : List Char) (blank : Bool) :
    ∃ after, blockLines? true 2 (fuel + 1) first others blank cursor =
        some (first ++ (others ++ line), [c], breaks, after) ∧ after.AtLine rest := by
  obtain ⟨hc, hothers⟩ := List.forall_mem_cons.mp hbreaks
  have hnext := hc.skipBreak (Cursor.rest_skip hcursor)
  rw [← List.append_nil breaks] at hnext
  obtain ⟨deepest, after, hpassed, hreached⟩ := blockBreaks?_reaches hothers (by simp) (by simp)
    hrest hnext (Nat.le_of_eq (congrArg List.length hnext.rest) |>.trans (Nat.le_succ _))
  obtain ⟨hafter⟩ := hreached
  rw [List.append_nil] at hpassed
  obtain ⟨blank', hround⟩ := blockLines?_line hline hc hcursor hcolumn hpassed fuel first others blank
  refine ⟨after, ?_, hafter⟩
  rw [hround, blockLines?_end hafter, Option.map_some, List.append_nil]

theorem blockLines?_body {text : List Char} (hkept : ∀ c ∈ text, isBreak c = true → IsKeptBreak c)
    (htab : '\t' ∉ text) (hne : text ≠ []) (hfirst : ∀ c ∈ text.head?, isBreak c = false)
    (hrest : ∀ c ∈ rest.head?, isGap c = false) {fuel : Nat} (hfuel : text.length < fuel)
    (hcursor : cursor.rest = blockBody false text ++ rest) (hcolumn : cursor.column = 2)
    (first others : List Char) (blank : Bool) :
    ∃ core first' others' after,
      blockLines? true 2 fuel first others blank cursor =
        some (first ++ (others ++ core), first', others', after) ∧
      Ending text core first' others' ∧ after.AtLine rest := by
  -- The text gets shorter by a line and the breaks behind it in each round.
  induction hlength : text.length using Nat.strongRecOn
    generalizing text fuel cursor first others blank with
  | ind length ih =>
    obtain ⟨line, breaks, text, rfl, hline, hbreaks, hsolid, hempty⟩ := exists_stretch isBreak text
    obtain ⟨fuel, rfl⟩ := Nat.exists_eq_succ_of_ne_zero (Nat.ne_zero_of_lt hfuel)
    have hlineNe : line ≠ [] := by
      rintro rfl
      cases breaks with
      | nil => exact hne (hempty rfl)
      | cons c breaks =>
        have hc := hfirst c rfl
        rw [hbreaks c List.mem_cons_self] at hc
        cases hc
    have hending := ending_line hline hlineNe
    rw [blockBody_line hline, List.append_assoc] at hcursor
    cases breaks with
    | nil =>
      obtain rfl := hempty rfl
      have hfeed : ∀ c ∈ ['\n'], IsKeptBreak c := List.forall_mem_singleton.mpr (.inl rfl)
      obtain ⟨after, hround, hafter⟩ :=
        blockLines?_last hline hfeed hrest hcursor hcolumn fuel first others blank
      exact ⟨line, ['\n'], [], after, hround, ⟨hending, .inl ⟨by simp, rfl, rfl⟩⟩, hafter⟩
    | cons c breaks =>
      have hbreak : ∀ d ∈ c :: breaks, IsKeptBreak d := fun d hd =>
        hkept d (List.mem_append_right _ (List.mem_append_left _ hd)) (hbreaks d hd)
      obtain ⟨hc, hothers⟩ := List.forall_mem_cons.mp hbreak
      rw [List.cons_append, blockBody, if_pos hc.isBreak, List.cons_append] at hcursor
      cases text with
      | nil =>
        rw [List.append_nil] at hcursor
        obtain ⟨after, hround, hafter⟩ :=
          blockLines?_last hline hbreak hrest hcursor hcolumn fuel first others blank
        exact ⟨line, [c], breaks, after, hround, ⟨hending, .inr ⟨c, rfl, by simp, hbreaks⟩⟩, hafter⟩
      | cons d text =>
        have hkept' : ∀ e ∈ d :: text, isBreak e = true → IsKeptBreak e := fun e he =>
          hkept e (List.mem_append_right _ (List.mem_append_right _ he))
        have htab' : '\t' ∉ d :: text := fun h =>
          htab (List.mem_append_right _ (List.mem_append_right _ h))
        have hshorter : (d :: text).length < length ∧ (d :: text).length < fuel := by
          simp only [List.length_append, List.length_cons] at hlength hfuel ⊢
          omega
        have hnext := hc.skipBreak (Cursor.rest_skip hcursor)
        obtain ⟨deepest, next, hpassed, hreached⟩ := blockBreaks?_reaches hothers
          (fun e he => ⟨hsolid e he, fun h => htab' (h ▸ List.mem_of_mem_head? he)⟩)
          (fun _ _ => .inl rfl) hrest hnext
          (Nat.le_of_eq (congrArg List.length hnext.rest) |>.trans (Nat.le_succ _))
        obtain ⟨blank', hround⟩ := blockLines?_line hline hc hcursor hcolumn hpassed fuel first
          others blank
        obtain _ | ⟨hbody, hcolumn'⟩ := hreached
        obtain ⟨core, first', others', last, hmore, hending', hlast⟩ := ih _ hshorter.1 hkept' htab'
          (List.cons_ne_nil d text) hsolid hshorter.2 hbody hcolumn' [c] breaks blank' rfl
        refine ⟨line ++ (c :: breaks ++ core), first', others', last, ?_,
          (hending'.append _).append _, hlast⟩
        rw [hround, hmore]
        rfl

/-! ## Blocks -/

/-- The texts that stand in literal blocks. -/
structure IsLiteral (text : List Char) : Prop where
  ne_nil : text ≠ []
  printable : ∀ c ∈ text, isPrintable c = true

theorem IsLiteral.of_admits {text : List Char} (h : Style.literal.admits text = true) :
    IsLiteral text := by
  simp only [Style.admits, Bool.and_eq_true, Bool.not_eq_true', List.isEmpty_eq_false_iff,
    List.all_eq_true, and_assoc] at h
  exact ⟨h.1, h.2.1⟩

theorem chompingOf_of_reverse {text before : List Char} {last : Char}
    (h : text.reverse = last :: before) : chompingOf text =
      if !isBreak last then .strip else if before.head?.all isBreak then .keep else .clip := by
  rw [chompingOf, h]

theorem chompingOf_breaks {breaks : List Char} (hne : breaks ≠ [])
    (hbreaks : ∀ c ∈ breaks, isBreak c = true) : chompingOf breaks = .keep := by
  obtain ⟨last, before, hreverse⟩ := List.exists_cons_of_ne_nil (List.reverse_ne_nil_iff.mpr hne)
  have hall : ∀ c ∈ last :: before, isBreak c = true := fun c hc =>
    hbreaks c (List.mem_reverse.mp (hreverse ▸ hc))
  have hbefore : before.head?.all isBreak = true :=
    Option.all_eq_true _ _ |>.mpr fun c hc =>
      hall c (List.mem_cons_of_mem _ (List.mem_of_mem_head? hc))
  simp [chompingOf_of_reverse hreverse, hall last List.mem_cons_self, hbefore]

/-- What is kept of the breaks at the end is what the text ends with. -/
theorem Ending.tail {text core first others : List Char} (h : Ending text core first others)
    (before : List Char) :
    before ++ core ++ keptTail first others (chompingOf (before ++ text)) = before ++ text := by
  obtain ⟨⟨inside, c, rfl, hc⟩, ⟨rfl, -, -⟩ | ⟨d, rfl, rfl, hbreaks⟩⟩ := h
  · have hreverse : (before ++ (inside ++ [c])).reverse = c :: (before ++ inside).reverse := by simp
    simp [chompingOf_of_reverse hreverse, hc, keptTail]
  · obtain ⟨hd, hothers⟩ := List.forall_mem_cons.mp hbreaks
    have hreverse : (before ++ (inside ++ [c] ++ d :: others)).reverse =
        others.reverse ++ d :: c :: (before ++ inside).reverse := by simp
    cases hlast : others.reverse with
    | nil =>
      obtain rfl := List.reverse_eq_nil_iff.mp hlast
      rw [hlast] at hreverse
      rw [chompingOf_of_reverse hreverse]
      simp [hd, hc, keptTail]
    | cons last more =>
      have hall : ∀ e ∈ last :: (more ++ [d]), isBreak e = true := by
        intro e he
        rw [← List.cons_append, ← hlast, ← List.reverse_cons, List.mem_reverse] at he
        exact hbreaks e he
      have hsecond : (more ++ d :: c :: (before ++ inside).reverse).head?.all isBreak = true := by
        cases more with
        | nil => exact hd
        | cons e more => exact hall e (by simp)
      rw [hlast, List.cons_append] at hreverse
      rw [chompingOf_of_reverse hreverse, hall last List.mem_cons_self, if_neg (by decide),
        if_pos hsecond]
      simp [keptTail]

/-- A block scalar from its header, the breaks at its beginning, and its lines. -/
theorem blockScalar?_of_parts {digit : Option Nat} {chomping : Chomping}
    {start next last : Cursor} {deepest : Nat} {lead core first others : List Char}
    (hheader : blockHeader? (cursor.skip 1) = some (digit, chomping, start))
    (hbreaks : blockBreaks? digit start.rest.length 0 [] start = some (deepest, lead, next))
    (hlines : blockLines? true (digit.getD (max deepest 1)) (next.rest.length + 1) [] lead false
      next = some (core, first, others, last)) :
    blockScalar? true 0 cursor =
      some (.scalar .literal (String.ofList (core ++ keptTail first others chomping)), last) := by
  have hwidth : ((digit.bind fun digit => pure (digit : Int)).map fun digit =>
      (if (0 : Int) ≤ 0 then 0 + digit else digit).toNat) = digit := by
    cases digit <;> simp
  have hdepth : max (max deepest (0 + 1 : Int).toNat) 1 = max deepest 1 := Nat.max_assoc ..
  rw [blockScalar?, hheader]
  simp only [Option.bind_eq_bind, Option.bind_some, hwidth, hbreaks]
  rw [hdepth, hlines]
  cases chomping <;> rfl

/-- Every text that a literal block can hold is read back. -/
theorem blockScalar?_literal {text : List Char} (htext : IsLiteral text)
    (hrest : ∀ c ∈ rest.head?, isGap c = false)
    (hcursor : cursor.rest = '|' :: (literalHeader text ++ '\n' :: (blockBody true text ++ rest))) :
    ∃ after, blockScalar? true 0 cursor = some (.scalar .literal (String.ofList text), after) ∧
      after.AtLine rest := by
  have hkept : ∀ c ∈ text, isBreak c = true → IsKeptBreak c := fun c hc hbreak =>
    isKeptBreak hbreak (htext.printable c hc)
  have htab : '\t' ∉ text := fun h => nomatch htext.printable _ h
  have hbar : (cursor.skip 1).rest = literalHeader text ++ '\n' :: (blockBody true text ++ rest) := by
    rw [Cursor.skip, hcursor]
    rfl
  obtain ⟨start, hheader, hstart⟩ := blockHeader?_literal text hbar
  -- The text is the breaks at its beginning and, if there is more, a text that begins with a line.
  obtain ⟨lead, more, rfl, hlead, hmore⟩ : ∃ lead more, text = lead ++ more ∧
      (∀ c ∈ lead, isBreak c = true) ∧ ∀ c ∈ more.head?, isBreak c = false :=
    ⟨text.takeWhile isBreak, text.dropWhile isBreak, List.takeWhile_append_dropWhile.symm,
      fun c hc => List.mem_takeWhile_imp hc, fun c => head?_dropWhile_of_mem⟩
  have htab' : '\t' ∉ more := fun h => htab (List.mem_append_right _ h)
  obtain ⟨deepest, next, hpassed, hreached⟩ := blockBreaks?_reaches
    (fun c hc => hkept c (List.mem_append_left _ hc) (hlead c hc))
    (fun c hc => ⟨hmore c hc, fun h => htab' (h ▸ List.mem_of_mem_head? hc)⟩)
    (declaredIndent_append hlead more) hrest hstart (Nat.le_refl _)
  cases hreached with
  | done hnext =>
    have hne : lead ≠ [] := fun h => htext.ne_nil (by rw [h, List.append_nil])
    have hdeclared : declaredIndent (lead ++ []) = some 2 := by
      obtain ⟨c, others, rfl⟩ := List.exists_cons_of_ne_nil hne
      exact declaredIndent_of_break (hlead c List.mem_cons_self) _
    refine ⟨next, ?_, hnext⟩
    rw [blockScalar?_of_parts hheader hpassed (by rw [hdeclared]; exact blockLines?_end hnext ..),
      List.append_nil, chompingOf_breaks hne hlead]
    rfl
  | @line c more _ hbody hcolumn =>
    have hfuel : (c :: more).length < next.rest.length + 1 := by
      rw [hbody, List.length_append, Nat.lt_succ_iff]
      exact Nat.le_add_right_of_le (length_le_blockBody false (c :: more))
    obtain ⟨core, first, others, last, hlines, hending, hlast⟩ := blockLines?_body
      (fun d hd => hkept d (List.mem_append_right _ hd)) htab' (List.cons_ne_nil c more) hmore hrest
      hfuel hbody hcolumn [] lead false
    have hdepth : (declaredIndent (lead ++ c :: more)).getD (max 2 1) = 2 := by
      obtain h | ⟨h, -⟩ := declaredIndent_append hlead (c :: more) c rfl <;> rw [h] <;> rfl
    refine ⟨last, ?_, hlast⟩
    rw [blockScalar?_of_parts hheader hpassed (by rw [hdepth]; exact hlines)]
    exact congrArg (fun text => some (Token.scalar .literal (String.ofList text), last))
      (hending.tail lead)

end FetchClient.Yaml.Lexeme
