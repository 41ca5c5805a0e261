import FetchClient.Proofs.Yaml.Literal
import FetchClient.Proofs.Yaml.Plain
import FetchClient.Proofs.Yaml.Quoted

/-!
# Documents of lines with a key and a text
-/

namespace FetchClient.Yaml

namespace Scanner

open Lexeme (indicators)

variable {s t : Scanner} {cursor : Cursor} {rest : List Char} {tokens : List Token}

/-! ## Places -/

/-- The scanner in a document whose only block, once it has begun, is a mapping at the margin. -/
def atMargin (cursor : Cursor) (tokens : List Token) (opened keyAllowed : Bool)
    (mark : Option KeyMark) : Scanner where
  cursor := cursor
  tokens := tokens
  count := tokens.length
  indent := if opened then 0 else -1
  outerIndents := if opened then [-1] else []
  keyAllowed := keyAllowed
  mark := mark
  outerMarks := []

/-- Behind the gap the scanner is in a place where no block ends and no mark is stale. -/
structure Settles (s t : Scanner) : Prop where
  gap : s.skipGap (s.cursor.rest.length + 1) = t
  marks : t.dropStaleMarks? = some t
  blocks : t.unroll t.cursor.column = t
  block : t.inFlow = false

/-- No gap is passed over in front of other characters and at the end of the text. -/
theorem skipGap_of_solid (hrest : s.cursor.rest = rest)
    (hsolid : ∀ c ∈ rest.head?, isGap c = false ∧ c ≠ '#' ∧ c ≠ '\ufeff') (fuel : Nat) :
    s.skipGap fuel = s := by
  have hskip : s.cursor.skip 0 = s.cursor := rfl
  cases fuel with
  | zero => rfl
  | succ fuel =>
    cases rest with
    | nil =>
      simp [skipGap, Cursor.sees, Cursor.peek, Cursor.seesBreak, Cursor.takeWhile, hrest, hskip, moveTo]
    | cons c rest =>
      obtain ⟨hgap, hcomment, hmark⟩ := hsolid c rfl
      obtain ⟨hspace, htab, hbreak⟩ : c ≠ ' ' ∧ c ≠ '\t' ∧ isBreak c = false := by
        simpa [isGap, isBlank, and_assoc] using hgap
      simp [skipGap, Cursor.sees, Cursor.peek, Cursor.seesBreak, Cursor.takeWhile, hrest, hspace,
        htab, hbreak, hcomment, hmark, hskip, moveTo]

/-- A space is passed over. -/
theorem skipGap_space {c : Char} (hrest : s.cursor.rest = ' ' :: c :: rest) (hgap : isGap c = false)
    (hcomment : c ≠ '#') (fuel : Nat) :
    s.skipGap (fuel + 1) = s.moveTo (s.cursor.skip 1) := by
  obtain ⟨hspace, htab, hbreak⟩ : c ≠ ' ' ∧ c ≠ '\t' ∧ isBreak c = false := by
    simpa [isGap, isBlank, and_assoc] using hgap
  simp [skipGap, Cursor.sees, Cursor.peek, Cursor.seesBreak, Cursor.takeWhile, Cursor.skip, hrest,
    hspace, htab, hbreak, hcomment]

/-- Behind a break a key may begin. -/
theorem skipGap_break (hrest : s.cursor.rest = '\n' :: rest) (hblock : s.inFlow = false)
    (fuel : Nat) :
    s.skipGap (fuel + 1) = ((s.moveTo s.cursor.skipBreak).allowKey true).skipGap fuel := by
  have hskip : s.cursor.skip 0 = s.cursor := rfl
  have hblock' : (s.moveTo s.cursor.skipBreak).inFlow = false := hblock
  simp [skipGap, Cursor.sees, Cursor.peek, Cursor.seesBreak, Cursor.takeWhile, isBreak, hrest, hskip,
    hblock']

theorem settles_atMargin {opened keyAllowed : Bool} {mark : Option KeyMark}
    (hgap : s.skipGap (s.cursor.rest.length + 1) = atMargin cursor tokens opened keyAllowed mark)
    (hmark : ∀ m ∈ mark, isStale cursor m = false) :
    s.Settles (atMargin cursor tokens opened keyAllowed mark) where
  gap := hgap
  marks := by
    cases mark with
    | none => rfl
    | some m => simp [dropStaleMarks?, dropStale?, atMargin, hmark m rfl]
  blocks := by
    cases opened <;> simp [unroll, inFlow, atMargin, closeBlocks]
  block := rfl

/-! ## Keys -/

/-- The characters of keys. -/
def isKeyChar (c : Char) : Bool :=
  c.isLower || c == '_'

theorem isKeyChar_ne {c d : Char} (hc : isKeyChar c = true) (hd : ¬ isKeyChar d = true) : c ≠ d := by
  rintro rfl
  exact hd hc

theorem isGap_of_isKeyChar {c : Char} (hc : isKeyChar c = true) : isGap c = false := by
  by_contra hgap
  simp only [isGap, isBlank, isBreak, Bool.not_eq_false, Bool.or_eq_true, beq_iff_eq, or_assoc]
    at hgap
  obtain rfl | rfl | rfl | rfl | rfl | rfl | rfl := hgap
  all_goals cases hc

/-- The words that stand in front of a colon. -/
structure IsKey (key : List Char) : Prop where
  ne_nil : key ≠ []
  chars : ∀ c ∈ key, isKeyChar c = true
  short : key.length ≤ 1024

/-- Whether a line with a key begins here, or the text ends. -/
def BeginsLine (rest : List Char) : Prop :=
  ∀ c ∈ rest.head?, isKeyChar c = true

/-- Behind the gap the scanner is at the beginning of a line. -/
def AtEntry (s : Scanner) (tokens : List Token) (opened : Bool) (rest : List Char) : Prop :=
  ∃ cursor, cursor.AtLine rest ∧
    s.skipGap (s.cursor.rest.length + 1) = atMargin cursor tokens opened true none

theorem skipGap_of_beginsLine (hrest : s.cursor.rest = rest) (hbegins : BeginsLine rest)
    (fuel : Nat) : s.skipGap fuel = s :=
  skipGap_of_solid hrest (fun c hc => ⟨isGap_of_isKeyChar (hbegins c hc),
    isKeyChar_ne (hbegins c hc) (by decide), isKeyChar_ne (hbegins c hc) (by decide)⟩) fuel

theorem atEntry_of_atLine (hcursor : cursor.AtLine rest) (hbegins : BeginsLine rest)
    (tokens : List Token) (opened : Bool) :
    (atMargin cursor tokens opened true none).AtEntry tokens opened rest :=
  ⟨cursor, hcursor, skipGap_of_beginsLine hcursor.rest hbegins _⟩

theorem atEntry_of_break (hcursor : cursor.Inside ('\n' :: rest)) (hbegins : BeginsLine rest)
    (tokens : List Token) (opened : Bool) :
    (atMargin cursor tokens opened false none).AtEntry tokens opened rest := by
  have hnext := (show IsKeptBreak '\n' from .inl rfl).skipBreak hcursor.rest
  refine ⟨cursor.skipBreak, hnext, ?_⟩
  rw [skipGap_break hcursor.rest rfl]
  exact skipGap_of_beginsLine (s := atMargin cursor.skipBreak tokens opened true none) hnext.rest
    hbegins _

/-! ## Steps -/

theorem Settles.step?_plain (h : s.Settles t) {c : Char} (hrest : t.cursor.rest = c :: rest)
    (hmark : t.cursor.seesDocumentMark = false) (hblank : isBlank c = false)
    (hc : c ∉ indicators) (hnext : c ∈ ['-', '?', ':'] → t.cursor.seesGap 1 = false) :
    s.step? = t.plain?.map fun next => (next, false) := by
  have hne : ∀ d ∈ indicators, (c == d) = false := fun d hd =>
    beq_eq_false_iff_ne.mpr fun h => hc (h ▸ hd)
  have halone : ∀ d ∈ ['-', '?', ':'], (c == d && t.cursor.seesGap 1) = false := by
    intro d hd
    rw [Bool.and_eq_false_imp, beq_iff_eq]
    rintro rfl
    exact hnext hd
  obtain ⟨hdash, hdot⟩ := Bool.or_eq_false_iff.mp hmark
  have hstarts : t.startsPlain c = true := by
    have hpeek : t.cursor.seesGap 1 = false → t.cursor.seesBlank 1 = false := by
      rw [Cursor.seesGap, Cursor.seesBlank]
      cases t.cursor.peek 1 with
      | none => exact fun _ => rfl
      | some d => exact fun hd => (Bool.or_eq_false_iff.mp hd).1
    rw [startsPlain, h.block]
    split_ifs with hminus hother
    · simpa using hpeek (hnext (by simp [eq_of_beq hminus]))
    · have hmember : c ∈ ['-', '?', ':'] :=
        List.mem_cons_of_mem _ (by simpa using hother)
      simpa using hnext hmember
    · have hall : ∀ d ∈ ",[]{}#&*!|>'\"%@\x60".toList, indicators.contains d = true :=
        List.all_eq_true.mp (by decide)
      simpa [hblank] using fun hmem => hc (List.contains_iff_mem.mp (hall c hmem))
  simp only [indicators, List.forall_mem_cons] at hne halone
  rw [step?, h.gap, h.marks]
  simp only [Option.bind_eq_bind, Option.bind_some]
  rw [h.blocks, hrest]
  simp only [hne, halone, h.block, Bool.false_or, hdash, hdot, hstarts]
  cases t.plain? <;> simp

theorem Settles.step?_value (h : s.Settles t) (hrest : t.cursor.rest = ':' :: ' ' :: rest)
    (hmark : t.cursor.seesDocumentMark = false) :
    s.step? = t.value?.map fun next => (next, false) := by
  obtain ⟨hdash, hdot⟩ := Bool.or_eq_false_iff.mp hmark
  have hgap : t.cursor.seesGap 1 = true := by simp [Cursor.seesGap, Cursor.peek, hrest, isBlank]
  rw [step?, h.gap, h.marks]
  simp only [Option.bind_eq_bind, Option.bind_some]
  rw [h.blocks, hrest]
  simp only [hdash, hdot, hgap, h.block]
  cases t.value? <;> simp

theorem Settles.step?_quoted (h : s.Settles t) (single : Bool)
    (hrest : t.cursor.rest = Lexeme.closing single :: rest)
    (hmark : t.cursor.seesDocumentMark = false) :
    s.step? = (t.keyable? (Lexeme.quotedScalar? single t.cursor)).map fun next => (next, false) := by
  obtain ⟨hdash, hdot⟩ := Bool.or_eq_false_iff.mp hmark
  rw [step?, h.gap, h.marks]
  simp only [Option.bind_eq_bind, Option.bind_some]
  rw [h.blocks, hrest]
  cases single
  all_goals
    simp [hdash, hdot, h.block, Lexeme.closing, Option.map_eq_bind]

theorem Settles.step?_literal (h : s.Settles t) (hrest : t.cursor.rest = '|' :: rest)
    (hmark : t.cursor.seesDocumentMark = false) :
    s.step? = (t.block? true).map fun next => (next, false) := by
  obtain ⟨hdash, hdot⟩ := Bool.or_eq_false_iff.mp hmark
  rw [step?, h.gap, h.marks]
  simp only [Option.bind_eq_bind, Option.bind_some]
  rw [h.blocks, hrest]
  simp only [hdash, hdot, h.block]
  cases t.block? true <;> simp

/-- The token in front of the first key. -/
def opening (opened : Bool) : List Token :=
  if opened then [] else [.blockMappingStart]

theorem value?_atMargin (cursor : Cursor) (token : Token) (tokens : List Token) (opened : Bool)
    (index line : Nat) (required : Bool) :
    (atMargin cursor (token :: tokens) opened false
        (some ⟨tokens.length, index, line, 0, required⟩)).value? =
      some (atMargin (cursor.skip 1) (.value :: token :: .key :: (opening opened ++ tokens)) true
        false none) := by
  have hbehind : tokens.length + 1 - tokens.length = 1 := by omega
  have hbehind' : tokens.length + 1 + 1 - tokens.length = 2 := by omega
  cases opened
  all_goals
    simp [value?, atMargin, insert, roll, inFlow, push, moveTo, opening, hbehind, hbehind']

/-! ## Lines -/

/-- The scanner reads a key, and remembers where it began. -/
theorem step?_key {key : List Char} (hkey : IsKey key) {opened : Bool}
    (h : s.AtEntry tokens opened (key ++ ':' :: ' ' :: rest)) :
    ∃ (cursor : Cursor) (index : Nat), cursor.Inside (':' :: ' ' :: rest) ∧
      cursor.index ≤ index + 1024 ∧
      s.step? = some (atMargin cursor (.scalar .plain (String.ofList key) :: tokens) opened false
        (some ⟨tokens.length, index, cursor.line, 0, opened⟩), false) := by
  obtain ⟨cursor, hcursor, hgap⟩ := h
  obtain ⟨c, more, hc⟩ := List.exists_cons_of_ne_nil hkey.ne_nil
  have hchar : isKeyChar c = true := hkey.chars c (hc ▸ List.mem_cons_self)
  have hbegins : cursor.rest = c :: (more ++ ':' :: ' ' :: rest) := by
    rw [hcursor.rest, hc, List.cons_append]
  have hnot : ∀ d ∈ '.' :: '-' :: '?' :: ':' :: indicators, c ≠ d := by
    have hall : ∀ d ∈ '.' :: '-' :: '?' :: ':' :: indicators, ¬ isKeyChar d = true :=
      List.any_eq_false.mp (by decide)
    exact fun d hd => isKeyChar_ne hchar (hall d hd)
  have hmark : cursor.seesDocumentMark = false := by
    simp [Cursor.seesDocumentMark, Cursor.seesMark, Cursor.sees, Cursor.peek, hbegins,
      hnot '-' (by decide), hnot '.' (by decide)]
  have hcomment : cursor.sees '#' 0 = false := by
    simp [Cursor.sees, Cursor.peek, hbegins, hnot '#' (by decide)]
  have hcolon : ':' ∉ key := fun hmem => absurd (hkey.chars ':' hmem) (by decide)
  have hscalar := fun indent => Lexeme.plainScalar?_key hkey.ne_nil
    (fun d hd => isGap_of_isKeyChar (hkey.chars d hd)) hcolon hmark hcomment hcursor.rest indent
  have hstep := (settles_atMargin hgap fun _ hm => by cases hm).step?_plain hbegins hmark
    (Bool.or_eq_false_iff.mp (isGap_of_isKeyChar hchar)).1
    (fun hmem => hnot c (by simp [hmem]) rfl) (fun hmem => absurd rfl (hnot c (by grind)))
  have hinside : (cursor.skip key.length).Inside (':' :: ' ' :: rest) := by
    refine ⟨Cursor.rest_skip hcursor.rest, ?_⟩
    rw [Cursor.skip, hcursor.column, Nat.zero_add]
    exact List.length_pos_iff.mpr hkey.ne_nil |>.ne'
  have hshort : (cursor.skip key.length).index ≤ cursor.index + 1024 :=
    Nat.add_le_add_left hkey.short _
  refine ⟨cursor.skip key.length, cursor.index, hinside, hshort, ?_⟩
  rw [hstep]
  cases opened
  all_goals
    simp [plain?, markKey?, dropMark?, atMargin, inFlow, hscalar, hcursor.column, push, moveTo,
      allowKey]
    rfl

/-- The scanner reads the colon, and knows where the key began. -/
theorem step?_colon {index : Nat} (hcursor : cursor.Inside (':' :: ' ' :: rest))
    (hshort : cursor.index ≤ index + 1024) (token : Token) (tokens : List Token)
    (opened required : Bool) :
    (atMargin cursor (token :: tokens) opened false
        (some ⟨tokens.length, index, cursor.line, 0, required⟩)).step? =
      some (atMargin (cursor.skip 1) (.value :: token :: .key :: (opening opened ++ tokens)) true
        false none, false) := by
  have hsolid : ∀ c ∈ (':' :: ' ' :: rest).head?, isGap c = false ∧ c ≠ '#' ∧ c ≠ '\ufeff' := by
    rintro c hc
    obtain rfl := Option.some.inj hc
    decide
  have hfresh : ∀ m ∈ some (KeyMark.mk tokens.length index cursor.line 0 required),
      isStale cursor m = false := by
    rintro m hm
    obtain rfl := Option.some.inj hm
    simp [isStale, hshort]
  have hsettles := settles_atMargin
    (skipGap_of_solid (s := atMargin cursor (token :: tokens) opened false _) hcursor.rest hsolid _)
    hfresh
  rw [hsettles.step?_value hcursor.rest hcursor.seesDocumentMark, value?_atMargin, Option.map_some]

/-! ## Values -/

/-- Whether a text is written in such a way that it is read back as the value of a key. -/
structure Writes (written : List Char) (style : Style) (text : String) : Prop where
  admitted : ∀ c ∈ written, isAdmitted c = true
  step : ∀ {cursor : Cursor} {rest : List Char} (tokens : List Token), BeginsLine rest →
    cursor.Inside (' ' :: (written ++ rest)) →
    ∃ s, (atMargin cursor tokens true false none).step? = some (s, false) ∧
      s.AtEntry (.scalar style text :: tokens) true rest

/-- The space behind the colon is passed over. -/
theorem settles_value {c : Char} (hcursor : cursor.Inside (' ' :: c :: rest))
    (hgap : isGap c = false) (hcomment : c ≠ '#') (tokens : List Token) :
    (cursor.skip 1).Inside (c :: rest) ∧
      (atMargin cursor tokens true false none).Settles
        (atMargin (cursor.skip 1) tokens true false none) :=
  ⟨(show cursor.Inside ([] ++ ' ' :: c :: rest) from hcursor).skip_cons,
    settles_atMargin (skipGap_space (s := atMargin cursor tokens true false none) hcursor.rest hgap
      hcomment _) fun _ hm => nomatch hm⟩

theorem isGap_of_beginsLine (hbegins : BeginsLine rest) : ∀ c ∈ rest.head?, isGap c = false :=
  fun c hc => isGap_of_isKeyChar (hbegins c hc)

theorem writes_plain {text : List Char} (h : Style.plain.admits text = true) :
    Writes (text ++ ['\n']) .plain (String.ofList text) where
  admitted := by
    have hprint : text.all isPrintable = true := by
      simp only [Style.admits, Bool.and_eq_true, and_assoc] at h
      exact h.2.1
    refine List.forall_mem_append.mpr ⟨fun c hc => ?_, List.all_eq_true.mp rfl⟩
    exact isAdmitted_of_isPrintable (List.all_eq_true.mp hprint c hc)
  step := by
    intro cursor rest tokens hbegins hcursor
    have hunquoted := Lexeme.IsUnquoted.of_admits h
    obtain ⟨c, more, rfl, hc, hnext⟩ := Lexeme.exists_cons_of_admits h
    have hgap : isGap c = false := by
      by_contra hgap
      exact (hunquoted.first c rfl).1 (hunquoted.spaces c List.mem_cons_self (by simpa using hgap))
    have hcomment : c ≠ '#' := fun h => hc (h ▸ by decide)
    rw [List.append_assoc, List.cons_append] at hcursor
    obtain ⟨hinside, hsettles⟩ := settles_value hcursor hgap hcomment tokens
    have hsecond : c ∈ ['-', '?', ':'] → (cursor.skip 1).seesGap 1 = false := by
      intro hmem
      obtain ⟨d, hd, hsolid⟩ := hnext hmem
      obtain ⟨others, rfl⟩ := List.head?_eq_some_iff.mp hd
      simpa [Cursor.seesGap, Cursor.peek, hinside.rest, isGap] using hsolid
    obtain ⟨after, hscalar, hafter⟩ := Lexeme.plainScalar?_line hunquoted
      (isGap_of_beginsLine hbegins) hinside
    refine ⟨_, ?_, atEntry_of_atLine hafter hbegins _ true⟩
    rw [hsettles.step?_plain hinside.rest hinside.seesDocumentMark
      (Bool.or_eq_false_iff.mp hgap).1 hc hsecond]
    simp [plain?, markKey?, atMargin, inFlow, hscalar, push, moveTo, allowKey]

/-- A quoted text ends in front of the break. -/
theorem step_quoted (single : Bool) {written : List Char} {style : Style} {text : String}
    (tokens : List Token) (hbegins : BeginsLine rest)
    (hcursor : cursor.Inside (' ' :: Lexeme.closing single :: written))
    (hscalar : ∀ {cursor : Cursor}, cursor.Inside (Lexeme.closing single :: written) →
      ∃ after, Lexeme.quotedScalar? single cursor = some (.scalar style text, after) ∧
        after.Inside ('\n' :: rest)) :
    ∃ s, (atMargin cursor tokens true false none).step? = some (s, false) ∧
      s.AtEntry (.scalar style text :: tokens) true rest := by
  obtain ⟨hinside, hsettles⟩ := settles_value hcursor (by cases single <;> rfl)
    (by cases single <;> decide) tokens
  obtain ⟨after, hread, hafter⟩ := hscalar hinside
  refine ⟨_, ?_, atEntry_of_break hafter hbegins _ true⟩
  have hread' : Lexeme.quotedScalar? single (atMargin (cursor.skip 1) tokens true false none).cursor =
      some (.scalar style text, after) := hread
  rw [hsettles.step?_quoted single hinside.rest hinside.seesDocumentMark, hread']
  simp [keyable?, markKey?, atMargin, push, moveTo, allowKey]

theorem writes_double (text : List Char) :
    Writes ('"' :: (text.flatMap escapeChar ++ ['"', '\n'])) .doubleQuoted (String.ofList text) where
  admitted := by
    refine List.forall_mem_cons.mpr ⟨rfl, List.forall_mem_append.mpr
      ⟨fun d hd => ?_, List.all_eq_true.mp rfl⟩⟩
    obtain ⟨c, -, hmem⟩ := List.mem_flatMap.mp hd
    exact Lexeme.isAdmitted_of_mem_escapeChar hmem
  step := by
    intro cursor rest tokens hbegins hcursor
    rw [List.cons_append, List.append_assoc] at hcursor
    exact step_quoted false tokens hbegins hcursor
      fun hinside => Lexeme.quotedScalar?_double text hinside

theorem writes_single {text : List Char} (h : Lexeme.IsSingle text) :
    Writes ('\'' :: (quoteSingle false text ++ ['\'', '\n'])) .singleQuoted
      (String.ofList text) where
  admitted := List.forall_mem_cons.mpr ⟨rfl, List.forall_mem_append.mpr
    ⟨Lexeme.isAdmitted_of_mem_quoteSingle h.printable false, List.all_eq_true.mp rfl⟩⟩
  step := by
    intro cursor rest tokens hbegins hcursor
    rw [List.cons_append, List.append_assoc] at hcursor
    exact step_quoted true tokens hbegins hcursor
      fun hinside => Lexeme.quotedScalar?_single h (fun h => nomatch h) hinside

theorem writes_literal {text : List Char} (h : Lexeme.IsLiteral text) :
    Writes ('|' :: (literalHeader text ++ '\n' :: Lexeme.blockBody true text)) .literal
      (String.ofList text) where
  admitted := List.forall_mem_cons.mpr ⟨rfl, List.forall_mem_append.mpr
    ⟨Lexeme.isAdmitted_of_mem_literalHeader text, List.forall_mem_cons.mpr
      ⟨rfl, Lexeme.isAdmitted_of_mem_blockBody h.printable true⟩⟩⟩
  step := by
    intro cursor rest tokens hbegins hcursor
    rw [List.cons_append, List.append_assoc, List.cons_append] at hcursor
    obtain ⟨hinside, hsettles⟩ := settles_value hcursor rfl (by decide) tokens
    obtain ⟨after, hscalar, hafter⟩ := Lexeme.blockScalar?_literal h (isGap_of_beginsLine hbegins)
      hinside.rest
    refine ⟨_, ?_, atEntry_of_atLine hafter hbegins _ true⟩
    rw [hsettles.step?_literal hinside.rest hinside.seesDocumentMark]
    simp [block?, dropMark?, atMargin, hscalar, push, moveTo, allowKey]

/-- Every text is read back from the style that is chosen for it. -/
theorem writes_writeText (text : List Char) :
    Writes (writeText text) (Style.choose text) (String.ofList text) := by
  have hdouble (hstyle : Style.choose text = .doubleQuoted) :
      Writes (writeText text) (Style.choose text) (String.ofList text) := by
    rw [writeText, hstyle]
    simpa using writes_double text
  by_cases hline : text.contains '\n' = true
  · by_cases hadmits : Style.literal.admits text = true
    · have hstyle : Style.choose text = .literal := by
        rw [Style.choose, if_pos hline, if_pos hadmits]
      have htext := Lexeme.IsLiteral.of_admits hadmits
      rw [Lexeme.writeText_literal hstyle htext.ne_nil, hstyle]
      exact writes_literal htext
    · exact hdouble (by rw [Style.choose, if_pos hline, if_neg hadmits])
  · by_cases hplain : (isPlainText text && Style.plain.admits text) = true
    · have hstyle : Style.choose text = .plain := by
        rw [Style.choose, if_neg hline, if_pos hplain]
      rw [writeText, hstyle]
      exact writes_plain (Bool.and_eq_true_iff.mp hplain).2
    · by_cases hadmits : Style.singleQuoted.admits text = true
      · have hstyle : Style.choose text = .singleQuoted := by
          rw [Style.choose, if_neg hline, if_neg hplain, if_pos hadmits]
        rw [writeText, hstyle]
        simpa using writes_single (Lexeme.IsSingle.of_admits hadmits (by simpa using hline))
      · exact hdouble (by rw [Style.choose, if_neg hline, if_neg hplain, if_neg hadmits])

end Scanner

/-! ## Lines -/

/-- A line that gives a text to a key, and how the text is written. -/
structure Line where
  key : String
  written : List Char
  style : Style
  value : String

namespace Line

open Scanner (IsKey Writes BeginsLine AtEntry atMargin opening)

def text (line : Line) : List Char :=
  line.key.toList ++ [':', ' '] ++ line.written

/-- The tokens of a line. -/
def tokens (line : Line) : List Token :=
  [.key, .scalar .plain line.key, .value, .scalar line.style line.value]

structure IsSound (line : Line) : Prop where
  key : IsKey line.key.toList
  value : Writes line.written line.style line.value

variable {line : Line} {s : Scanner} {rest : List Char}

theorem text_append (line : Line) (rest : List Char) :
    line.text ++ rest = line.key.toList ++ ':' :: ' ' :: (line.written ++ rest) := by
  simp [text]

theorem beginsLine_flatMap {lines : List Line} (h : ∀ line ∈ lines, line.IsSound) :
    BeginsLine (lines.flatMap text) := by
  cases lines with
  | nil => exact fun c hc => nomatch hc
  | cons line lines =>
    have hkey := (h line List.mem_cons_self).key
    obtain ⟨c, more, hc⟩ := List.exists_cons_of_ne_nil hkey.ne_nil
    intro d hd
    rw [List.flatMap_cons, text_append, hc, List.cons_append] at hd
    obtain rfl := Option.some.inj hd
    exact hkey.chars c (hc ▸ List.mem_cons_self)

/-- A line is read in three steps. -/
theorem IsSound.run?_text (hline : line.IsSound) {tokens : List Token} {opened : Bool}
    (hbegins : BeginsLine rest) (h : s.AtEntry tokens opened (line.text ++ rest)) :
    ∃ t : Scanner, t.AtEntry (line.tokens.reverse ++ (opening opened ++ tokens)) true rest ∧
      ∀ fuel, s.run? (fuel + 3) = t.run? fuel := by
  rw [text_append] at h
  obtain ⟨cursor, index, hcursor, hshort, hkey⟩ := Scanner.step?_key hline.key h
  rw [String.ofList_toList] at hkey
  have hcolon := Scanner.step?_colon hcursor hshort (.scalar .plain line.key) tokens opened opened
  have hbehind : (cursor.skip 1).Inside (' ' :: (line.written ++ rest)) :=
    (show cursor.Inside ([] ++ ':' :: _) from hcursor).skip_cons
  obtain ⟨t, hvalue, ht⟩ := hline.value.step
    (.value :: .scalar .plain line.key :: .key :: (opening opened ++ tokens)) hbegins hbehind
  refine ⟨t, ht, fun fuel => ?_⟩
  simp only [Scanner.run?, hkey, hcolon, hvalue]

/-- At the end of the text the block ends. -/
theorem run?_end {tokens : List Token} (h : s.AtEntry tokens true []) (fuel : Nat) :
    (s.run? (fuel + 1)).map Scanner.tokens = some (.blockEnd :: tokens) := by
  obtain ⟨cursor, hcursor, hgap⟩ := h
  have hsettles := Scanner.settles_atMargin hgap fun _ hm => nomatch hm
  have hrest : (atMargin cursor tokens true true none).cursor.rest = [] := hcursor.rest
  rw [Scanner.run?, Scanner.step?, hsettles.gap, hsettles.marks]
  simp only [Option.bind_eq_bind, Option.bind_some]
  rw [hsettles.blocks, hrest]
  simp [Scanner.unroll, Scanner.inFlow, Scanner.closeBlocks, Scanner.dropMark?, Scanner.push, atMargin]

theorem run?_lines {lines : List Line} (h : ∀ line ∈ lines, line.IsSound) {tokens : List Token}
    {opened : Bool} (hopened : lines = [] → opened = true)
    (hs : s.AtEntry tokens opened (lines.flatMap text)) {fuel : Nat}
    (hfuel : 3 * lines.length < fuel) :
    (s.run? fuel).map (·.tokens.reverse) =
      some (tokens.reverse ++ (opening opened ++ (lines.flatMap Line.tokens ++ [.blockEnd]))) := by
  induction lines generalizing s tokens opened fuel with
  | nil =>
    obtain rfl := hopened rfl
    obtain ⟨fuel, rfl⟩ := Nat.exists_eq_succ_of_ne_zero (Nat.ne_zero_of_lt hfuel)
    have hend := congrArg (Option.map List.reverse) (run?_end hs fuel)
    rw [Option.map_map] at hend
    simpa [opening] using hend
  | cons line lines ih =>
    obtain ⟨hline, hlines⟩ := List.forall_mem_cons.mp h
    obtain ⟨fuel, rfl⟩ : ∃ k, fuel = k + 3 := ⟨fuel - 3, by grind⟩
    rw [List.flatMap_cons] at hs
    obtain ⟨t, ht, hrun⟩ := hline.run?_text (beginsLine_flatMap hlines) hs
    rw [hrun, ih hlines (fun _ => rfl) ht (by grind)]
    cases opened <;> simp [opening]

theorem length_lines_le {lines : List Line} (h : ∀ line ∈ lines, line.IsSound) :
    3 * lines.length ≤ (lines.flatMap text).length := by
  induction lines with
  | nil => exact Nat.le_refl 0
  | cons line lines ih =>
    obtain ⟨hline, hlines⟩ := List.forall_mem_cons.mp h
    have hkey := List.length_pos_iff.mpr hline.key.ne_nil
    have hlength : 3 ≤ line.text.length := by
      simp only [text, List.length_append, List.length_cons, List.length_nil]
      omega
    have hmore := ih hlines
    rw [List.flatMap_cons, List.length_append, List.length_cons]
    omega

theorem isAdmitted_of_isKeyChar {c : Char} (hc : Scanner.isKeyChar c = true) :
    isAdmitted c = true := by
  obtain hlower | rfl : c.isLower = true ∨ c = '_' := by simpa [Scanner.isKeyChar] using hc
  · obtain ⟨hlow, hhigh⟩ := Bool.and_eq_true_iff.mp hlower
    have hcode : 97 ≤ c.toNat ∧ c.toNat ≤ 122 :=
      ⟨UInt32.le_iff_toNat_le.mp (of_decide_eq_true hlow),
        UInt32.le_iff_toNat_le.mp (of_decide_eq_true hhigh)⟩
    simp [isAdmitted]
    omega
  · rfl

theorem IsSound.admitted (h : line.IsSound) : ∀ c ∈ line.text, isAdmitted c = true :=
  List.forall_mem_append.mpr ⟨List.forall_mem_append.mpr
    ⟨fun c hc => isAdmitted_of_isKeyChar (h.key.chars c hc), List.all_eq_true.mp rfl⟩,
      h.value.admitted⟩

end Line

/-- The tokens of a document are those of its lines, inside of one block. -/
theorem tokens?_lines {lines : List Line} (h : ∀ line ∈ lines, line.IsSound) (hne : lines ≠ []) :
    tokens? (lines.flatMap Line.text) =
      some (.blockMappingStart :: (lines.flatMap Line.tokens ++ [.blockEnd])) := by
  have hbegins := Line.beginsLine_flatMap h
  have hmark : ((lines.flatMap Line.text).head? == some '\ufeff') = false := by
    rw [beq_eq_false_iff_ne]
    exact fun hmark => nomatch hbegins '\ufeff' hmark
  have hadmitted : (lines.flatMap Line.text).all isAdmitted = true := by
    rw [List.all_eq_true]
    intro c hc
    obtain ⟨line, hline, hmem⟩ := List.mem_flatMap.mp hc
    exact (h line hline).admitted c hmem
  have hstart : (Scanner.ofText (lines.flatMap Line.text)).AtEntry [] false
      (lines.flatMap Line.text) :=
    Scanner.atEntry_of_atLine ⟨rfl, rfl⟩ hbegins [] false
  rw [tokens?, hmark]
  simp only [Bool.false_eq_true, if_false]
  rw [if_pos hadmitted, Line.run?_lines h (fun hnil => absurd hnil hne) hstart
    (Nat.lt_succ_of_le (Line.length_lines_le h))]
  rfl

end FetchClient.Yaml
