import FetchClient.Proofs.Yaml.Gaps

/-!
# Texts written in quotes are read back

- `quotedStretch?_double`, `quotedStretch?_single`: the stretches between the gaps;
- `quotedInside?_step`: one stretch with the gap behind it;
- `quotedScalar?_double`, `quotedScalar?_single`: every text in double quotes, and the texts that
  single quotes can hold.
-/

namespace FetchClient.Yaml.Lexeme

open Json (hexValue?)

variable {cursor : Cursor} {rest : List Char}

/-! ## Escapes -/

theorem hexValue?_two {n : Nat} (h : n < 0xA0) : hexValue? (hexDigits 2 n) = some n := by
  decide +revert +kernel

theorem length_hexDigits_two {n : Nat} (h : n < 0xA0) : (hexDigits 2 n).length = 2 := by
  decide +revert +kernel

/-- The characters that only their code can stand for. -/
theorem code_of_not_isPrintable {c : Char} (h : isPrintable c = false) (htab : c ≠ '\t')
    (hreturn : c ≠ '\r') (hnext : c ≠ '\x85') (hline : c ≠ '\n') :
    c.toNat < 0xA0 ∨ c.toNat = 0xFEFF ∨ c.toNat = 0xFFFE ∨ c.toNat = 0xFFFF := by
  by_cases hmark : c = '\ufeff'
  · subst hmark
    exact .inr (.inl rfl)
  · have hvalid : c.toNat < 0xD800 ∨ 0xDFFF < c.toNat := by
      have hvalid : c.toNat < 0xD800 ∨ 0xDFFF < c.toNat ∧ c.toNat < 0x110000 := c.valid
      omega
    have hadmitted : isAdmitted c = false := by
      simpa [isPrintable, htab, hreturn, hnext, hmark] using h
    simp [isAdmitted] at hadmitted
    omega

/-- The characters that one letter stands for. -/
def lettered : List Char :=
  ['\x00', '\x07', '\x08', '\t', '\n', '\x0b', '\x0c', '\r', '\x1b', '"', '\\', '\x85', '\u2028',
    '\u2029']

theorem escapeChar_of_mem_lettered {c : Char} (h : c ∈ lettered) :
    ∃ letter, escapeChar c = ['\\', letter] ∧ isBreak letter = false ∧
      escapeWidth? letter = none ∧ simpleEscape? letter = some c := by
  simp only [lettered, List.mem_cons, List.not_mem_nil, or_false] at h
  obtain rfl | rfl | rfl | rfl | rfl | rfl | rfl | rfl | rfl | rfl | rfl | rfl | rfl | rfl := h
  all_goals exact ⟨_, rfl, rfl, rfl, rfl⟩

theorem escapeChar_of_not_mem_lettered {c : Char} (h : c ∉ lettered) :
    escapeChar c =
      if isPrintable c then [c]
      else if c.toNat ≤ 0xFF then ['\\', 'x'] ++ hexDigits 2 c.toNat
      else if c.toNat ≤ 0xFFFF then ['\\', 'u'] ++ hexDigits 4 c.toNat
      else ['\\', 'U'] ++ hexDigits 8 c.toNat := by
  simp only [lettered, List.mem_cons, not_or] at h
  obtain ⟨h0, ha, hb, htab, hline, hv, hf, hreturn, he, hquote, hslash, hnext, hlines, hparagraphs, -⟩ := h
  rw [escapeChar, if_neg h0, if_neg ha, if_neg hb, if_neg htab, if_neg hline, if_neg hv, if_neg hf,
    if_neg hreturn, if_neg he, if_neg hquote, if_neg hslash, if_neg hnext, if_neg hlines,
    if_neg hparagraphs]

/-- The three ways in which a character is written in double quotes. -/
theorem escapeChar_cases (c : Char) :
    (∃ letter, escapeChar c = ['\\', letter] ∧ isBreak letter = false ∧
      escapeWidth? letter = none ∧ simpleEscape? letter = some c) ∨
    (∃ letter digits, escapeChar c = '\\' :: letter :: digits ∧ isBreak letter = false ∧
      escapeWidth? letter = some digits.length ∧ hexValue? digits = some c.toNat) ∨
    (escapeChar c = [c] ∧ isBreak c = false ∧ c ≠ '\t' ∧ c ≠ '"' ∧ c ≠ '\\') := by
  by_cases hmem : c ∈ lettered
  · exact .inl (escapeChar_of_mem_lettered hmem)
  have hne {d : Char} (hd : d ∈ lettered) : c ≠ d := fun h => hmem (h ▸ hd)
  rw [escapeChar_of_not_mem_lettered hmem]
  cases hprint : isPrintable c with
  | true =>
    refine .inr (.inr ⟨rfl, ?_, hne (by decide), hne (by decide), hne (by decide)⟩)
    simp [isBreak, hne (show '\n' ∈ lettered by decide), hne (show '\r' ∈ lettered by decide),
      hne (show '\x85' ∈ lettered by decide), hne (show '\u2028' ∈ lettered by decide),
      hne (show '\u2029' ∈ lettered by decide)]
  | false =>
    have hcode := code_of_not_isPrintable hprint (hne (by decide)) (hne (by decide))
      (hne (by decide)) (hne (by decide))
    rw [if_neg (by decide)]
    by_cases hbyte : c.toNat ≤ 0xFF
    · have hsmall : c.toNat < 0xA0 := by omega
      rw [if_pos hbyte]
      refine .inr (.inl ⟨'x', hexDigits 2 c.toNat, rfl, rfl, ?_, hexValue?_two hsmall⟩)
      rw [length_hexDigits_two hsmall]
      rfl
    · have hword : c.toNat ≤ 0xFFFF := by omega
      rw [if_neg hbyte, if_pos hword]
      refine .inr (.inl ⟨'u', _, rfl, rfl, ?_⟩)
      obtain hcode | hcode | hcode | hcode := hcode
      · omega
      all_goals
        rw [hcode]
        decide

/-! ## Admitted characters -/

theorem mem_hexDigits {count n : Nat} {d : Char} (h : d ∈ hexDigits count n) :
    d ∈ "0123456789ABCDEF".toList := by
  have hdigit : ∀ m < 16, m.digitChar.toUpper ∈ "0123456789ABCDEF".toList := by decide
  have hdigits : ∀ m, ∀ c ∈ Nat.toDigits 16 m, c.toUpper ∈ "0123456789ABCDEF".toList := by
    intro m
    induction m using Nat.strongRecOn with
    | ind m ih =>
      intro c hc
      rw [Nat.toDigits_eq_if (by decide)] at hc
      split at hc
      · rw [List.mem_singleton.mp hc]
        exact hdigit m ‹m < 16›
      · obtain hc | hc := List.mem_append.mp hc
        · exact ih (m / 16) (by omega) c hc
        · rw [List.mem_singleton.mp hc]
          exact hdigit _ (Nat.mod_lt m (by decide))
  obtain h | h := List.mem_append.mp h
  · rw [List.eq_of_mem_replicate h]
    decide
  · obtain ⟨c, hc, rfl⟩ := List.mem_map.mp h
    exact hdigits n c hc

theorem isAdmitted_of_mem_escapeChar {c d : Char} (h : d ∈ escapeChar c) : isAdmitted d = true := by
  by_cases hmem : c ∈ lettered
  · have hlettered : ∀ c ∈ lettered, (escapeChar c).all isAdmitted = true :=
      List.all_eq_true.mp (by decide)
    exact List.all_eq_true.mp (hlettered c hmem) d h
  · have hhex : ∀ d ∈ "0123456789ABCDEF".toList, isAdmitted d = true :=
      List.all_eq_true.mp (by decide)
    rw [escapeChar_of_not_mem_lettered hmem] at h
    split_ifs at h with hprint
    · rw [List.mem_singleton.mp h]
      exact isAdmitted_of_isPrintable hprint
    all_goals
      refine (List.mem_append.mp h).elim (fun hd => ?_) fun hd => hhex d (mem_hexDigits hd)
      exact List.all_eq_true.mp (by decide) d hd

/-! ## Stretches -/

/-- The characters of a text in single quotes, where there are no breaks. -/
def doubleQuote (c : Char) : List Char :=
  if c = '\'' then ['\'', '\''] else [c]

/-- The answer of a reader with one more character in front of the text. -/
def addChar {α : Type} (c : Char) (answer : List Char × α) : List Char × α :=
  (c :: answer.1, answer.2)

theorem escape?_letter {c letter : Char} (hrest : cursor.rest = '\\' :: letter :: rest)
    (hwidth : escapeWidth? letter = none) (hletter : simpleEscape? letter = some c) :
    escape? cursor = some (c, cursor.skip 2) := by
  simp [escape?, Cursor.peek, hrest, hwidth, hletter]

theorem escape?_digits {c letter : Char} {digits : List Char}
    (hrest : cursor.rest = '\\' :: letter :: (digits ++ rest))
    (hwidth : escapeWidth? letter = some digits.length) (hcode : hexValue? digits = some c.toNat) :
    escape? cursor = some (c, cursor.skip (digits.length + 2)) := by
  have hvalid : c.toNat.isValidChar := c.valid
  simp [escape?, Cursor.peek, hrest, hwidth, hcode, hvalid, Nat.add_comm]

theorem quotedStretch?_escapeChar {c : Char} (hc : c ≠ ' ')
    (hrest : cursor.rest = escapeChar c ++ rest) (fuel : Nat) :
    quotedStretch? false (fuel + 1) cursor =
      (quotedStretch? false fuel (cursor.skip (escapeChar c).length)).map (addChar c) := by
  obtain ⟨letter, hchar, hbreak, hwidth, hletter⟩ | ⟨letter, digits, hchar, hbreak, hwidth, hcode⟩ |
      ⟨hchar, hbreak, htab, hquote, hslash⟩ := escapeChar_cases c
  · rw [hchar] at hrest ⊢
    have hopen : cursor.seesBreak 1 = false := by simp [Cursor.seesBreak, Cursor.peek, hrest, hbreak]
    rw [quotedStretch?, hrest]
    simp only [List.cons_append, show isBlank '\\' = false from rfl,
      show isBreak '\\' = false from rfl, hopen, escape?_letter hrest hwidth hletter,
      Option.bind_eq_bind, Option.bind_some, Option.map_eq_bind]
    rfl
  · rw [hchar] at hrest ⊢
    have hopen : cursor.seesBreak 1 = false := by simp [Cursor.seesBreak, Cursor.peek, hrest, hbreak]
    rw [quotedStretch?, hrest]
    simp only [List.cons_append, show isBlank '\\' = false from rfl,
      show isBreak '\\' = false from rfl, hopen, escape?_digits hrest hwidth hcode,
      Option.bind_eq_bind, Option.bind_some, Option.map_eq_bind]
    rfl
  · rw [hchar] at hrest ⊢
    rw [quotedStretch?, hrest]
    simp [isBlank, hc, htab, hbreak, hquote, hslash, Option.map_eq_bind]
    rfl

theorem quotedStretch?_doubleQuote {c : Char} (hc : isGap c = false)
    (hrest : cursor.rest = doubleQuote c ++ rest) (fuel : Nat) :
    quotedStretch? true (fuel + 1) cursor =
      (quotedStretch? true fuel (cursor.skip (doubleQuote c).length)).map (addChar c) := by
  obtain ⟨hblank, hbreak⟩ : isBlank c = false ∧ isBreak c = false := by simpa [isGap] using hc
  by_cases hquote : c = '\''
  · have hsecond : cursor.sees '\'' 1 = true := by
      simp [Cursor.sees, Cursor.peek, hrest, doubleQuote, hquote]
    rw [quotedStretch?, hrest]
    simp [doubleQuote, hquote, hsecond, Option.map_eq_bind]
    rfl
  · rw [quotedStretch?, hrest]
    simp [doubleQuote, hquote, hblank, hbreak, Option.map_eq_bind]
    rfl

/-- A stretch ends where the first gap or the closing quote is. -/
def EndsStretch (single : Bool) (rest : List Char) : Prop :=
  ∀ fuel cursor, cursor.rest = rest → quotedStretch? single fuel cursor = some ([], cursor, false)

theorem endsStretch_of_isGap {c : Char} (hc : isGap c = true) (single : Bool) (rest : List Char) :
    EndsStretch single (c :: rest) := by
  intro fuel cursor hrest
  cases fuel with
  | zero => rfl
  | succ fuel =>
    rw [quotedStretch?, hrest]
    exact if_pos hc

theorem endsStretch_double (rest : List Char) : EndsStretch false ('"' :: rest) := by
  intro fuel cursor hrest
  cases fuel with
  | zero => rfl
  | succ fuel =>
    rw [quotedStretch?, hrest]
    rfl

theorem endsStretch_single (hrest : rest.head? ≠ some '\'') :
    EndsStretch true ('\'' :: rest) := by
  intro fuel cursor hcursor
  have hsecond : cursor.sees '\'' 1 = false := by
    simp [Cursor.sees, Cursor.peek, hcursor, ← List.head?_eq_getElem?, hrest]
  cases fuel with
  | zero => rfl
  | succ fuel =>
    rw [quotedStretch?, hcursor]
    simp [isBlank, isBreak, hsecond]

/-- A stretch is read character by character. -/
theorem quotedStretch?_flatMap {single : Bool} {write : Char → List Char} {stretch : List Char}
    (hwrite : ∀ c ∈ stretch, ∀ cursor rest fuel, cursor.rest = write c ++ rest →
      quotedStretch? single (fuel + 1) cursor =
        (quotedStretch? single fuel (cursor.skip (write c).length)).map (addChar c))
    (hend : EndsStretch single rest) (hrest : cursor.rest = stretch.flatMap write ++ rest)
    {fuel : Nat} (hfuel : stretch.length ≤ fuel) :
    quotedStretch? single fuel cursor =
      some (stretch, cursor.skip (stretch.flatMap write).length, false) := by
  induction stretch generalizing cursor fuel with
  | nil => 
    rw [hend fuel cursor hrest]
    rfl
  | cons c stretch ih =>
    obtain ⟨hc, hothers⟩ := List.forall_mem_cons.mp hwrite
    cases fuel with
    | zero => cases hfuel
    | succ fuel =>
      rw [List.flatMap_cons, List.append_assoc] at hrest
      rw [hc cursor _ fuel hrest, ih hothers _ (Nat.le_of_succ_le_succ hfuel), Cursor.skip_skip,
        List.flatMap_cons, List.length_append]
      · rfl
      · exact Cursor.rest_skip hrest

theorem length_le_flatMap {write : Char → List Char} (hwrite : ∀ c, write c ≠ [])
    (stretch : List Char) : stretch.length ≤ (stretch.flatMap write).length := by
  induction stretch with
  | nil => exact Nat.le_refl 0
  | cons c stretch ih =>
    have hc := List.length_pos_iff.mpr (hwrite c)
    rw [List.flatMap_cons, List.length_append, List.length_cons]
    omega

/-! ## Rounds of a stretch and a gap -/

def closing (single : Bool) : Char :=
  if single then '\'' else '"'

section Round

variable {single : Bool} {stretch written more : List Char} {c : Char}
  (hinside : cursor.Inside (written ++ c :: more))
  (hstretch : quotedStretch? single cursor.rest.length cursor =
    some (stretch, cursor.skip written.length, false))
include hinside hstretch

theorem quotedInside?_closing (hc : c = closing single) (fuel : Nat) :
    quotedInside? single (fuel + 1) cursor = some (stretch, cursor.skip (written.length + 1)) := by
  have hopen : cursor.atEnd = false := by simp [Cursor.atEnd, hinside.rest]
  have hquote : (cursor.skip written.length).sees (closing single) 0 = true := by
    rw [hinside.skip.sees_zero, hc, beq_self_eq_true]
  rw [closing] at hquote
  simp [quotedInside?, hinside.seesDocumentMark, hopen, hstretch, hquote, Cursor.skip_skip]

theorem quotedInside?_gap (hc : c ≠ closing single) {gap : Gap} {after : Cursor}
    (hgap : Gap.read? (-1) (c :: more).length Gap.none (cursor.skip written.length) =
      some (gap, after)) (fuel : Nat) :
    quotedInside? single (fuel + 1) cursor =
      (quotedInside? single fuel after).map fun answer =>
        (stretch ++ (gap.folded ++ answer.1), answer.2) := by
  have hopen : cursor.atEnd = false := by simp [Cursor.atEnd, hinside.rest]
  have hquote : (cursor.skip written.length).sees (closing single) 0 = false := by
    rw [hinside.skip.sees_zero, beq_eq_false_iff_ne]
    exact hc
  rw [closing] at hquote
  rw [← hinside.skip.rest] at hgap
  simp [quotedInside?, hinside.seesDocumentMark, hopen, hstretch, hquote, hgap, Option.map_eq_bind]

end Round

/-! ## Double quotes -/

theorem flatMap_eq_self {write : Char → List Char} {text : List Char}
    (h : ∀ c ∈ text, write c = [c]) : text.flatMap write = text :=
  (List.flatMap_congr h).trans (List.flatMap_singleton' text)

theorem head?_escapeChar {c : Char} (hc : c ≠ ' ') :
    ∀ d ∈ (escapeChar c ++ rest).head?, isGap d = false := by
  intro d hd
  obtain ⟨letter, hchar, -⟩ | ⟨letter, digits, hchar, -⟩ | ⟨hchar, hbreak, htab, -⟩ :=
    escapeChar_cases c
  all_goals
    rw [hchar] at hd
    obtain rfl := Option.some.inj hd
  · rfl
  · rfl
  · simp [isGap, isBlank, hc, htab, hbreak]

theorem escapeChar_ne_nil (c : Char) : escapeChar c ≠ [] := by
  obtain ⟨letter, hchar, -⟩ | ⟨letter, digits, hchar, -⟩ | ⟨hchar, -⟩ := escapeChar_cases c
  all_goals simp [hchar]

theorem quotedStretch?_double {stretch : List Char} (hstretch : ∀ c ∈ stretch, c ≠ ' ')
    (hend : EndsStretch false rest) (hrest : cursor.rest = stretch.flatMap escapeChar ++ rest) :
    quotedStretch? false cursor.rest.length cursor =
      some (stretch, cursor.skip (stretch.flatMap escapeChar).length, false) := by
  refine quotedStretch?_flatMap (fun c hc _ _ fuel hrest => ?_) hend hrest ?_
  · exact quotedStretch?_escapeChar (hstretch c hc) hrest fuel
  · rw [hrest, List.length_append]
    exact Nat.le_add_right_of_le (length_le_flatMap escapeChar_ne_nil stretch)

theorem quotedInside?_double {text : List Char} {fuel : Nat} (hfuel : text.length < fuel)
    (hinside : cursor.Inside (text.flatMap escapeChar ++ '"' :: rest)) :
    ∃ after, quotedInside? false fuel cursor = some (text, after) ∧ after.Inside rest := by
  -- The text gets shorter by a stretch and a gap in each round.
  induction hlength : text.length using Nat.strongRecOn generalizing text fuel cursor with
  | ind length ih =>
    obtain ⟨stretch, gap, text, rfl, hstretch, hgap, hsolid, hempty⟩ := exists_stretch isSpace text
    obtain ⟨fuel, rfl⟩ := Nat.exists_eq_succ_of_ne_zero (Nat.ne_zero_of_lt hfuel)
    replace hstretch : ∀ c ∈ stretch, c ≠ ' ' := fun c hc => by simpa [isSpace] using hstretch c hc
    have hspaces : ∀ c ∈ gap, c = ' ' := fun c hc => by simpa [isSpace] using hgap c hc
    cases gap with
    | nil =>
      obtain rfl := hempty rfl
      simp only [List.append_nil] at hinside ⊢
      exact ⟨_, quotedInside?_closing hinside
        (quotedStretch?_double hstretch (endsStretch_double rest) hinside.rest) rfl fuel,
        hinside.skip_cons⟩
    | cons c gap =>
      obtain rfl := hspaces c List.mem_cons_self
      have hbehind : ∀ c ∈ (text.flatMap escapeChar ++ '"' :: rest).head?, isGap c = false := by
        cases text with
        | nil => exact fun c hc => Option.some.inj hc ▸ rfl
        | cons d text =>
          rw [List.flatMap_cons, List.append_assoc]
          exact head?_escapeChar (by simpa [isSpace] using hsolid d rfl)
      have hwritten : (' ' :: gap).flatMap escapeChar = ' ' :: gap :=
        flatMap_eq_self fun c hc => hspaces c hc ▸ rfl
      rw [List.flatMap_append, List.flatMap_append, hwritten, List.append_assoc,
        List.append_assoc] at hinside
      have hround := quotedInside?_gap hinside
        (quotedStretch?_double hstretch (endsStretch_of_isGap rfl false _) hinside.rest) (by decide)
        (Gap.read?_spaces hspaces Gap.none hinside.skip.rest hbehind
          (Nat.succ_le_succ (List.sublist_append_left ..).length_le)) fuel
      have hshorter : text.length < length ∧ text.length < fuel := by
        simp only [List.length_append, List.length_cons] at hlength hfuel
        omega
      obtain ⟨after, hmore, hafter⟩ := ih text.length hshorter.1 hshorter.2 hinside.skip.skip rfl
      refine ⟨after, ?_, hafter⟩
      rw [hround, hmore, Gap.folded_addSpaces]
      rfl

/-- Every text in double quotes is read back. -/
theorem quotedScalar?_double (text : List Char)
    (hinside : cursor.Inside ('"' :: (text.flatMap escapeChar ++ '"' :: rest))) :
    ∃ after, quotedScalar? false cursor = some (.scalar .doubleQuoted (String.ofList text), after) ∧
      after.Inside rest := by
  have hbehind : (cursor.skip 1).Inside (text.flatMap escapeChar ++ '"' :: rest) :=
    (show cursor.Inside ([] ++ '"' :: _) from hinside).skip_cons
  have hfuel : text.length < cursor.rest.length + 1 := by
    have hle := length_le_flatMap escapeChar_ne_nil text
    rw [hinside.rest, List.length_cons, List.length_append]
    omega
  obtain ⟨after, hread, hafter⟩ := quotedInside?_double hfuel hbehind
  exact ⟨after, by simp [quotedScalar?, hread], hafter⟩

/-! ## Single quotes -/

/-- The texts that stand in single quotes. -/
structure IsSingle (text : List Char) : Prop where
  printable : ∀ c ∈ text, isPrintable c = true
  noLine : '\n' ∉ text
  noSpaceBreak : text.IsChain fun c d => isSpace c = true → isBreak d = false
  noBreakSpace : text.IsChain fun c d => isBreak c = true → isSpace d = false

namespace IsSingle

variable {text more : List Char}

theorem of_admits (hadmits : Style.singleQuoted.admits text = true) (hline : '\n' ∉ text) :
    IsSingle text := by
  simp only [Style.admits, Bool.and_eq_true, Bool.not_eq_true', List.all_eq_true,
    hasPair_eq_false_iff] at hadmits
  exact ⟨hadmits.1.1, hline, hadmits.1.2, hadmits.2⟩

theorem of_append (h : IsSingle (text ++ more)) : IsSingle text ∧ IsSingle more where
  left := ⟨fun c hc => h.printable c (List.mem_append_left _ hc),
    fun hc => h.noLine (List.mem_append_left _ hc), h.noSpaceBreak.left_of_append,
    h.noBreakSpace.left_of_append⟩
  right := ⟨fun c hc => h.printable c (List.mem_append_right _ hc),
    fun hc => h.noLine (List.mem_append_right _ hc), h.noSpaceBreak.right_of_append,
    h.noBreakSpace.right_of_append⟩

/-- A gap in single quotes is of one kind. -/
theorem spaces_or_breaks {gap : List Char} (h : IsSingle gap) (hgap : ∀ c ∈ gap, isGap c = true) :
    (∀ c ∈ gap, c = ' ') ∨ ∀ c ∈ gap, IsKeptBreak c := by
  induction gap with
  | nil => exact .inl fun c hc => nomatch hc
  | cons c gap ih =>
    obtain ⟨hc, hothers⟩ := List.forall_mem_cons.mp hgap
    have hprint := h.printable c List.mem_cons_self
    have htab : c ≠ '\t' := by
      rintro rfl
      cases hprint
    have hkind : c = ' ' ∨ IsKeptBreak c := by
      simp only [isGap, isBlank, Bool.or_eq_true, beq_iff_eq, htab, or_false] at hc
      exact hc.imp_right fun hbreak => isKeptBreak hbreak hprint
    -- Neighbours are of one kind, and so are all others by the induction.
    cases gap with
    | nil => simpa using hkind
    | cons d gap =>
      have hspaceBreak := (List.isChain_cons_cons.mp h.noSpaceBreak).1
      have hbreakSpace := (List.isChain_cons_cons.mp h.noBreakSpace).1
      have hrest : IsSingle (d :: gap) := (show IsSingle ([c] ++ d :: gap) from h).of_append.2
      refine (ih hrest hothers).imp (fun hspaces => ?_) (fun hbreaks => ?_)
      · refine List.forall_mem_cons.mpr ⟨hkind.resolve_right fun hbreak => ?_, hspaces⟩
        have hd := hbreakSpace hbreak.isBreak
        rw [hspaces d List.mem_cons_self] at hd
        cases hd
      · refine List.forall_mem_cons.mpr ⟨hkind.resolve_left ?_, hbreaks⟩
        rintro rfl
        have hd := hspaceBreak rfl
        rw [(hbreaks d List.mem_cons_self).isBreak] at hd
        cases hd

end IsSingle

theorem isAdmitted_of_mem_quoteSingle {text : List Char} (h : ∀ c ∈ text, isPrintable c = true)
    (afterBreak : Bool) : ∀ c ∈ quoteSingle afterBreak text, isAdmitted c = true := by
  have hindent (afterBreak : Bool) :
      ∀ c ∈ (if afterBreak then indentation else []), isAdmitted c = true := by
    cases afterBreak <;> exact List.all_eq_true.mp rfl
  induction text generalizing afterBreak with
  | nil => exact hindent afterBreak
  | cons c text ih =>
    obtain ⟨hc, hothers⟩ := List.forall_mem_cons.mp h
    have hadmitted := isAdmitted_of_isPrintable hc
    rw [quoteSingle]
    split
    · exact List.forall_mem_cons.mpr ⟨hadmitted, ih hothers true⟩
    · refine List.forall_mem_append.mpr ⟨List.forall_mem_append.mpr ⟨hindent afterBreak, ?_⟩,
        ih hothers false⟩
      split
      · exact List.all_eq_true.mp rfl
      · exact List.forall_mem_singleton.mpr hadmitted

theorem length_le_quoteSingle (afterBreak : Bool) (text : List Char) :
    text.length ≤ (quoteSingle afterBreak text).length := by
  induction text generalizing afterBreak with
  | nil => exact Nat.zero_le _
  | cons c text ih =>
    have htrue := ih true
    have hfalse := ih false
    rw [quoteSingle, List.length_cons]
    split
    · rw [List.length_cons]
      omega
    · have hc : 0 < (if c = '\'' then ['\'', '\''] else [c]).length := by
        split <;> exact Nat.zero_lt_succ _
      rw [List.length_append, List.length_append]
      omega

theorem quoteSingle_append {stretch : List Char} (h : ∀ c ∈ stretch, isBreak c = false)
    (more : List Char) :
    quoteSingle false (stretch ++ more) = stretch.flatMap doubleQuote ++ quoteSingle false more := by
  induction stretch with
  | nil => rfl
  | cons c stretch ih =>
    obtain ⟨hc, hothers⟩ := List.forall_mem_cons.mp h
    rw [List.cons_append, quoteSingle, ih hothers, List.flatMap_cons]
    simp [hc, doubleQuote]

/-- Behind breaks the next line is indented. -/
theorem quoteSingle_breaks {breaks : List Char} (h : ∀ c ∈ breaks, isBreak c = true) {more : List Char}
    (hmore : ∀ c ∈ more.head?, isBreak c = false) :
    quoteSingle true (breaks ++ more) = breaks ++ (indentation ++ quoteSingle false more) := by
  induction breaks with
  | nil =>
    cases more with
    | nil => rfl
    | cons c more => simp [quoteSingle, hmore c rfl]
  | cons c breaks ih =>
    obtain ⟨hc, hothers⟩ := List.forall_mem_cons.mp h
    rw [List.cons_append, quoteSingle, if_pos hc, ih hothers, List.cons_append]

theorem quotedStretch?_single {stretch : List Char} (hstretch : ∀ c ∈ stretch, isGap c = false)
    (hend : EndsStretch true rest) (hrest : cursor.rest = stretch.flatMap doubleQuote ++ rest) :
    quotedStretch? true cursor.rest.length cursor =
      some (stretch, cursor.skip (stretch.flatMap doubleQuote).length, false) := by
  refine quotedStretch?_flatMap (fun c hc _ _ fuel hrest => ?_) hend hrest ?_
  · exact quotedStretch?_doubleQuote (hstretch c hc) hrest fuel
  · rw [hrest, List.length_append]
    exact Nat.le_add_right_of_le
      (length_le_flatMap (fun c => by unfold doubleQuote; split <;> simp) stretch)

theorem quoteSingle_cons {c : Char} (hc : isBreak c = false) (more : List Char) :
    quoteSingle false (c :: more) = doubleQuote c ++ quoteSingle false more := by
  simp [quoteSingle, doubleQuote, hc]

theorem head?_quoteSingle {text : List Char} (h : ∀ c ∈ text.head?, isGap c = false)
    (rest : List Char) :
    ∀ c ∈ (quoteSingle false text ++ '\'' :: rest).head?, isGap c = false := by
  cases text with
  | nil => exact fun c hc => Option.some.inj hc ▸ rfl
  | cons c text =>
    obtain ⟨hblank, hbreak⟩ : isBlank c = false ∧ isBreak c = false := by simpa [isGap] using h c rfl
    intro d hd
    rw [quoteSingle_cons hbreak, doubleQuote] at hd
    split at hd
    · exact Option.some.inj hd ▸ rfl
    · exact Option.some.inj hd ▸ h c rfl

/-- A gap between two stretches. -/
theorem readGap_single {gap text : List Char} (hne : gap ≠ []) (hsingle : IsSingle gap)
    (hgap : ∀ c ∈ gap, isGap c = true) (htext : ∀ c ∈ text.head?, isGap c = false)
    (hinside : cursor.Inside (quoteSingle false (gap ++ text) ++ '\'' :: rest)) :
    ∃ found after, Gap.read? (-1) cursor.rest.length Gap.none cursor = some (found, after) ∧
      found.folded = gap ∧ after.Inside (quoteSingle false text ++ '\'' :: rest) := by
  have hbehind := head?_quoteSingle htext rest
  obtain hspaces | hbreaks := hsingle.spaces_or_breaks hgap
  · have hwritten : gap.flatMap doubleQuote = gap :=
      flatMap_eq_self fun c hc => hspaces c hc ▸ rfl
    rw [quoteSingle_append (fun c hc => hspaces c hc ▸ rfl), hwritten, List.append_assoc] at hinside
    have hfuel : gap.length ≤ cursor.rest.length := by
      rw [hinside.rest]
      exact (List.sublist_append_left ..).length_le
    exact ⟨_, _, Gap.read?_spaces hspaces Gap.none hinside.rest hbehind hfuel,
      Gap.folded_addSpaces gap, hinside.skip⟩
  · have hfirst : quoteSingle false (gap ++ text) = quoteSingle true (gap ++ text) := by
      obtain ⟨c, gap, rfl⟩ := List.exists_cons_of_ne_nil hne
      simp [quoteSingle, (hbreaks c List.mem_cons_self).isBreak]
    have hsolid : ∀ c ∈ text.head?, isBreak c = false := fun c hc =>
      (Bool.or_eq_false_iff.mp (htext c hc)).2
    rw [hfirst, quoteSingle_breaks (fun c hc => (hbreaks c hc).isBreak) hsolid, List.append_assoc,
      List.append_assoc] at hinside
    have hfuel : (gap ++ indentation).length ≤ cursor.rest.length := by
      rw [hinside.rest, ← List.append_assoc]
      exact (List.sublist_append_left ..).length_le
    obtain ⟨after, hread, hrest, hcolumn⟩ := Gap.read?_breaks hbreaks
      (show ∀ c ∈ indentation, c = ' ' by simp [indentation]) Gap.none (fun h => absurd h hne) hinside.rest
      hbehind hfuel
    exact ⟨_, after, hread, Gap.folded_breaks hne hsingle.noLine, hrest, by rw [hcolumn]; decide⟩

theorem quotedInside?_single {text : List Char} (hsingle : IsSingle text) {fuel : Nat}
    (hfuel : text.length < fuel) (hrest : rest.head? ≠ some '\'')
    (hinside : cursor.Inside (quoteSingle false text ++ '\'' :: rest)) :
    ∃ after, quotedInside? true fuel cursor = some (text, after) ∧ after.Inside rest := by
  induction hlength : text.length using Nat.strongRecOn generalizing text fuel cursor with
  | ind length ih =>
    obtain ⟨stretch, gap, text, rfl, hstretch, hgap, hsolid, hempty⟩ := exists_stretch isGap text
    obtain ⟨fuel, rfl⟩ := Nat.exists_eq_succ_of_ne_zero (Nat.ne_zero_of_lt hfuel)
    have hunbroken : ∀ c ∈ stretch, isBreak c = false := fun c hc =>
      (Bool.or_eq_false_iff.mp (hstretch c hc)).2
    rw [quoteSingle_append hunbroken, List.append_assoc] at hinside
    cases gap with
    | nil =>
      obtain rfl := hempty rfl
      simp only [List.append_nil] at hinside ⊢
      exact ⟨_, quotedInside?_closing hinside
        (quotedStretch?_single hstretch (endsStretch_single hrest) hinside.rest) rfl fuel,
        hinside.skip_cons⟩
    | cons c gap =>
      have hc := hgap c List.mem_cons_self
      have hquote : c ≠ '\'' := by
        rintro rfl
        cases hc
      obtain ⟨found, after, hread, hfolded, hafter⟩ := readGap_single (List.cons_ne_nil c gap)
        hsingle.of_append.2.of_append.1 hgap hsolid hinside.skip
      obtain ⟨more, hmore⟩ : ∃ more,
          quoteSingle false (c :: gap ++ text) ++ '\'' :: rest = c :: more := by
        by_cases hbreak : isBreak c = true <;> simp [quoteSingle, hbreak, hquote]
      rw [hinside.skip.rest, hmore] at hread
      rw [hmore] at hinside
      have hround := quotedInside?_gap hinside
        (quotedStretch?_single hstretch (endsStretch_of_isGap hc true more) hinside.rest) hquote
        hread fuel
      have hshorter : text.length < length ∧ text.length < fuel := by
        simp only [List.length_append, List.length_cons] at hlength hfuel
        omega
      obtain ⟨last, hlast, hend⟩ := ih text.length hshorter.1 hsingle.of_append.2.of_append.2
        hshorter.2 hafter rfl
      refine ⟨last, ?_, hend⟩
      rw [hround, hlast, hfolded]
      rfl

/-- Every text that single quotes can hold is read back. -/
theorem quotedScalar?_single {text : List Char} (hsingle : IsSingle text)
    (hrest : rest.head? ≠ some '\'')
    (hinside : cursor.Inside ('\'' :: (quoteSingle false text ++ '\'' :: rest))) :
    ∃ after, quotedScalar? true cursor = some (.scalar .singleQuoted (String.ofList text), after) ∧
      after.Inside rest := by
  have hbehind : (cursor.skip 1).Inside (quoteSingle false text ++ '\'' :: rest) :=
    (show cursor.Inside ([] ++ '\'' :: _) from hinside).skip_cons
  have hfuel : text.length < cursor.rest.length + 1 := by
    have hle := length_le_quoteSingle false text
    rw [hinside.rest, List.length_cons, List.length_append]
    omega
  obtain ⟨after, hread, hafter⟩ := quotedInside?_single hsingle hfuel hrest hbehind
  exact ⟨after, by simp [quotedScalar?, hread], hafter⟩

end FetchClient.Yaml.Lexeme
