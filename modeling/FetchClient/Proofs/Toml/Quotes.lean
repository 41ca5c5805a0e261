import FetchClient.Toml.Text
import FetchClient.Toml.Writer
import Mathlib.Data.List.Infix
import Mathlib.Data.Option.Basic

/-!
# Texts written in TOML are read back

- `replicate_le_longestRun`: what the longest run of a character says of a text;
- `readBasic_escape`, `readLiteral_append`, `readLongBasic_escapeLong`, `readLongLiteral_append`:
  the readers on what is written inside the four kinds of quotes;
- `readText_writeText`: every text is read back, whichever quotes were chosen for it.
-/

namespace FetchClient.Toml

open Json (hexValue?)

/-! ## Runs -/

/-- The state of the count of runs behind a text: the longest run and the present one. -/
def countRuns (c : Char) (state : Nat × Nat) (text : List Char) : Nat × Nat :=
  text.foldl
    (fun (longest, run) d => if d = c then (max longest (run + 1), run + 1) else (longest, 0)) state

theorem countRuns_append (c : Char) (state : Nat × Nat) (text more : List Char) :
    countRuns c state (text ++ more) = countRuns c (countRuns c state text) more :=
  List.foldl_append

theorem countRuns_cons_self (c : Char) (longest run : Nat) (text : List Char) :
    countRuns c (longest, run) (c :: text) = countRuns c (max longest (run + 1), run + 1) text := by
  simp [countRuns]

theorem countRuns_cons_of_ne {c d : Char} (h : d ≠ c) (longest run : Nat) (text : List Char) :
    countRuns c (longest, run) (d :: text) = countRuns c (longest, 0) text := by
  simp [countRuns, h]

theorem le_countRuns (c : Char) (longest run : Nat) (text : List Char) :
    longest ≤ (countRuns c (longest, run) text).1 := by
  induction text generalizing longest run with
  | nil => exact Nat.le_refl _
  | cons d text ih =>
    by_cases h : d = c
    · subst h
      rw [countRuns_cons_self]
      exact (Nat.le_max_left ..).trans (ih ..)
    · rw [countRuns_cons_of_ne h]
      exact ih ..

theorem run_le_countRuns (c : Char) (longest run count : Nat) (text : List Char) :
    run + count ≤ (countRuns c (max longest run, run) (List.replicate count c ++ text)).1 := by
  induction count generalizing longest run with
  | zero => exact (Nat.le_max_right ..).trans (le_countRuns ..)
  | succ count ih =>
    rw [List.replicate_succ, List.cons_append, countRuns_cons_self]
    have hrest := ih (max longest run) (run + 1)
    omega

/-- No run of a character is longer than the longest one. -/
theorem replicate_le_longestRun {c : Char} {count : Nat} {text : List Char}
    (h : List.replicate count c <:+: text) : count ≤ longestRun c text := by
  obtain ⟨before, behind, rfl⟩ := h
  change count ≤ (countRuns c (0, 0) _).1
  rw [List.append_assoc, countRuns_append]
  obtain ⟨longest, run⟩ := countRuns c (0, 0) before
  cases count with
  | zero => exact Nat.zero_le _
  | succ count =>
    rw [List.replicate_succ, List.cons_append, countRuns_cons_self]
    have hrun := run_le_countRuns c longest (run + 1) count behind
    omega

theorem not_mem_of_longestRun {c : Char} {text : List Char} (h : longestRun c text = 0) :
    c ∉ text := by
  intro hmem
  obtain ⟨before, behind, rfl⟩ := List.append_of_mem hmem
  have hinfix : List.replicate 1 c <:+: before ++ c :: behind := ⟨before, behind, by simp⟩
  have hrun := replicate_le_longestRun hinfix
  omega

/-! ## Characters -/

theorem isPlain_of_needsEscape {c : Char} (h : needsEscape c = false) (hline : c ≠ '\n') :
    isPlain c = true := by
  by_cases htab : c = '\t'
  · subst htab
    rfl
  · simp [needsEscape, htab, hline] at h
    simp [isPlain, h]

/-- The code of a character that needs an escape has two digits. -/
theorem hexValue?_escape {n : Nat} (h : n < 0x80) :
    (hexValue? ['0', '0', Nat.digitChar (n / 16), (Nat.digitChar (n % 16)).toUpper]).bind charOf? =
      some (Char.ofNat n) := by
  decide +revert

/-- The three ways in which a character is written in basic quotes. -/
theorem escapeChar_cases (c : Char) :
    (∃ letter, escapeChar c = ['\\', letter] ∧ letter ≠ 'u' ∧ letter ≠ 'U' ∧
      isBlank letter = false ∧ letter ≠ '\n' ∧ letter ≠ '\r' ∧ simpleEscape? letter = some c) ∨
    (∃ digit digit', escapeChar c = ['\\', 'u', '0', '0', digit, digit'] ∧
      (hexValue? ['0', '0', digit, digit']).bind charOf? = some c) ∨
    (escapeChar c = [c] ∧ isPlain c = true ∧ c ≠ '"' ∧ c ≠ '\\' ∧ c ≠ '\n' ∧ c ≠ '\r') := by
  unfold escapeChar
  split_ifs with hb ht hn hf hr hquote hslash hcode
  all_goals try (subst c; exact .inl ⟨_, rfl, by decide⟩)
  · refine .inr (.inl ⟨_, _, rfl, ?_⟩)
    have hsmall : c.toNat < 0x80 := by
      simp only [needsEscape, Bool.or_eq_true, Bool.and_eq_true, decide_eq_true_eq,
        beq_iff_eq] at hcode
      omega
    rw [hexValue?_escape hsmall, Char.ofNat_toNat]
  · exact .inr (.inr ⟨rfl, isPlain_of_needsEscape (Bool.not_eq_true _ ▸ hcode) hn, hquote, hslash,
      hn, hr⟩)

/-! ## Texts of one line -/

/-- A reader's answer with one more character in front of the text. -/
def addChar (c : Char) (answer : List Char × List Char) : List Char × List Char :=
  (c :: answer.1, answer.2)

theorem readBasic_escapeChar (c : Char) (rest : List Char) :
    readBasic (escapeChar c ++ rest) = (readBasic rest).map (addChar c) := by
  obtain ⟨letter, hc, hu, hU, -, -, -, hletter⟩ | ⟨digit, digit', hc, hcode⟩ |
      ⟨hc, hplain, hquote, hslash, -, -⟩ := escapeChar_cases c
  · rw [hc, List.cons_append, List.cons_append, List.nil_append, readBasic, hletter]
    · cases readBasic rest <;> rfl
    · simp [hu]
    · simp [hU]
  · rw [hc]
    simp only [List.cons_append, List.nil_append]
    rw [readBasic, hcode]
    cases readBasic rest <;> rfl
  · rw [hc, List.cons_append, List.nil_append, readBasic, hplain]
    · cases readBasic rest <;> rfl
    all_goals simp [hquote, hslash]

theorem readBasic_escape (text rest : List Char) :
    readBasic (text.flatMap escapeChar ++ '"' :: rest) = some (text, rest) := by
  induction text with
  | nil => rfl
  | cons c text ih =>
    rw [List.flatMap_cons, List.append_assoc, readBasic_escapeChar, ih]
    rfl

theorem readLiteral_append {text : List Char} (hplain : ∀ c ∈ text, isPlain c = true)
    (hquote : '\'' ∉ text) (rest : List Char) :
    readLiteral (text ++ '\'' :: rest) = some (text, rest) := by
  induction text with
  | nil => rfl
  | cons c text ih =>
    obtain ⟨hc, hplain⟩ := List.forall_mem_cons.mp hplain
    rw [List.cons_append, readLiteral, hc, ih hplain (List.not_mem_of_not_mem_cons hquote)]
    · rfl
    · exact fun h => absurd h.symm (List.ne_of_not_mem_cons hquote)

/-! ## Texts of several lines -/

variable {rest : List Char}

theorem moreQuotes_replicate {quote : Char} {count : Nat} (hcount : count ≤ 2)
    (hrest : rest.head? ≠ some quote) :
    moreQuotes quote (List.replicate count quote ++ rest) = (List.replicate count quote, rest) := by
  have hhead : ∀ c rest', rest = c :: rest' → c ≠ quote := by
    rintro c rest' rfl rfl
    exact hrest rfl
  match count with
  | 0 | 1 => rcases rest with _ | ⟨c, _ | ⟨d, rest⟩⟩ <;> simp [moreQuotes, hhead]
  | 2 => simp [List.replicate, moreQuotes]

theorem replicate_append_quotes (quote : Char) (count : Nat) (rest : List Char) :
    List.replicate count quote ++ quote :: quote :: quote :: rest =
      quote :: quote :: quote :: (List.replicate count quote ++ rest) := by
  induction count with
  | zero => rfl
  | succ count ih => rw [List.replicate_succ, List.cons_append, ih, List.cons_append]

/-- The closing quotes may stand right behind up to two quotes of the text. -/
theorem readLongBasic_ending {count : Nat} (hcount : count ≤ 2) (hrest : rest.head? ≠ some '"') :
    readLongBasic false (List.replicate count '"' ++ '"' :: '"' :: '"' :: rest) =
      some (List.replicate count '"', rest) := by
  rw [replicate_append_quotes, readLongBasic, moreQuotes_replicate hcount hrest]

theorem readLongBasic_quote (h : ¬['"', '"'] <+: rest) :
    readLongBasic false ('"' :: rest) = (readLongBasic false rest).map (addChar '"') := by
  rw [readLongBasic]
  · cases readLongBasic false rest <;> rfl
  · rintro rest' - rfl
    exact h ⟨rest', rfl⟩
  all_goals simp

theorem readLongBasic_escapeChar (c : Char) (rest : List Char) :
    readLongBasic false (escapeChar c ++ rest) =
      (readLongBasic false rest).map (addChar c) := by
  obtain ⟨letter, hc, hu, hU, hblank, hn, hr, hletter⟩ | ⟨digit, digit', hc, hcode⟩ |
      ⟨hc, hplain, hquote, hslash, hn, hr⟩ := escapeChar_cases c
  · have hnewline : newline? ((letter :: rest).dropWhile isBlank) = none := by
      rw [List.dropWhile_cons_of_neg (by simp [hblank]), newline?]
      all_goals simp [hn, hr]
    rw [hc, List.cons_append, List.cons_append, List.nil_append, readLongBasic, hletter, hnewline]
    · cases readLongBasic false rest <;> rfl
    · simp [hu]
    · simp [hU]
  · rw [hc]
    simp only [List.cons_append, List.nil_append]
    rw [readLongBasic, hcode]
    cases readLongBasic false rest <;> rfl
  · rw [hc, List.cons_append, List.nil_append, readLongBasic, hplain]
    · cases readLongBasic false rest <;> rfl
    all_goals simp [hquote, hslash, hn, hr]

theorem head?_escapeChar (c : Char) (rest : List Char) :
    (escapeChar c ++ rest).head? ≠ some '"' := by
  obtain ⟨letter, hc, -⟩ | ⟨digit, digit', hc, -⟩ | ⟨hc, -, hquote, -⟩ := escapeChar_cases c
  all_goals simp [hc]
  exact hquote

theorem escapeLong_of_ne {c : Char} (hn : c ≠ '\n') (hquote : c ≠ '"') (run : Nat)
    (text : List Char) : escapeLong run (c :: text) = escapeChar c ++ escapeLong 0 text := by
  rw [escapeLong]
  all_goals simp [hn, hquote]

/-- No third quote stands for itself. -/
theorem head?_escapeLong {c : Char} {run : Nat} (h : c = '"' → 2 ≤ run) (text : List Char) :
    (escapeLong run (c :: text) ++ rest).head? ≠ some '"' := by
  by_cases hn : c = '\n'
  · simp [hn, escapeLong]
  · by_cases hquote : c = '"'
    · simp [hquote, escapeLong, Nat.not_lt.mpr (h hquote)]
    · rw [escapeLong_of_ne hn hquote, List.append_assoc]
      exact head?_escapeChar _ _

theorem not_prefix_of_head? {more : List Char} (h : more.head? ≠ some '"') (c : Char) :
    ¬['"', '"'] <+: more ∧ ¬['"', '"'] <+: c :: more := by
  constructor
  · rintro ⟨_, rfl⟩
    exact h rfl
  · intro hprefix
    obtain ⟨_, rfl⟩ := (List.cons_prefix_cons.mp hprefix).2
    exact h rfl

/-- A quote in front of the rest of a text is no end, unless the rest is one more quote at most. -/
theorem not_prefix_or_eq_replicate {run : Nat} (hrun : run < 2) (text more : List Char) :
    ¬['"', '"'] <+: escapeLong (run + 1) text ++ more ∨
      ∃ count ≤ 1, text = List.replicate count '"' ∧ escapeLong (run + 1) text = text := by
  match text with
  | [] => exact .inr ⟨0, by decide, rfl, rfl⟩
  | c :: text =>
    by_cases hnext : c = '"' ∧ run + 1 < 2
    · obtain ⟨rfl, hnext⟩ := hnext
      rw [escapeLong, if_pos hnext]
      match text with
      | [] => exact .inr ⟨1, by decide, rfl, rfl⟩
      | d :: text =>
        exact .inl (not_prefix_of_head? (head?_escapeLong (fun _ => by omega) text) _).2
    · refine .inl (not_prefix_of_head? (head?_escapeLong (fun hc => ?_) text) c).1
      have hnext := not_and.mp hnext hc
      omega

theorem readLongBasic_escapeLong (hrest : rest.head? ≠ some '"') {run : Nat} (hrun : run ≤ 2)
    (text : List Char) :
    readLongBasic false (escapeLong run text ++ '"' :: '"' :: '"' :: rest) = some (text, rest) := by
  induction text generalizing run with
  | nil => exact readLongBasic_ending (Nat.zero_le 2) hrest
  | cons c text ih =>
    by_cases hn : c = '\n'
    · subst hn
      rw [escapeLong, List.cons_append, readLongBasic, ih (Nat.zero_le 2)]
      · rfl
      all_goals simp
    by_cases hquote : c = '"'
    · subst hquote
      rw [escapeLong]
      by_cases hfull : run < 2
      · rw [if_pos hfull, List.cons_append]
        obtain hopen | ⟨count, hcount, rfl, hsame⟩ := not_prefix_or_eq_replicate hfull text _
        · rw [readLongBasic_quote hopen, ih hfull]
          rfl
        · rw [hsame]
          exact readLongBasic_ending (Nat.succ_le_succ hcount) hrest
      · have hstep := readLongBasic_escapeChar '"'
          (escapeLong 0 text ++ '"' :: '"' :: '"' :: rest)
        rw [ih (Nat.zero_le 2)] at hstep
        rw [if_neg hfull]
        exact hstep
    · rw [escapeLong_of_ne hn hquote, List.append_assoc, readLongBasic_escapeChar,
        ih (Nat.zero_le 2)]
      rfl

/-! ## Literal texts of several lines -/

theorem readLongLiteral_ending {count : Nat} (hcount : count ≤ 2) (hrest : rest.head? ≠ some '\'') :
    readLongLiteral (List.replicate count '\'' ++ '\'' :: '\'' :: '\'' :: rest) =
      some (List.replicate count '\'', rest) := by
  rw [replicate_append_quotes, readLongLiteral, moreQuotes_replicate hcount hrest]

/-- A character that is no quote of the ending stands for itself. -/
theorem readLongLiteral_cons {c : Char} (hc : needsEscape c = false)
    (hopen : c = '\'' → ¬['\'', '\''] <+: rest) :
    readLongLiteral (c :: rest) = (readLongLiteral rest).map (addChar c) := by
  by_cases hn : c = '\n'
  · subst hn
    rw [readLongLiteral]
    cases readLongLiteral rest <;> rfl
  · have hplain := isPlain_of_needsEscape hc hn
    rw [readLongLiteral, hplain]
    · cases readLongLiteral rest <;> rfl
    · rintro rest' rfl rfl
      exact hopen rfl ⟨rest', rfl⟩
    · exact fun h => absurd h hn
    · rintro - rfl
      cases hplain

theorem readLongLiteral_append {text : List Char} (hplain : ∀ c ∈ text, needsEscape c = false)
    (hquotes : ¬List.replicate 3 '\'' <:+: text) (hrest : rest.head? ≠ some '\'') :
    readLongLiteral (text ++ '\'' :: '\'' :: '\'' :: rest) = some (text, rest) := by
  induction text with
  | nil => exact readLongLiteral_ending (Nat.zero_le 2) hrest
  | cons c text ih =>
    obtain ⟨hc, hplain⟩ := List.forall_mem_cons.mp hplain
    have ih := ih hplain fun h => hquotes (List.infix_cons h)
    by_cases hend : c = '\'' ∧ ['\'', '\''] <+: text ++ '\'' :: '\'' :: '\'' :: rest
    · -- Without three quotes in a row the text ends with this quote or with the next one.
      obtain ⟨rfl, hprefix⟩ := hend
      match text with
      | [] => exact readLongLiteral_ending (show 1 ≤ 2 by decide) hrest
      | [d] =>
        obtain ⟨rfl, -⟩ := List.cons_prefix_cons.mp hprefix
        exact readLongLiteral_ending (show 2 ≤ 2 by decide) hrest
      | d :: e :: text =>
        obtain ⟨hd, hprefix'⟩ := List.cons_prefix_cons.mp hprefix
        obtain ⟨he, -⟩ := List.cons_prefix_cons.mp hprefix'
        subst hd he
        exact absurd ⟨[], text, rfl⟩ hquotes
    · rw [List.cons_append, readLongLiteral_cons hc (not_and.mp hend), ih]
      rfl

/-! ## Texts in the quotes that were chosen for them -/

theorem dropNewline_eq_self {text : List Char} (hn : text.head? ≠ some '\n')
    (hr : text.head? ≠ some '\r') : dropNewline text = text := by
  unfold dropNewline newline?
  split
  · exact absurd rfl hn
  · exact absurd rfl hr
  · rfl

/-- The line break that begins a text of several lines does not count, and there is none that
would count in front of another text. -/
theorem dropNewline_start {text inside : List Char}
    (hinside : '\n' ∉ text → inside.head? ≠ some '\n' ∧ inside.head? ≠ some '\r') :
    dropNewline ((if text.contains '\n' then ['\n'] else []) ++ inside) = inside := by
  by_cases hn : '\n' ∈ text
  · rw [if_pos (List.contains_iff_mem.mpr hn)]
    rfl
  · rw [if_neg (mt List.contains_iff_mem.mp hn), List.nil_append,
      dropNewline_eq_self (hinside hn).1 (hinside hn).2]

theorem readText_basic (text rest : List Char) :
    readText ('"' :: (text.flatMap escapeChar ++ '"' :: '\n' :: rest)) =
      some (text, '\n' :: rest) := by
  rw [readText, readBasic_escape]
  intro rest' hquotes
  cases text with
  | nil => simp at hquotes
  | cons c text =>
    rw [List.flatMap_cons, List.append_assoc] at hquotes
    exact head?_escapeChar c _ (congrArg List.head? hquotes)

theorem readText_literal {text : List Char} (hplain : ∀ c ∈ text, isPlain c = true)
    (hquote : '\'' ∉ text) (rest : List Char) :
    readText ('\'' :: (text ++ '\'' :: '\n' :: rest)) = some (text, '\n' :: rest) := by
  rw [readText, readLiteral_append hplain hquote]
  intro rest' hquotes
  cases text with
  | nil => simp at hquotes
  | cons c text => exact List.ne_of_not_mem_cons hquote (List.cons.inj hquotes).1.symm

theorem readText_longBasic (text rest : List Char) :
    readText ('"' :: '"' :: '"' :: ((if text.contains '\n' then ['\n'] else []) ++
      (escapeLong 0 text ++ '"' :: '"' :: '"' :: '\n' :: rest))) = some (text, '\n' :: rest) := by
  rw [readText, dropNewline_start, readLongBasic_escapeLong (by simp) (Nat.zero_le 2)]
  intro hn
  cases text with
  | nil => simp [escapeLong]
  | cons c text =>
    by_cases hquote : c = '"'
    · simp [hquote, escapeLong]
    · rw [escapeLong_of_ne (List.ne_of_not_mem_cons hn).symm hquote]
      obtain ⟨letter, hc, -⟩ | ⟨digit, digit', hc, -⟩ | ⟨hc, -, -, -, hn, hr⟩ := escapeChar_cases c
      all_goals simp [hc]
      exact ⟨hn, hr⟩

theorem readText_longLiteral {text : List Char} (hplain : ∀ c ∈ text, needsEscape c = false)
    (hquotes : ¬List.replicate 3 '\'' <:+: text) (rest : List Char) :
    readText ('\'' :: '\'' :: '\'' :: ((if text.contains '\n' then ['\n'] else []) ++
      (text ++ '\'' :: '\'' :: '\'' :: '\n' :: rest))) = some (text, '\n' :: rest) := by
  rw [readText, dropNewline_start, readLongLiteral_append hplain hquotes (by simp)]
  intro hn
  cases text with
  | nil => simp
  | cons c text =>
    have hc := hplain c List.mem_cons_self
    refine ⟨fun h => List.ne_of_not_mem_cons hn (Option.some.inj h).symm, fun h => ?_⟩
    rw [Option.some.inj h] at hc
    cases hc

theorem Quotes.of_choose_literal {text : List Char} (h : choose text = literal) :
    (∀ c ∈ text, isPlain c = true) ∧ '\'' ∉ text := by
  unfold choose at h
  simp only [Bool.and_eq_true, Bool.not_eq_true', decide_eq_true_eq] at h
  split_ifs at h with hbasic hliteral
  obtain ⟨⟨hescapes, hsingles⟩, hlines⟩ := hliteral
  refine ⟨fun c hc => isPlain_of_needsEscape ?_ ?_, not_mem_of_longestRun hsingles⟩
  · exact Bool.not_eq_true _ ▸ List.any_eq_false.mp hescapes c hc
  · rintro rfl
    rw [List.contains_iff_mem.mpr hc] at hlines
    cases hlines

theorem Quotes.of_choose_longLiteral {text : List Char} (h : choose text = longLiteral) :
    (∀ c ∈ text, needsEscape c = false) ∧ ¬List.replicate 3 '\'' <:+: text := by
  unfold choose at h
  simp only [Bool.and_eq_true, Bool.not_eq_true', decide_eq_true_eq] at h
  split_ifs at h with hbasic hliteral hlong hlongLiteral
  obtain ⟨hescapes, hsingles⟩ := hlongLiteral
  refine ⟨fun c hc => Bool.not_eq_true _ ▸ List.any_eq_false.mp hescapes c hc, fun hrun => ?_⟩
  have hcount := replicate_le_longestRun hrun
  omega

/-- Every text is read back from a line. -/
theorem readText_writeText (text rest : List Char) :
    readText (writeText text ++ '\n' :: rest) = some (text, '\n' :: rest) := by
  cases hchoice : Quotes.choose text with
  | basic => simpa [writeText, hchoice] using readText_basic text rest
  | literal =>
    obtain ⟨hplain, hquote⟩ := Quotes.of_choose_literal hchoice
    simpa [writeText, hchoice] using readText_literal hplain hquote rest
  | longBasic => simpa [writeText, hchoice] using readText_longBasic text rest
  | longLiteral =>
    obtain ⟨hplain, hquotes⟩ := Quotes.of_choose_longLiteral hchoice
    simpa [writeText, hchoice] using readText_longLiteral hplain hquotes rest

end FetchClient.Toml
