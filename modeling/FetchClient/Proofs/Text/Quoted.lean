import FetchClient.Text.Quoted
import Mathlib.Algebra.Ring.Parity
import Mathlib.Data.List.Basic

/-!
# Reading what was quoted

- `Quoted.Spells`: what may stand between single quotes, and which text it stands for;
- `Quoted.literal?`: the reader of a whole literal, and `Quoted.literal?_eq_some_iff`, by which it
  reads exactly what is spelt;
- `Quoted.spells_encode`, `Quoted.decode_encode_append`: a quoted text is read back, up to its
  closing quote;
- `Quoted.not_mem_encode`: it stays on one line;
- `Quoted.quotesEscaped_encode`, `Quoted.even_backslashes_encode`: how many backslashes stand in
  front of the quotes in it, and in front of the one behind it.
-/

namespace FetchClient.Text.Quoted

/-! ## What is spelt -/

/-- Whether a character may stand for itself between single quotes. -/
def IsPlain (c : Char) : Prop :=
  c ≠ '\\' ∧ c ≠ '\'' ∧ c ≠ '\n' ∧ c ≠ '\r'

theorem isPlain_or (c : Char) :
    IsPlain c ∨ c = '\\' ∨ c = '\'' ∨ c = '\n' ∨ c = '\r' := by
  unfold IsPlain
  tauto

/-- Whether the inside of a literal stands for a text: plain characters stand for themselves, and a
backslash makes an escape of the character behind it. -/
inductive Spells : List Char → List Char → Prop
  | nil : Spells [] []
  | plain {c : Char} {inside text : List Char} (hc : IsPlain c) (h : Spells inside text) :
      Spells (c :: inside) (c :: text)
  | escape {c d : Char} {inside text : List Char} (hc : unescape c = some d)
      (h : Spells inside text) : Spells ('\\' :: c :: inside) (d :: text)

theorem encodeChar_of_isPlain {c : Char} (h : IsPlain c) : encodeChar c = [c] := by
  obtain ⟨hbackslash, hquote, hfeed, hreturn⟩ := h
  unfold encodeChar
  split <;> first | rfl | contradiction

theorem encode_cons (c : Char) (text : List Char) :
    encode (c :: text) = encodeChar c ++ encode text := rfl

/-- A quoted text spells that text. -/
theorem spells_encode (text : List Char) : Spells (encode text) text := by
  induction text with
  | nil => exact .nil
  | cons c text ih =>
    rw [encode_cons]
    rcases isPlain_or c with hplain | rfl | rfl | rfl | rfl
    · rw [encodeChar_of_isPlain hplain]
      exact .plain hplain ih
    all_goals exact .escape rfl ih

/-! ## Reading -/

/-- Reads a literal from its opening quote on: the text that it stands for, and what stands behind
its closing quote. -/
def literal? : List Char → Option (List Char × List Char)
  | '\'' :: input => decode input
  | _ => none

theorem decode_cons_of_isPlain {c : Char} (h : IsPlain c) (rest : List Char) :
    decode (c :: rest) = (decode rest).map fun read => (c :: read.1, read.2) := by
  obtain ⟨hbackslash, hquote, hfeed, hreturn⟩ := h
  rw [decode.eq_7 c rest hquote hfeed hreturn (fun _ _ hc => absurd hc hbackslash)
    (fun hc => absurd hc hbackslash)]
  cases decode rest <;> rfl

/-- What is spelt is read, up to the first quote behind it. -/
theorem Spells.decode_append {inside text : List Char} (h : Spells inside text)
    (rest : List Char) : decode (inside ++ '\'' :: rest) = some (text, rest) := by
  induction h with
  | nil => rfl
  | plain hc _ ih => rw [List.cons_append, decode_cons_of_isPlain hc, ih, Option.map_some]
  | escape hc _ ih =>
    rw [List.cons_append, List.cons_append, decode, hc, ih]
    rfl

/-- Nothing but what is spelt is read. -/
theorem exists_spells_of_decode {input text rest : List Char}
    (h : decode input = some (text, rest)) :
    ∃ inside, input = inside ++ '\'' :: rest ∧ Spells inside text := by
  fun_induction decode input generalizing text with
  | case2 after =>
    cases h
    exact ⟨[], rfl, .nil⟩
  | case5 c after ih =>
    simp only [Option.bind_eq_bind, Option.bind_eq_some_iff] at h
    obtain ⟨d, hd, ⟨read, left⟩, hread, hgiven⟩ := h
    cases hgiven
    obtain ⟨inside, rfl, hinside⟩ := ih hread
    exact ⟨'\\' :: c :: inside, rfl, .escape hd hinside⟩
  | case7 c after hquote hfeed hreturn hescape hlast ih =>
    simp only [Option.bind_eq_bind, Option.bind_eq_some_iff] at h
    obtain ⟨⟨read, left⟩, hread, hgiven⟩ := h
    cases hgiven
    obtain ⟨inside, rfl, hinside⟩ := ih hread
    -- A backslash is followed by something, if only by the closing quote.
    have hbackslash : c ≠ '\\' := by
      rintro rfl
      cases inside with
      | nil => exact hescape _ _ rfl rfl
      | cons d inside => exact hescape _ _ rfl rfl
    exact ⟨c :: inside, rfl, .plain ⟨hbackslash, hquote, hfeed, hreturn⟩ hinside⟩
  | case1 | case3 | case4 | case6 => cases h

/-- The reader finds exactly the literals, and stops at their closing quotes. -/
theorem literal?_eq_some_iff {input text rest : List Char} :
    literal? input = some (text, rest) ↔
      ∃ inside, input = '\'' :: (inside ++ '\'' :: rest) ∧ Spells inside text := by
  constructor
  · intro h
    unfold literal? at h
    split at h
    · next after =>
      obtain ⟨inside, rfl, hinside⟩ := exists_spells_of_decode h
      exact ⟨inside, rfl, hinside⟩
    · cases h
  · rintro ⟨inside, rfl, hinside⟩
    exact hinside.decode_append rest

/-- A quoted text with its closing quote is read back, and what stands behind the quote is left. -/
theorem decode_encode_append (text rest : List Char) :
    decode (encode text ++ '\'' :: rest) = some (text, rest) :=
  (spells_encode text).decode_append rest

/-- Texts that are quoted alike are the same. -/
theorem encode_injective : Function.Injective encode := by
  intro text other h
  have hread := decode_encode_append text []
  rw [h, decode_encode_append] at hread
  cases hread
  rfl

/-! ## Line breaks -/

/-- What no character is written with does not stand in a quoted text. -/
theorem not_mem_encode {c : Char} (hc : c = '\n' ∨ c = '\r') (text : List Char) :
    c ∉ encode text := by
  intro hmem
  obtain ⟨d, -, hd⟩ := List.mem_flatMap.mp hmem
  rcases isPlain_or d with hplain | rfl | rfl | rfl | rfl
  · rw [encodeChar_of_isPlain hplain, List.mem_singleton] at hd
    subst hd
    exact hc.elim hplain.2.2.1 hplain.2.2.2
  all_goals
    rcases hc with rfl | rfl <;> exact absurd hd (by decide)

/-! ## Backslashes in front of quotes -/

/-- How many backslashes a text ends in. -/
def backslashes (text : List Char) : Nat :=
  (text.reverse.takeWhile (· == '\\')).length

/-- Whether every quote in a text is escaped. Backslashes pair up from the first of a run on, so a
quote behind a run is escaped when their number is odd. -/
def QuotesEscaped (text : List Char) : Prop :=
  ∀ before after, text = before ++ '\'' :: after → Odd (backslashes before)

/-- In front of a text, backslashes that pair up change nothing about those at its end. -/
theorem even_backslashes_append {first : List Char} (h : Even (backslashes first))
    (text : List Char) : Even (backslashes (first ++ text)) ↔ Even (backslashes text) := by
  unfold backslashes at h ⊢
  rw [List.reverse_append, List.takeWhile_append]
  split
  · next hall => rw [List.length_append, hall, Nat.even_add, iff_true_right h]
  · rfl

theorem even_backslashes_encodeChar (c : Char) : Even (backslashes (encodeChar c)) := by
  rcases isPlain_or c with hplain | rfl | rfl | rfl | rfl
  · have hlast : (c == '\\') = false := by simpa using hplain.1
    rw [encodeChar_of_isPlain hplain, backslashes, List.reverse_singleton,
      List.takeWhile_cons_of_neg (by rw [hlast]; decide)]
    exact Even.zero
  all_goals decide

/-- So the quote behind a quoted text is not escaped. -/
theorem even_backslashes_encode (text : List Char) : Even (backslashes (encode text)) := by
  induction text with
  | nil => exact Even.zero
  | cons c text ih =>
    rw [encode_cons]
    exact (even_backslashes_append (even_backslashes_encodeChar c) _).mpr ih

/-- Where a character is written as two, the first of them is a backslash, and it stands before a
quote if there is one. -/
theorem eq_backslash_of_pair {c : Char} {before after : List Char}
    (h : ['\\', c] = before ++ '\'' :: after) : before = ['\\'] := by
  match before with
  | [] => exact absurd (List.head_eq_of_cons_eq h) (by decide)
  | [first] => rw [List.head_eq_of_cons_eq h]
  | first :: second :: before =>
    have hlength := congrArg List.length h
    simp at hlength

/-- A quote that is written for one character is the second of the two that stand for a quote. -/
theorem eq_backslash_of_encodeChar {c : Char} {before after : List Char}
    (h : encodeChar c = before ++ '\'' :: after) : before = ['\\'] := by
  rcases isPlain_or c with hplain | rfl | rfl | rfl | rfl
  · rw [encodeChar_of_isPlain hplain, List.singleton_eq_append_iff] at h
    rcases h with ⟨-, h⟩ | ⟨-, h⟩
    · exact absurd (List.head_eq_of_cons_eq h).symm hplain.2.1
    · cases h
  all_goals exact eq_backslash_of_pair h

/-- All quotes in a quoted text are escaped. -/
theorem quotesEscaped_encode (text : List Char) : QuotesEscaped (encode text) := by
  induction text with
  | nil =>
    intro before after h
    cases before <;> cases h
  | cons c text ih =>
    intro before after h
    rw [encode_cons, List.append_eq_append_iff] at h
    -- The quote stands either in what is written for the first character, or behind that.
    rcases h with ⟨between, rfl, hlater⟩ | ⟨between, hfirst, hlater⟩
    · have hodd := ih between after hlater
      rw [← Nat.not_even_iff_odd] at hodd ⊢
      rwa [even_backslashes_append (even_backslashes_encodeChar c)]
    · cases between with
      | nil =>
        rw [List.append_nil] at hfirst
        have hodd := ih [] after hlater.symm
        exact absurd hodd (by decide)
      | cons d between =>
        obtain rfl : '\'' = d := List.head_eq_of_cons_eq hlater
        rw [eq_backslash_of_encodeChar hfirst]
        decide

end FetchClient.Text.Quoted
