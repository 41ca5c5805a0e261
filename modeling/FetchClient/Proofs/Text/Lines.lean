import FetchClient.Text.Pieces
import Mathlib.Data.List.Basic

/-!
# Pieces and lines

- `Text.pieces_append_cons`, `Text.pieces_of_not_separates`: the pieces of a text made of others;
- `Text.intercalate_cons`, `Text.intercalate_append`: texts put together with separators between;
- `Text.intercalate_pieces`, `Text.pieces_intercalate`: the pieces, with separators between them, are
  the text, and no others are;
- `Text.linesOf`: the lines of a text;
- `Text.linesOf_join`: lines that end in a line feed each are found again.
-/

namespace FetchClient.Text

/-! ## Pieces -/

/-- Pieces in front of a separator and behind it. -/
theorem pieces_append_cons {separates : Char → Bool} {c : Char} (text rest : List Char)
    (hc : separates c = true) :
    pieces separates (text ++ c :: rest) = pieces separates text ++ pieces separates rest := by
  induction text with
  | nil => exact pieces_cons_separator rest hc
  | cons d text ih =>
    rw [List.cons_append]
    by_cases hd : separates d = true
    · rw [pieces_cons_separator _ hd, pieces_cons_separator _ hd, ih, List.cons_append]
    · obtain ⟨piece, pieces', hpieces⟩ := List.exists_cons_of_ne_nil (pieces_ne_nil separates text)
      simp only [pieces, hd, ih, hpieces, List.cons_append]
      rfl

theorem pieces_of_not_separates {separates : Char → Bool} {text : List Char}
    (h : ∀ c ∈ text, separates c = false) : pieces separates text = [text] := by
  induction text with
  | nil => rfl
  | cons c text ih =>
    rw [List.forall_mem_cons] at h
    simp only [pieces, h.1, ih h.2]
    rfl

/-- A character in front of texts that are put together is in front of the first. -/
theorem intercalate_cons (sep : List Char) (c : Char) (text : List Char)
    (others : List (List Char)) :
    sep.intercalate ((c :: text) :: others) = c :: sep.intercalate (text :: others) := by
  cases others with
  | nil => rw [List.intercalate_singleton, List.intercalate_singleton]
  | cons other others =>
    rw [List.intercalate_cons_cons, List.intercalate_cons_cons, List.cons_append, List.cons_append]

theorem intercalate_append {texts more : List (List Char)} (c : Char) (hne : texts ≠ [])
    (hmore : more ≠ []) :
    [c].intercalate (texts ++ more) = [c].intercalate texts ++ c :: [c].intercalate more := by
  induction texts with
  | nil => exact absurd rfl hne
  | cons text texts ih =>
    rw [List.cons_append]
    cases texts with
    | nil =>
      rw [List.nil_append, List.intercalate_cons_of_ne_nil hmore, List.intercalate_singleton,
        List.append_assoc, List.singleton_append]
    | cons other others =>
      have hrest := ih (List.cons_ne_nil other others)
      rw [List.cons_append] at hrest ⊢
      rw [List.intercalate_cons_cons, List.intercalate_cons_cons, hrest,
        List.append_assoc, List.append_assoc, List.append_assoc]

theorem intercalate_ne_nil {text : List Char} (sep : List Char) (others : List (List Char))
    (h : text ≠ []) : sep.intercalate (text :: others) ≠ [] := by
  obtain ⟨c, rest, rfl⟩ := List.exists_cons_of_ne_nil h
  rw [intercalate_cons]
  exact List.cons_ne_nil c _

/-- The pieces of a text, put together again. -/
theorem intercalate_pieces (c : Char) (text : List Char) :
    [c].intercalate (pieces (· == c) text) = text := by
  induction text with
  | nil => rfl
  | cons d text ih =>
    by_cases hd : d = c
    · rw [pieces_cons_separator text (by simpa using hd),
        List.intercalate_cons_of_ne_nil (pieces_ne_nil _ _), ih, hd]
      rfl
    · obtain ⟨piece, others, hpieces⟩ :=
        List.exists_cons_of_ne_nil (pieces_ne_nil (· == c) text)
      have hcons : pieces (· == c) (d :: text) = (d :: piece) :: others := by
        simp [pieces, hd, hpieces]
      rw [hcons, intercalate_cons, ← hpieces, ih]

/-- Texts without a separator in them are the pieces of what they make with separators between. -/
theorem pieces_intercalate {c : Char} {texts : List (List Char)} (hne : texts ≠ [])
    (h : ∀ text ∈ texts, c ∉ text) : pieces (· == c) ([c].intercalate texts) = texts := by
  induction texts with
  | nil => exact absurd rfl hne
  | cons text texts ih =>
    obtain ⟨htext, htexts⟩ := List.forall_mem_cons.mp h
    have hpiece : pieces (· == c) text = [text] := by
      refine pieces_of_not_separates fun d hd => ?_
      rw [beq_eq_false_iff_ne]
      rintro rfl
      exact htext hd
    cases texts with
    | nil => rw [List.intercalate_singleton, hpiece]
    | cons other others =>
      rw [List.intercalate_cons_cons, List.append_assoc, List.singleton_append,
        pieces_append_cons _ _ (by simp), hpiece,
        ih (List.cons_ne_nil _ _) htexts, List.singleton_append]

/-! ## Lines -/

/-- The lines of a text, which line feeds part. -/
def linesOf (text : String) : List String :=
  (pieces (· == '\n') text.toList).map String.ofList

/-- Whether a text is on one line. -/
def IsOneLine (text : String) : Prop :=
  '\n' ∉ text.toList

instance (text : String) : Decidable (IsOneLine text) :=
  inferInstanceAs (Decidable (_ ∉ _))

theorem isOneLine_append {text more : String} :
    IsOneLine (text ++ more) ↔ IsOneLine text ∧ IsOneLine more := by
  simp [IsOneLine]

theorem isOneLine_ofList {cs : List Char} (h : '\n' ∉ cs) : IsOneLine (String.ofList cs) := by
  rw [IsOneLine, String.toList_ofList]
  exact h

theorem isOneLine_of_mem_linesOf {text line : String} (h : line ∈ linesOf text) :
    IsOneLine line := by
  obtain ⟨piece, hpiece, rfl⟩ := List.mem_map.mp h
  intro hbreak
  rw [String.toList_ofList] at hbreak
  have hnot := not_separates_of_mem_pieces hpiece '\n' hbreak
  simp at hnot

/-- A line that is ended stands before the others. -/
theorem linesOf_append {line : String} (h : IsOneLine line) (rest : String) :
    linesOf (line ++ ("\n" ++ rest)) = line :: linesOf rest := by
  have htext : (line ++ ("\n" ++ rest)).toList = line.toList ++ '\n' :: rest.toList := by
    rw [String.toList_append, String.toList_append]
    rfl
  have hline : pieces (· == '\n') line.toList = [line.toList] := by
    apply pieces_of_not_separates
    intro c hc
    rw [beq_eq_false_iff_ne]
    rintro rfl
    exact h hc
  rw [linesOf, htext, pieces_append_cons _ _ (by decide), hline, List.map_append, List.map_cons,
    String.ofList_toList]
  rfl

/-- Lines that are all ended are the lines of the text, and nothing stands behind the last of
them. -/
theorem linesOf_join {texts : List String} (h : ∀ text ∈ texts, IsOneLine text) :
    linesOf (String.join (texts.map (· ++ "\n"))) = texts ++ [""] := by
  induction texts with
  | nil => rfl
  | cons text texts ih =>
    obtain ⟨hfirst, hothers⟩ := List.forall_mem_cons.mp h
    rw [List.map_cons, String.join_cons, String.append_assoc, linesOf_append hfirst, ih hothers]
    rfl

end FetchClient.Text
