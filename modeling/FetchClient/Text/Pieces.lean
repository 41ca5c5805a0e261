/-!
# Cutting text at separators

- `pieces`: the text between separators, empty pieces included;
- `runs`: the non-empty pieces.
-/

namespace FetchClient.Text

/-- The stretches of text before, between and after the separators, in order. There is always one
more piece than there are separators. -/
def pieces (separates : Char → Bool) : List Char → List (List Char)
  | [] => [[]]
  | c :: rest =>
    if separates c then [] :: pieces separates rest
    else
      match pieces separates rest with
      | [] => [[c]]
      | piece :: others => (c :: piece) :: others

/-- The maximal stretches without a separator. -/
def runs (separates : Char → Bool) (text : List Char) : List (List Char) :=
  (pieces separates text).filter (!·.isEmpty)

theorem pieces_ne_nil (separates : Char → Bool) (text : List Char) :
    pieces separates text ≠ [] := by
  cases text with
  | nil => simp [pieces]
  | cons c rest =>
    simp only [pieces]
    split
    · simp
    · split <;> simp

@[simp] theorem pieces_nil (separates : Char → Bool) : pieces separates [] = [[]] := rfl

theorem pieces_cons_separator {separates : Char → Bool} {c : Char} (rest : List Char)
    (h : separates c = true) : pieces separates (c :: rest) = [] :: pieces separates rest := by
  simp [pieces, h]

/-- No separator is left inside a piece. -/
theorem not_separates_of_mem_pieces {separates : Char → Bool} {text piece : List Char}
    (hp : piece ∈ pieces separates text) : ∀ c ∈ piece, separates c = false := by
  induction text generalizing piece with
  | nil => simp_all
  | cons d rest ih =>
    by_cases hd : separates d = true
    · rw [pieces_cons_separator rest hd] at hp
      rcases List.mem_cons.1 hp with rfl | hp
      · simp
      · exact ih hp
    · simp only [pieces, hd, Bool.false_eq_true, if_false] at hp
      split at hp
      · simp_all
      · next first others heq =>
        rcases List.mem_cons.1 hp with rfl | hp
        · intro c hc
          rcases List.mem_cons.1 hc with rfl | hc
          · simpa using hd
          · exact ih (heq ▸ List.mem_cons_self) c hc
        · exact ih (heq ▸ List.mem_cons_of_mem _ hp)

end FetchClient.Text
