import FetchClient.Proofs.Yaml.Lines
import FetchClient.Yaml.Reader

/-!
# The mappings that lines stand for

- `ofTokens?_lines`: the tokens of lines are a mapping of scalars;
- `numbered?_lines`: there is no anchor in it;
- `isNull_of_choose`: what is taken for null is not written plain.
-/

namespace FetchClient.Yaml

namespace Line

/-- A scalar without anchor and tag. -/
def scalar {ν : Type} (style : Style) (text : String) : Node ν :=
  .scalar ⟨none, none⟩ style text

/-- The entry of a mapping that a line stands for. -/
def entry {ν : Type} (line : Line) : Node ν × Node ν :=
  (scalar .plain line.key, scalar line.style line.value)

end Line

namespace Node

variable {handles : List (String × String)} {rest : List Token}

theorem blockPart?_scalar (style : Style) (text : String) (fuel : Nat) :
    blockPart? handles (fuel + 2) (.scalar style text :: rest) =
      some (Line.scalar style text, rest) := by
  rfl

/-- Each line is read as an entry, up to the end of the block. -/
theorem blockEntries?_lines (lines : List Line) {fuel : Nat} (hfuel : lines.length + 2 < fuel) :
    blockEntries? handles fuel (lines.flatMap Line.tokens ++ .blockEnd :: rest) =
      some (lines.map Line.entry, rest) := by
  induction lines generalizing fuel with
  | nil =>
    obtain ⟨fuel, rfl⟩ := Nat.exists_eq_succ_of_ne_zero (Nat.ne_zero_of_lt hfuel)
    rfl
  | cons line lines ih =>
    obtain ⟨fuel, rfl⟩ : ∃ k, fuel = k + 3 := ⟨fuel - 3, by omega⟩
    have hmore := ih (show lines.length + 2 < fuel + 2 by simpa using hfuel)
    simp [Line.tokens, blockEntries?, blockPart?_scalar, hmore, Line.entry]

/-- The tokens of lines are a mapping of scalars. -/
theorem ofTokens?_lines (lines : List Line) :
    ofTokens? (.blockMappingStart :: (lines.flatMap Line.tokens ++ [.blockEnd])) =
      some (some (.mapping noProperties (lines.map Line.entry))) := by
  have hlength : (lines.flatMap Line.tokens).length = lines.length * 4 := by
    simp [List.length_flatMap, Line.tokens]
  have hentries : blockEntries? defaultHandles
      (2 * (lines.flatMap Line.tokens ++ [Token.blockEnd]).length + 3)
      (lines.flatMap Line.tokens ++ [.blockEnd]) = some (lines.map Line.entry, []) :=
    blockEntries?_lines lines (by grind)
  generalize lines.flatMap Line.tokens ++ [Token.blockEnd] = tokens at hentries ⊢
  simp [ofTokens?, document?, Nat.mul_succ, read?, properties?, hentries, guard]

theorem numberedEntries?_lines (names : AnchorNames) (lines : List Line) :
    numberedEntries? names (lines.map Line.entry) = some (lines.map Line.entry, names) := by
  induction lines with
  | nil => rfl
  | cons line lines ih =>
    simp [numberedEntries?, numbered?, Line.entry, Line.scalar, Properties.numbered, ih]

/-- No line has an anchor. -/
theorem numbered?_lines (names : AnchorNames) (lines : List Line) :
    numbered? names (.mapping noProperties (lines.map Line.entry)) =
      some (.mapping ⟨none, none⟩ (lines.map Line.entry), names) := by
  simp [numbered?, Properties.numbered, noProperties, numberedEntries?_lines]

end Node

/-- No text that is taken for null is written plain. -/
theorem isNull_of_choose {text : List Char} (h : Style.choose text = .plain) :
    text.isEmpty = false ∧ Plain.isNull text = false := by
  have hplain : isPlainText text = true := by
    rw [Style.choose] at h
    split_ifs at h with _ _ hplain
    exact (Bool.and_eq_true_iff.mp hplain).1
  by_contra hnull
  have hvalue : Scalar.plain? (String.ofList text) = some .null := by
    rw [Scalar.plain?, String.toList_ofList, if_pos]
    cases htext : text.isEmpty <;> simp_all
  simp [isPlainText, hvalue] at hplain

end FetchClient.Yaml
