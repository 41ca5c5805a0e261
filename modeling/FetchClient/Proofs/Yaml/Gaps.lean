import FetchClient.Yaml.Writer
import Mathlib.Data.List.Chain
import Mathlib.Data.List.TakeWhile
import Mathlib.Data.Option.Basic

/-!
# Places in a line, and the gaps between them

- `hasPair_eq_false_iff`: texts without a pair of neighbours are chains;
- `exists_stretch`: a text is a stretch, a gap behind it and the rest;
- `Cursor.Inside`, `Cursor.AtLine`: what is still to be read, inside of a line or at its beginning;
- `Gap.read?_spaces`, `Gap.read?_breaks`: how gaps are read.
-/

namespace FetchClient.Yaml

/-! ## Neighbours -/

theorem hasPair_eq_false_iff {first second : Char → Bool} {text : List Char} :
    hasPair first second text = false ↔
      text.IsChain fun c d => first c = true → second d = false := by
  induction text with
  | nil => simp [hasPair]
  | cons c text ih =>
    cases text with
    | nil => simp [hasPair]
    | cons d text =>
      have hcons : hasPair first second (c :: d :: text) =
          ((first c && second d) || hasPair first second (d :: text)) := rfl
      rw [hcons, Bool.or_eq_false_iff, ih, List.isChain_cons_cons, Bool.and_eq_false_imp]

theorem head?_dropWhile_of_mem {p : Char → Bool} {text : List Char} {c : Char}
    (h : c ∈ (text.dropWhile p).head?) : p c = false := by
  rw [← List.find?_not_eq_head?_dropWhile] at h
  simpa using List.find?_some h

/-- A text is a stretch without certain characters, a gap of these, and the rest. -/
theorem exists_stretch (p : Char → Bool) (text : List Char) :
    ∃ stretch gap rest, text = stretch ++ (gap ++ rest) ∧ (∀ c ∈ stretch, p c = false) ∧
      (∀ c ∈ gap, p c = true) ∧ (∀ c ∈ rest.head?, p c = false) ∧ (gap = [] → rest = []) := by
  refine ⟨text.takeWhile (!p ·), (text.dropWhile (!p ·)).takeWhile p,
    (text.dropWhile (!p ·)).dropWhile p, ?_, ?_, ?_, fun c => head?_dropWhile_of_mem, ?_⟩
  · rw [List.takeWhile_append_dropWhile, List.takeWhile_append_dropWhile]
  · intro c hc
    have hnot := List.mem_takeWhile_imp hc
    simpa using hnot
  · exact fun c hc => List.mem_takeWhile_imp hc
  · intro hgap
    cases hbehind : text.dropWhile (!p ·) with
    | nil => rfl
    | cons c behind =>
      have hmem : c ∈ (text.dropWhile (!p ·)).head? := by
        rw [hbehind]
        rfl
      have hc := head?_dropWhile_of_mem hmem
      rw [hbehind, List.takeWhile_cons_of_pos (by simpa using hc)] at hgap
      cases hgap

/-! ## Places -/

namespace Cursor

/-- Whether a text is still to be read from inside of a line. -/
structure Inside (cursor : Cursor) (rest : List Char) : Prop where
  rest : cursor.rest = rest
  column : cursor.column ≠ 0

/-- Whether a text is still to be read from the beginning of a line. -/
structure AtLine (cursor : Cursor) (rest : List Char) : Prop where
  rest : cursor.rest = rest
  column : cursor.column = 0

variable {cursor : Cursor} {rest : List Char}

theorem rest_skip {text : List Char} (h : cursor.rest = text ++ rest) :
    (cursor.skip text.length).rest = rest := by
  rw [skip, h, List.drop_left]

theorem Inside.skip {text : List Char} (h : cursor.Inside (text ++ rest)) :
    (cursor.skip text.length).Inside rest :=
  ⟨rest_skip h.rest, Nat.ne_zero_of_lt (Nat.lt_add_right _ (Nat.pos_of_ne_zero h.column))⟩

theorem Inside.skip_cons {text : List Char} {c : Char} (h : cursor.Inside (text ++ c :: rest)) :
    (cursor.skip (text.length + 1)).Inside rest := by
  rw [List.append_cons] at h
  have hskip := h.skip
  rwa [List.length_append] at hskip

/-- No document begins or ends inside of a line. -/
theorem Inside.seesDocumentMark (h : cursor.Inside rest) : cursor.seesDocumentMark = false := by
  simp [Cursor.seesDocumentMark, seesMark, h.column]

theorem Inside.atEnd {c : Char} (h : cursor.Inside (c :: rest)) : cursor.atEnd = false := by
  rw [Cursor.atEnd, h.rest, List.isEmpty_cons]

/-- What stands at an offset, read off a text that begins with known characters. -/
theorem Inside.sees_zero {c : Char} (h : cursor.Inside (c :: rest)) (d : Char) :
    cursor.sees d 0 = (c == d) := by
  simp [sees, peek, h.rest]

theorem Inside.seesGap_zero {c : Char} (h : cursor.Inside (c :: rest)) :
    cursor.seesGap 0 = isGap c := by
  simp [seesGap, peek, h.rest, isGap]

theorem skip_skip (cursor : Cursor) (first second : Nat) :
    (cursor.skip first).skip second = cursor.skip (first + second) := by
  simp [skip, List.drop_drop, Nat.add_assoc]

end Cursor

/-! ## Breaks -/

/-- The breaks that are kept as they are. -/
def IsKeptBreak (c : Char) : Prop :=
  c = '\n' ∨ c = '\u2028' ∨ c = '\u2029'

theorem isAdmitted_of_isPrintable {c : Char} (h : isPrintable c = true) : isAdmitted c = true := by
  simp only [isPrintable, Bool.and_eq_true] at h
  exact h.1.1.1.1

theorem isKeptBreak {c : Char} (hbreak : isBreak c = true) (hprint : isPrintable c = true) :
    IsKeptBreak c := by
  simp only [isPrintable, Bool.and_eq_true, bne_iff_ne] at hprint
  simpa [isBreak, IsKeptBreak, hprint.1.1.2, hprint.1.2, or_assoc] using hbreak

namespace IsKeptBreak

variable {c : Char} (h : IsKeptBreak c) {cursor : Cursor} {rest : List Char}
include h

theorem isBreak : isBreak c = true := by
  obtain rfl | rfl | rfl := h <;> rfl

theorem isBlank : isBlank c = false := by
  obtain rfl | rfl | rfl := h <;> rfl

theorem breakText (hrest : cursor.rest = c :: rest) : cursor.breakText = [c] := by
  rw [Cursor.breakText, hrest]
  obtain rfl | rfl | rfl := h <;> rfl

/-- Behind a break the next line begins. -/
theorem skipBreak (hrest : cursor.rest = c :: rest) : cursor.skipBreak.AtLine rest := by
  rw [Cursor.skipBreak, hrest]
  obtain rfl | rfl | rfl := h <;> exact ⟨rfl, rfl⟩

end IsKeptBreak

/-! ## Gaps -/

namespace Gap

variable {indent : Int} {cursor : Cursor} {rest : List Char}

/-- A gap ends in front of other characters and with the text. -/
theorem read?_of_solid (fuel : Nat) (gap : Gap) (hrest : cursor.rest = rest)
    (hsolid : ∀ c ∈ rest.head?, isGap c = false) :
    read? indent fuel gap cursor = some (gap, cursor) := by
  cases fuel with
  | zero => rfl
  | succ fuel =>
    rw [read?, hrest]
    cases rest with
    | nil => rfl
    | cons c rest =>
      obtain ⟨hblank, hbreak⟩ : isBlank c = false ∧ isBreak c = false := by
        simpa [isGap] using hsolid c rfl
      simp [hblank, hbreak]

/-- The gap with more spaces, which do not count behind a break. -/
def addSpaces (gap : Gap) (spaces : List Char) : Gap :=
  if gap.broken then gap else { gap with blanks := gap.blanks ++ spaces }

/-- The gap with one more break. -/
def addBreak (gap : Gap) (c : Char) : Gap :=
  if gap.broken then { gap with others := gap.others ++ [c] }
  else { gap with blanks := [], broken := true, first := [c] }

theorem broken_addBreak (gap : Gap) (c : Char) : (gap.addBreak c).broken = true := by
  unfold addBreak
  split
  · assumption
  · rfl

theorem addSpaces_cons (gap : Gap) (spaces : List Char) :
    (gap.addSpaces [' ']).addSpaces spaces = gap.addSpaces (' ' :: spaces) := by
  cases hbroken : gap.broken <;> simp [addSpaces, hbroken]

theorem folded_addSpaces (spaces : List Char) : (none.addSpaces spaces).folded = spaces := by
  simp [addSpaces, folded, none]

/-- Spaces in front of other characters. -/
theorem read?_spaces {spaces : List Char} (hspaces : ∀ c ∈ spaces, c = ' ') (gap : Gap)
    (hrest : cursor.rest = spaces ++ rest) (hsolid : ∀ c ∈ rest.head?, isGap c = false)
    {fuel : Nat} (hfuel : spaces.length ≤ fuel) :
    read? indent fuel gap cursor = some (gap.addSpaces spaces, cursor.skip spaces.length) := by
  induction spaces generalizing fuel gap cursor with
  | nil =>
    rw [read?_of_solid fuel gap hrest hsolid]
    obtain ⟨blanks, _ | _, first, others⟩ := gap <;> simp [addSpaces, Cursor.skip]
  | cons c spaces ih =>
    obtain ⟨rfl, hothers⟩ := List.forall_mem_cons.mp hspaces
    cases fuel with
    | zero => cases hfuel
    | succ fuel =>
      have hskip : (cursor.skip 1).rest = spaces ++ rest := by rw [Cursor.skip, hrest]; rfl
      have hnext := ih hothers (gap.addSpaces [' ']) hskip (Nat.le_of_succ_le_succ hfuel)
      rw [addSpaces_cons, Cursor.skip_skip, Nat.add_comm] at hnext
      rw [List.length_cons, ← hnext, read?, hrest]
      cases hbroken : gap.broken <;> simp [isBlank, addSpaces, hbroken]

theorem read?_break {c : Char} (h : IsKeptBreak c) (hrest : cursor.rest = c :: rest) (gap : Gap)
    (fuel : Nat) :
    read? indent (fuel + 1) gap cursor = read? indent fuel (gap.addBreak c) cursor.skipBreak := by
  rw [read?, hrest]
  simp [h.isBlank, h.isBreak, h.breakText hrest, addBreak]

theorem foldl_addBreak (c : Char) (breaks : List Char) :
    (c :: breaks).foldl addBreak none = ⟨[], true, [c], breaks⟩ := by
  have hmore : ∀ others, breaks.foldl addBreak ⟨[], true, [c], others⟩ =
      ⟨[], true, [c], others ++ breaks⟩ := by
    induction breaks with
    | nil => exact fun others => by rw [List.append_nil]; rfl
    | cons d breaks ih =>
      intro others
      rw [List.foldl_cons, addBreak, if_pos rfl, ih, List.append_assoc]
      rfl
  exact hmore []

theorem folded_breaks {breaks : List Char} (hne : breaks ≠ []) (hline : '\n' ∉ breaks) :
    (breaks.foldl addBreak none).folded = breaks := by
  obtain ⟨c, breaks, rfl⟩ := List.exists_cons_of_ne_nil hne
  have hc : c ≠ '\n' := (List.ne_of_not_mem_cons hline).symm
  rw [foldl_addBreak]
  simp [folded, hc]

/-- Breaks and the spaces at the beginning of the next line. -/
theorem read?_breaks {breaks spaces : List Char} (hbreaks : ∀ c ∈ breaks, IsKeptBreak c)
    (hspaces : ∀ c ∈ spaces, c = ' ') (gap : Gap) (hgap : breaks = [] → gap.broken = true ∧ cursor.column = 0)
    (hrest : cursor.rest = breaks ++ (spaces ++ rest)) (hsolid : ∀ c ∈ rest.head?, isGap c = false)
    {fuel : Nat} (hfuel : (breaks ++ spaces).length ≤ fuel) :
    ∃ after : Cursor, read? indent fuel gap cursor = some (breaks.foldl addBreak gap, after) ∧
      after.rest = rest ∧ after.column = spaces.length := by
  induction breaks generalizing fuel gap cursor with
  | nil =>
    refine ⟨cursor.skip spaces.length, ?_, ?_, ?_⟩
    · rw [read?_spaces hspaces gap hrest hsolid hfuel, addSpaces, if_pos (hgap rfl).1]
      rfl
    · rw [Cursor.skip, hrest, List.nil_append, List.drop_left]
    · rw [Cursor.skip, (hgap rfl).2, Nat.zero_add]
  | cons c breaks ih =>
    obtain ⟨hc, hothers⟩ := List.forall_mem_cons.mp hbreaks
    cases fuel with
    | zero => cases hfuel
    | succ fuel =>
      have hnext := hc.skipBreak hrest
      rw [read?_break hc hrest]
      exact ih hothers _ (fun _ => ⟨broken_addBreak gap c, hnext.column⟩) hnext.rest
        (Nat.le_of_succ_le_succ hfuel)

end Gap

end FetchClient.Yaml
