import FetchClient.Template.Rendering
import Mathlib.Data.Option.Basic

/-!
# Reading a template part by part

- `Piece.isPlain`: whether a text holds no tag, and none begins where it ends;
- `Piece.Spells`: whether a part of a template's text is read as a certain piece;
- `Piece.readAll?_flatten`: a text that falls into such parts is read as their pieces.
-/

namespace FetchClient.Template.Piece

/-! ## Text without tags -/

/-- Whether no tag begins in the text, not even with what may stand behind it. -/
def isPlain : List Char → Bool
  | [] => true
  | ['{'] => false
  | c :: rest => !opensTag (c :: rest) && isPlain rest

theorem opensTag_append {c : Char} {rest : List Char} (hplain : isPlain (c :: rest) = true)
    (behind : List Char) : opensTag (c :: rest ++ behind) = false := by
  unfold isPlain at hplain
  split at hplain
  · simp_all
  · simp_all
  · next c' rest' hnot heq =>
    obtain ⟨rfl, rfl⟩ := List.cons.inj heq
    rw [Bool.and_eq_true, Bool.not_eq_true'] at hplain
    cases rest with
    | cons d rest =>
      -- Two characters decide, and both stand in the plain text.
      have hsame : opensTag (c :: d :: rest ++ behind) = opensTag (c :: d :: rest) := by
        simp only [List.cons_append]
        unfold opensTag
        split <;> simp_all
      rw [hsame]
      exact hplain.1
    | nil =>
      have hc : c ≠ '{' := fun h => hnot h rfl
      cases behind with
      | nil => exact hplain.1
      | cons d behind =>
        unfold opensTag
        split
        · simp_all
        · rfl

theorem isPlain_tail {c : Char} {rest : List Char} (hplain : isPlain (c :: rest) = true) :
    isPlain rest = true := by
  unfold isPlain at hplain
  split at hplain
  · simp_all
  · simp_all
  · next heq =>
    obtain ⟨rfl, rfl⟩ := List.cons.inj heq
    rw [Bool.and_eq_true] at hplain
    exact hplain.2

/-- Plain texts stay plain when they are joined. -/
theorem isPlain_append {text behind : List Char} (htext : isPlain text = true)
    (hbehind : isPlain behind = true) : isPlain (text ++ behind) = true := by
  induction text with
  | nil => exact hbehind
  | cons c rest ih =>
    have hopens := opensTag_append htext behind
    have hrest := ih (isPlain_tail htext)
    rw [List.cons_append] at hopens ⊢
    unfold isPlain
    split
    · rfl
    · next heq =>
      obtain ⟨rfl, hnil⟩ := List.cons.inj heq
      obtain ⟨rfl, rfl⟩ := List.append_eq_nil_iff.mp hnil
      exact htext
    · next heq =>
      obtain ⟨rfl, rfl⟩ := List.cons.inj heq
      rw [hopens, hrest]
      rfl

theorem isPlain_flatMap {α : Type} {f : α → List Char} {items : List α}
    (hitems : ∀ item ∈ items, isPlain (f item) = true) : isPlain (items.flatMap f) = true := by
  induction items with
  | nil => rfl
  | cons item items ih =>
    rw [List.forall_mem_cons] at hitems
    rw [List.flatMap_cons]
    exact isPlain_append hitems.1 (ih hitems.2)

/-- Plain text is taken up to the tag behind it. -/
theorem takeText_append {text behind : List Char} (htext : isPlain text = true)
    (hbehind : behind = [] ∨ opensTag behind = true) :
    takeText (text ++ behind) = (text, behind) := by
  induction text with
  | nil =>
    cases behind with
    | nil => rfl
    | cons c behind =>
      have hopens : opensTag (c :: behind) = true := hbehind.resolve_left (List.cons_ne_nil _ _)
      rw [List.nil_append, takeText, if_pos hopens]
  | cons c rest ih =>
    have hopens := opensTag_append htext behind
    rw [List.cons_append] at hopens ⊢
    rw [takeText, hopens, if_neg (by decide), ih (isPlain_tail htext)]

/-! ## Parts of a text -/

/-- Whether a part of a text is read as a certain piece when the given text stands behind it. -/
structure Spells (part : List Char) (piece : Piece) (behind : List Char) : Prop where
  ne_nil : part ≠ []
  next : next? (part ++ behind) = some (piece, behind)

theorem next?_text {cs : List Char} (h : opensTag cs = false) :
    next? cs = some (.text (takeText cs).1, (takeText cs).2) := by
  unfold next?
  split <;> simp_all [opensTag]

theorem spells_text {text behind : List Char} (hne : text ≠ []) (htext : isPlain text = true)
    (hbehind : behind = [] ∨ opensTag behind = true) : Spells text (.text text) behind := by
  refine ⟨hne, ?_⟩
  cases text with
  | nil => exact absurd rfl hne
  | cons c rest =>
    rw [next?_text (opensTag_append htext behind), takeText_append htext hbehind]

/-- A tag is read from its own characters. -/
theorem spells_tag {cs : List Char} {piece : Piece} (hne : cs ≠ [])
    (hnext : ∀ behind, next? (cs ++ behind) = some (piece, behind)) (behind : List Char) :
    Spells (String.ofList cs).toList piece behind := by
  rw [String.toList_ofList]
  exact ⟨hne, hnext behind⟩

/-- Whether every part is read as its piece in front of the parts behind it and a last text. -/
def SpellAll : List (List Char × Piece) → List Char → Prop
  | [], _ => True
  | (part, piece) :: parts, behind =>
    Spells part piece ((parts.map Prod.fst).flatten ++ behind) ∧ SpellAll parts behind

/-- A tag that stands in front of parts begins them. -/
theorem opensTag_flatten {cs behind : List Char} {piece : Piece}
    {parts : List (List Char × Piece)} (hcs : opensTag cs = true) :
    opensTag (((((String.ofList cs).toList, piece) :: parts).map Prod.fst).flatten ++ behind) =
      true := by
  rw [List.map_cons, List.flatten_cons, String.toList_ofList, List.append_assoc]
  unfold opensTag at hcs ⊢
  split at hcs
  · exact hcs
  · exact absurd hcs (by decide)

theorem spellAll_append {parts others : List (List Char × Piece)} {behind : List Char}
    (hparts : SpellAll parts ((others.map Prod.fst).flatten ++ behind))
    (hothers : SpellAll others behind) : SpellAll (parts ++ others) behind := by
  induction parts with
  | nil => exact hothers
  | cons first parts ih =>
    obtain ⟨part, piece⟩ := first
    have hflat : ((parts ++ others).map Prod.fst).flatten ++ behind =
        (parts.map Prod.fst).flatten ++ ((others.map Prod.fst).flatten ++ behind) := by
      rw [List.map_append, List.flatten_append, List.append_assoc]
    exact ⟨hflat ▸ hparts.1, ih hparts.2⟩

theorem read?_flatten {parts : List (List Char × Piece)} (hparts : SpellAll parts []) {fuel : Nat}
    (hfuel : (parts.map Prod.fst).flatten.length ≤ fuel) :
    read? fuel (parts.map Prod.fst).flatten = some (parts.map Prod.snd) := by
  induction parts generalizing fuel with
  | nil => cases fuel <;> rfl
  | cons first parts ih =>
    obtain ⟨part, piece⟩ := first
    obtain ⟨⟨hne, hnext⟩, hrest⟩ := hparts
    have hfuel : part.length + (parts.map Prod.fst).flatten.length ≤ fuel := by
      rwa [List.map_cons, List.flatten_cons, List.length_append] at hfuel
    -- A part takes one unit of fuel, and it has one character at least to pay for that.
    have hlong : 0 < part.length := List.length_pos_iff.mpr hne
    obtain ⟨fuel, rfl⟩ : ∃ m, fuel = m + 1 := ⟨fuel - 1, by omega⟩
    have hread : read? fuel (parts.map Prod.fst).flatten = some (parts.map Prod.snd) :=
      ih hrest (by omega)
    rw [List.append_nil] at hnext
    rw [List.map_cons, List.flatten_cons]
    obtain ⟨c, cs, hcons⟩ := List.exists_cons_of_ne_nil
      (List.append_ne_nil_of_left_ne_nil hne (parts.map Prod.fst).flatten)
    rw [hcons] at hnext ⊢
    simp only [read?, hnext, hread, Option.bind_eq_bind, Option.bind_some, Option.pure_def,
      List.map_cons]

/-- A text that falls into parts is read as the pieces that these spell. -/
theorem readAll?_flatten {parts : List (List Char × Piece)} (hparts : SpellAll parts []) :
    readAll? (parts.map Prod.fst).flatten = some (parts.map Prod.snd) :=
  read?_flatten hparts (Nat.le_refl _)

end FetchClient.Template.Piece

/-!
## Pieces of a tree

Every way to read nodes, branches and bodies that ends well, from the pieces in front to those that
are left.
-/

namespace FetchClient.Template.Node

open Piece (trimStart)

variable {fuel : Nat} {trims before behind ends : Bool} {lexemes : List Lexeme} {e : Expr}
  {nodes body : List Node} {rest after : List Piece}

/-- A text between pieces that do not trim it. -/
theorem read?_text (text : String) (hnext : nextTrims rest = false)
    (hrest : read? fuel false rest = some (nodes, after)) :
    read? (fuel + 1) false (.text text.toList :: rest) = some (.text text :: nodes, after) := by
  simp [read?, hnext, hrest, Piece.trimStartIf, Piece.trimEndIf]

/-- A text behind a piece that trims it. -/
theorem read?_trimmed {cs : List Char} {text : String} (htext : trimStart cs = text.toList)
    (hnext : nextTrims rest = false) (hrest : read? fuel false rest = some (nodes, after)) :
    read? (fuel + 1) true (.text cs :: rest) = some (.text text :: nodes, after) := by
  simp [read?, hnext, hrest, htext, Piece.trimStartIf, Piece.trimEndIf]

theorem read?_output (he : Expr.read? lexemes = some e)
    (hrest : read? fuel behind rest = some (nodes, after)) :
    read? (fuel + 1) trims (.output before behind lexemes :: rest) =
      some (.output e :: nodes, after) := by
  simp [read?, he, hrest]

/-- A closing tag is left to the tag that it closes. -/
theorem read?_closing (hcloses : closes (.tag before behind lexemes) = true) :
    read? (fuel + 1) trims (.tag before behind lexemes :: rest) =
      some ([], .tag before behind lexemes :: rest) := by
  simp [read?, hcloses]

theorem read?_choice {branches : List (Expr × List Node)} {otherwise : List Node}
    {others : List Piece} (he : Expr.read? lexemes = some e)
    (hbranches : readBranches? fuel e behind rest = some (branches, otherwise, ends, others))
    (hrest : read? fuel ends others = some (nodes, after)) :
    read? (fuel + 1) trims (.tag before behind (.path ⟨"if", []⟩ :: lexemes) :: rest) =
      some (.choice branches otherwise :: nodes, after) := by
  have hcloses : closes (.tag before behind (.path ⟨"if", []⟩ :: lexemes)) = false := by
    rfl
  simp [read?, hcloses, Piece.word?, he, hbranches, hrest]

theorem read?_loop {key : Option String} {item : String} {otherwise : List Node}
    {others : List Piece} (hhead : loopHead? lexemes = some (key, item, e))
    (hbodies : readBodies? fuel behind rest = some (body, otherwise, ends, others))
    (hrest : read? fuel ends others = some (nodes, after)) :
    read? (fuel + 1) trims (.tag before behind (.path ⟨"for", []⟩ :: lexemes) :: rest) =
      some (.loop key item e body otherwise :: nodes, after) := by
  have hcloses : closes (.tag before behind (.path ⟨"for", []⟩ :: lexemes)) = false := by
    rfl
  simp [read?, hcloses, Piece.word?, hhead, hbodies, hrest]

/-- Where no end of a text is to be trimmed, nothing is. -/
theorem trimEndIf_false (nodes : List Node) : trimEndIf false nodes = nodes := by
  induction nodes with
  | nil => rfl
  | cons node nodes ih =>
    unfold trimEndIf
    split
    · next heq => exact heq.symm
    · next s heq => simp_all [Piece.trimEndIf]
    · next heq =>
      obtain ⟨rfl, rfl⟩ := List.cons.inj heq
      rw [ih]

theorem readBranches?_end
    (hbody : read? fuel trims rest = some (body, .tag false ends [.path ⟨"endif", []⟩] :: after)) :
    readBranches? (fuel + 1) e trims rest = some ([(e, body)], [], ends, after) := by
  simp [readBranches?, hbody, word?, trimEndIf_false, guard]

theorem readBodies?_end
    (hbody : read? fuel trims rest = some (body, .tag false ends [.path ⟨"endfor", []⟩] :: after)) :
    readBodies? (fuel + 1) trims rest = some (body, [], ends, after) := by
  simp [readBodies?, hbody, word?, trimEndIf_false, guard]

end FetchClient.Template.Node
