import FetchClient.Client.BuiltIn
import FetchClient.Proofs.Template.Constancy
import FetchClient.Proofs.Template.Reading

/-!
# Reading the built-in template

- `BuiltIn.parts`: the parts of its text, each with the piece that it spells;
- `BuiltIn.read?_source`: the text of the built-in template is read as the built-in template;
- `BuiltIn.after_template`: the built-in template asks for nothing, so it stays as it is.
-/

namespace FetchClient.BuiltIn

open Template Template.Piece

/-! ## Parts -/

/-- Text that stands for itself. -/
def textPart (text : String) : List Char × Piece :=
  (text.toList, .text text.toList)

/-- Double braces around a path. -/
def outputPart (text name : String) (keys : List String) : List Char × Piece :=
  (text.toList, .output false false [.path ⟨name, keys⟩])

/-- A tag that consists of paths. -/
def tagPart (text : String) (trimsBehind : Bool) (paths : List Path) : List Char × Piece :=
  (text.toList, .tag false trimsBehind (paths.map .path))

def headerParts : List (List Char × Piece) :=
  [tagPart "{% if title -%}" true [⟨"if", []⟩, ⟨"title", []⟩],
   textPart "\n/**\n * ",
   outputPart "{{ title }}" "title" [],
   tagPart "{% if version %}" false [⟨"if", []⟩, ⟨"version", []⟩],
   textPart " (version ",
   outputPart "{{ version }}" "version" [],
   textPart ")",
   tagPart "{% endif %}" false [⟨"endif", []⟩],
   textPart "\n *\n * Generated by fetchgen. Do not edit by hand.\n */\n\n",
   tagPart "{% endif -%}" true [⟨"endif", []⟩]]

def classParts : List (List Char × Piece) :=
  [textPart ("\n" ++ (errorClass ++ "class ")),
   outputPart "{{ class_name }}" "class_name" [],
   textPart classHead]

def methodsParts : List (List Char × Piece) :=
  [tagPart "{% for endpoint in endpoints %}" false
     [⟨"for", []⟩, ⟨"endpoint", []⟩, ⟨"in", []⟩, ⟨"endpoints", []⟩],
   textPart "\n  async ",
   outputPart "{{ endpoint.method_name }}" "endpoint" ["method_name"],
   textPart "(",
   tagPart "{% if endpoint.has_request_body %}" false
     [⟨"if", []⟩, ⟨"endpoint", ["has_request_body"]⟩],
   textPart "data",
   tagPart "{% endif %}" false [⟨"endif", []⟩],
   textPart ") \x7b\n    return await this.request('",
   outputPart "{{ endpoint.path_literal }}" "endpoint" ["path_literal"],
   textPart "', \x7b\n      method: '",
   outputPart "{{ endpoint.method }}" "endpoint" ["method"],
   textPart "'",
   tagPart "{% if endpoint.has_request_body %}" false
     [⟨"if", []⟩, ⟨"endpoint", ["has_request_body"]⟩],
   textPart ",\n      body: JSON.stringify(data)",
   tagPart "{% endif %}" false [⟨"endif", []⟩],
   textPart "\n    \x7d);\n  \x7d\n",
   tagPart "{% endfor %}" false [⟨"endfor", []⟩]]

def footerParts : List (List Char × Piece) :=
  [textPart "\n\x7d\n\nexport { HttpError };\nexport default ",
   outputPart "{{ class_name }}" "class_name" [],
   textPart ";\n"]

def parts : List (List Char × Piece) :=
  headerParts ++ (classParts ++ (methodsParts ++ footerParts))

/-- The parts together are the text of the template. -/
theorem toList_source : source.toList = (parts.map Prod.fst).flatten := by
  rw [source, String.toList_join, List.flatMap_def]
  simp only [parts, headerParts, classParts, methodsParts, footerParts, headerSource, methodsSource,
    textPart, outputPart, tagPart, List.map_append, List.map_cons, List.map_nil, List.append_assoc]

/-! ## Pieces -/

theorem toList_lines_cons (text : String) (texts : List String) :
    (lines (text :: texts)).toList = text.toList ++ '\n' :: (lines texts).toList := by
  rw [lines, lines, List.map_cons, String.toList_join, String.toList_join, List.flatMap_cons,
    String.toList_append, List.append_assoc]
  rfl

/-- A line is plain when its characters are. -/
theorem isPlain_line {cs : List Char} (h : isPlain (cs ++ ['\n']) = true) :
    isPlain (String.ofList cs ++ "\n").toList = true := by
  rw [String.toList_append, String.toList_ofList]
  exact h

theorem isPlain_lines {texts : List String}
    (h : ∀ text ∈ texts, isPlain (text ++ "\n").toList = true) :
    isPlain (lines texts).toList = true := by
  rw [lines, String.toList_join, List.flatMap_map]
  exact isPlain_flatMap h

theorem isPlain_errorClass : isPlain errorClass.toList = true := by
  refine isPlain_lines ?_
  repeat refine List.forall_mem_cons.mpr ⟨isPlain_line (by decide), ?_⟩
  exact List.forall_mem_nil _

theorem isPlain_classHead : isPlain classHead.toList = true := by
  refine isPlain_lines ?_
  repeat refine List.forall_mem_cons.mpr ⟨isPlain_line (by decide), ?_⟩
  exact List.forall_mem_nil _

theorem spells_literal {cs : List Char} (hne : cs ≠ []) (htext : isPlain cs = true)
    {behind : List Char} (hbehind : behind = [] ∨ opensTag behind = true) :
    Spells (String.ofList cs).toList (.text (String.ofList cs).toList) behind := by
  rw [String.toList_ofList]
  exact spells_text hne htext hbehind

theorem spellAll_headerParts (behind : List Char) : SpellAll headerParts behind := by
  repeat
    first
    | refine ⟨spells_literal (by decide) (by decide) (.inr (opensTag_flatten rfl)), ?_⟩
    | refine ⟨spells_tag (by decide) (fun _ => rfl) _, ?_⟩
  trivial

theorem spellAll_methodsParts (behind : List Char) : SpellAll methodsParts behind := by
  repeat
    first
    | refine ⟨spells_literal (by decide) (by decide) (.inr (opensTag_flatten rfl)), ?_⟩
    | refine ⟨spells_tag (by decide) (fun _ => rfl) _, ?_⟩
  trivial

theorem spellAll_footerParts : SpellAll footerParts [] :=
  ⟨spells_literal (by decide) (by decide) (.inr (opensTag_flatten rfl)),
   spells_tag (by decide) (fun _ => rfl) _,
   spells_literal (by decide) (by decide) (.inl rfl), trivial⟩

theorem spellAll_classParts {behind : List Char} (hbehind : opensTag behind = true) :
    SpellAll classParts behind := by
  have herror : isPlain ("\n" ++ (errorClass ++ "class ")).toList = true := by
    rw [String.toList_append, String.toList_append]
    exact isPlain_append (by decide) (isPlain_append isPlain_errorClass (by decide))
  refine ⟨spells_text ?_ herror (.inr (opensTag_flatten rfl)),
    spells_tag (by decide) (fun _ => rfl) _, spells_text ?_ isPlain_classHead (.inr hbehind),
    trivial⟩
  · rw [String.toList_append]
    exact List.append_ne_nil_of_left_ne_nil (by decide) _
  · rw [classHead, toList_lines_cons]
    exact List.append_ne_nil_of_right_ne_nil _ (List.cons_ne_nil _ _)

theorem spellAll_parts : SpellAll parts [] := by
  -- The class ends in text, which has to be followed by a tag: the loop over the endpoints.
  refine spellAll_append (spellAll_headerParts _) ?_
  refine spellAll_append (spellAll_classParts (opensTag_flatten rfl)) ?_
  exact spellAll_append (spellAll_methodsParts _) spellAll_footerParts

/-! ## Tree -/

open Template.Node

/-- Blanks behind a tag that trims end where a text begins with something else. -/
theorem trimStart_headerText : trimStart "\n/**\n * ".toList = "/**\n * ".toList := by
  decide

theorem trimStart_classText :
    trimStart ("\n" ++ (errorClass ++ "class ")).toList = (errorClass ++ "class ").toList := by
  rw [String.toList_append, String.toList_append, errorClass, toList_lines_cons,
    String.toList_ofList, String.toList_ofList]
  rfl

theorem readBranches?_headerParts (fuel : Nat) (rest : List Piece) :
    readBranches? (fuel + 12) (named "title") true (headerParts.tail.map Prod.snd ++ rest) =
      some ([(named "title", header)], [], true, rest) := by
  refine readBranches?_end ?_
  refine read?_trimmed trimStart_headerText rfl ?_
  refine read?_output rfl ?_
  refine read?_choice rfl (readBranches?_end (read?_text " (version " rfl
    (read?_output rfl (read?_text ")" rfl (read?_closing rfl))))) ?_
  refine read?_text "\n *\n * Generated by fetchgen. Do not edit by hand.\n */\n\n" rfl ?_
  exact read?_closing rfl

theorem readBodies?_methodsParts (fuel : Nat) (rest : List Piece) :
    readBodies? (fuel + 20) false (methodsParts.tail.map Prod.snd ++ rest) =
      some (method, [], false, rest) := by
  refine readBodies?_end ?_
  refine read?_text "\n  async " rfl (read?_output rfl ?_)
  refine read?_text "(" rfl (read?_choice rfl (readBranches?_end
    (read?_text "data" rfl (read?_closing rfl))) ?_)
  refine read?_text ") \x7b\n    return await this.request('" rfl (read?_output rfl ?_)
  refine read?_text "', \x7b\n      method: '" rfl (read?_output rfl ?_)
  refine read?_text "'" rfl (read?_choice rfl (readBranches?_end
    (read?_text ",\n      body: JSON.stringify(data)" rfl (read?_closing rfl))) ?_)
  exact read?_text "\n    \x7d);\n  \x7d\n" rfl (read?_closing rfl)

theorem read?_parts (fuel : Nat) :
    read? (fuel + 30) false (parts.map Prod.snd) = some (nodes, []) := by
  refine read?_choice rfl (readBranches?_headerParts _ _) ?_
  refine read?_trimmed trimStart_classText rfl (read?_output rfl ?_)
  refine read?_text classHead rfl (read?_loop rfl (readBodies?_methodsParts _ _) ?_)
  refine read?_text "\n\x7d\n\nexport { HttpError };\nexport default " rfl
    (read?_output rfl ?_)
  exact read?_text ";\n" rfl rfl

/-- **The built-in template**: its text is read as the tree that clients are rendered from. -/
theorem read?_source : Template.read? source = some template := by
  have hlength : (parts.map Prod.snd).length = 33 := rfl
  have hnodes : Node.readAll? source.toList = some nodes := by
    rw [toList_source]
    simp only [Node.readAll?, readAll?_flatten spellAll_parts, hlength, read?_parts 38,
      Option.bind_eq_bind, Option.bind_some, Option.pure_def]
  rw [read?_eq_map, hnodes, template, Option.map_some]

/-- The built-in template asks for nothing, so it is the same in every cycle. -/
theorem after_template (count : Nat) : template.after count = template :=
  after_ofNodes (by decide) count

end FetchClient.BuiltIn
