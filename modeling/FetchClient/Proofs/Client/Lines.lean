import FetchClient.Proofs.Client.Emission
import FetchClient.Proofs.Endpoint.Characters
import FetchClient.Proofs.Text.Comment
import FetchClient.Proofs.Text.Quoted

/-!
# The lines of a client module

Whatever a description holds, each of its texts stays on the line that it stands in.

- `Client.moduleLines`: the lines of a module, put together from those of its parts;
- `Client.moduleText_eq_lines`: together they are the text of the module;
- `Client.linesOf_sourceText`: so they are its lines.
-/

namespace FetchClient.Client

open BuiltIn (lines)
open Text (IsOneLine isOneLine_append isOneLine_ofList linesOf)

/-! ## Lines of the parts -/

/-- The lines of the comment in front. -/
def headerLines (title version : String) : List String :=
  if title = "" then []
  else
    ["/**", " * " ++ title ++ (if version = "" then "" else " (version " ++ version ++ ")"), " *",
     " * Generated by fetchgen. Do not edit by hand.", " */", ""]

/-- The lines of the error class. -/
def errorLines : List String :=
  (linesOf BuiltIn.errorClass).dropLast

/-- The first line of the client class. -/
def classLine (className : String) : String :=
  "class " ++ className ++ " \x7b"

/-- The lines of the client class behind the first one, up to its own methods. -/
def headLines : List String :=
  (linesOf BuiltIn.classHead).tail.dropLast

/-- The line that a method begins with. -/
def signatureLine (name : String) (takesData : Bool) : String :=
  "  async " ++ (name ++ ("(" ++ ((if takesData then "data" else "") ++ ") \x7b")))

/-- The line with the path of a method. -/
def callLine (pathLiteral : String) : String :=
  "    return await this.request('" ++ (pathLiteral ++ "', \x7b")

/-- The line with the verb of a method. -/
def verbLine (verb : Verb) (takesData : Bool) : String :=
  "      method: '" ++ (verb.token ++ (if takesData then "'," else "'"))

/-- What follows these lines of a method. -/
def methodTail (takesData : Bool) : List String :=
  (if takesData then ["      body: JSON.stringify(data)"] else []) ++ ["    \x7d);", "  \x7d"]

/-- The lines of one method. -/
def methodLines (name pathLiteral : String) (verb : Verb) (takesData : Bool) : List String :=
  "" :: signatureLine name takesData :: callLine pathLiteral :: verbLine verb takesData ::
    methodTail takesData

def endpointLines (endpoint : Endpoint) : List String :=
  methodLines endpoint.methodName endpoint.pathLiteral endpoint.verb endpoint.hasRequestBody

/-- The last line. -/
def exportLine (className : String) : String :=
  "export default " ++ (className ++ ";")

/-- The lines behind the methods. -/
def footerLines (className : String) : List String :=
  ["", "\x7d", "", "export { HttpError };", exportLine className]

/-- The lines of a module. -/
def moduleLines (className title version : String) (endpoints : List Endpoint) : List String :=
  headerLines title version ++ (errorLines ++ ([classLine className] ++ (headLines ++
    (endpoints.flatMap endpointLines ++ footerLines className))))

/-! ## Their texts -/

theorem lines_cons (text : String) (texts : List String) :
    lines (text :: texts) = text ++ ("\n" ++ lines texts) := by
  rw [lines, lines, List.map_cons, String.join_cons, String.append_assoc]

theorem lines_append (texts more : List String) :
    lines (texts ++ more) = lines texts ++ lines more := by
  rw [lines, lines, lines, List.map_append, String.join_append]

theorem lines_nil : lines [] = "" := by
  rw [lines, List.map_nil, String.join_nil]

theorem lines_singleton (text : String) : lines [text] = text ++ "\n" := by
  rw [lines_cons, lines_nil, String.append_empty]

theorem lines_flatMap (endpoints : List Endpoint) :
    lines (endpoints.flatMap endpointLines) =
      String.join (endpoints.map fun endpoint => lines (endpointLines endpoint)) := by
  induction endpoints with
  | nil => rfl
  | cons endpoint endpoints ih =>
    rw [List.flatMap_cons, lines_append, List.map_cons, String.join_cons, ih]

theorem headerText_eq_lines (title version : String) :
    headerText title version = lines (headerLines title version) := by
  have hopen : "/**\n * " = "/**" ++ ("\n" ++ " * ") := by decide
  have hclose : "\n *\n * Generated by fetchgen. Do not edit by hand.\n */\n\n" =
      "\n" ++ (" *" ++ ("\n" ++ (" * Generated by fetchgen. Do not edit by hand." ++
        ("\n" ++ (" */" ++ ("\n" ++ ("" ++ ("\n" ++ "")))))))) := by
    decide
  unfold headerText headerLines
  by_cases htitle : title = ""
  · rw [if_pos htitle, if_pos htitle]
    rfl
  · rw [if_neg htitle, if_neg htitle, hopen, hclose]
    simp only [lines_cons, lines_nil, String.append_assoc]

/-- Lines that are put together are found again. -/
theorem linesOf_lines {texts : List String} (h : ∀ text ∈ texts, IsOneLine text) :
    linesOf (lines texts) = texts ++ [""] :=
  Text.linesOf_join h

theorem errorLines_eq {texts : List String} (h : BuiltIn.errorClass = lines texts)
    (honeLine : ∀ text ∈ texts, IsOneLine text) : errorLines = texts := by
  rw [errorLines, h, linesOf_lines honeLine, List.dropLast_concat]

theorem headLines_eq {texts : List String} (h : BuiltIn.classHead = lines (" \x7b" :: texts))
    (honeLine : ∀ text ∈ texts, IsOneLine text) : headLines = texts := by
  have hall : ∀ text ∈ " \x7b" :: texts, IsOneLine text :=
    List.forall_mem_cons.mpr ⟨by decide, honeLine⟩
  rw [headLines, h, linesOf_lines hall, List.cons_append, List.tail_cons, List.dropLast_concat]

theorem errorClass_eq_lines : BuiltIn.errorClass = lines errorLines := by
  rw [errorLines_eq rfl]
  · rfl
  · repeat refine List.forall_mem_cons.mpr ⟨isOneLine_ofList (by decide), ?_⟩
    exact List.forall_mem_nil _

theorem classHead_eq_lines : BuiltIn.classHead = lines (" \x7b" :: headLines) := by
  rw [headLines_eq rfl]
  · rfl
  · repeat refine List.forall_mem_cons.mpr ⟨isOneLine_ofList (by decide), ?_⟩
    exact List.forall_mem_nil _

theorem methodText_eq_lines (name pathLiteral : String) (verb : Verb) (takesData : Bool) :
    methodText name pathLiteral verb takesData =
      lines (methodLines name pathLiteral verb takesData) := by
  have hopen : "\n  async " = "\n" ++ "  async " := by decide
  have hcall : ") \x7b\n    return await this.request('" =
      ") \x7b" ++ ("\n" ++ "    return await this.request('") := by
    decide
  have hverb : "', \x7b\n      method: '" = "', \x7b" ++ ("\n" ++ "      method: '") := by decide
  have hbody : ",\n      body: JSON.stringify(data)" =
      "," ++ ("\n" ++ "      body: JSON.stringify(data)") := by
    decide
  have hclose : "\n    \x7d);\n  \x7d\n" =
      "\n" ++ ("    \x7d);" ++ ("\n" ++ ("  \x7d" ++ ("\n" ++ "")))) := by
    decide
  have hcomma : "'," = "'" ++ "," := by decide
  unfold methodText methodLines signatureLine callLine verbLine methodTail
  cases takesData <;>
    simp only [hopen, hcall, hverb, hbody, hclose, hcomma, lines_cons, lines_nil,
      String.append_assoc, if_true, Bool.false_eq_true, if_false, List.cons_append,
      List.nil_append, String.empty_append]

theorem moduleText_eq_lines (className title version : String) (endpoints : List Endpoint) :
    moduleText className (headerText title version) (endpoints.map methodOf) =
      lines (moduleLines className title version endpoints) := by
  have hclose : "\n\x7d\n\nexport { HttpError };\nexport default " =
      "" ++ ("\n" ++ ("\x7d" ++ ("\n" ++ ("" ++ ("\n" ++ ("export { HttpError };" ++
        ("\n" ++ "export default "))))))) := by
    decide
  have hend : ";\n" = ";" ++ ("\n" ++ "") := by decide
  have hmethods : String.join (endpoints.map methodOf) =
      lines (endpoints.flatMap endpointLines) := by
    rw [lines_flatMap]
    refine congrArg String.join (List.map_congr_left fun endpoint _ => ?_)
    exact methodText_eq_lines _ _ _ _
  unfold moduleText moduleLines footerLines classLine exportLine
  rw [hmethods, headerText_eq_lines, errorClass_eq_lines, classHead_eq_lines, hclose, hend]
  rw [lines_append, lines_append, lines_append, lines_append, lines_append, lines_singleton]
  simp only [lines_cons, lines_nil, String.append_assoc]

/-! ## What stands in a line -/

theorem isOneLine_of_isNameChar {text : String} (h : text.toList.all Text.isNameChar = true) :
    IsOneLine text := by
  intro hbreak
  have hfeed := List.all_eq_true.mp h '\n' hbreak
  revert hfeed
  decide +kernel

theorem all_isNameChar_of_isIdentifier {text : List Char} (h : Text.isIdentifier text = true) :
    text.all Text.isNameChar = true := by
  cases text with
  | nil => rfl
  | cons c rest =>
    rw [Text.isIdentifier, Bool.and_eq_true] at h
    rw [List.all_cons, Text.isNameChar_of_part (Text.isIdentifierPart_of_start h.1),
      Bool.true_and, List.all_eq_true]
    exact fun d hd => Text.isNameChar_of_part (List.all_eq_true.mp h.2 d hd)

theorem isOneLine_className {className : String}
    (h : Text.isIdentifier className.toList = true) : IsOneLine className :=
  isOneLine_of_isNameChar (all_isNameChar_of_isIdentifier h)

theorem isOneLine_metadataLine (text : Option String) : IsOneLine (metadataLine text) :=
  Text.Comment.isOneLine_line _

theorem isOneLine_encode (path : String) :
    IsOneLine (String.ofList (Text.Quoted.encode path.toList)) := by
  intro hbreak
  rw [String.toList_ofList] at hbreak
  exact Text.Quoted.not_mem_encode (.inl rfl) _ hbreak

/-- What of an endpoint is written into a line of its own, as it has to be for that. -/
structure Fits (endpoint : Endpoint) : Prop where
  name : endpoint.methodName.toList.all Text.isNameChar = true
  path : endpoint.pathLiteral = String.ofList (Text.Quoted.encode endpoint.path.toList)

theorem fits_ofOperations {ops : List Operation} {endpoint : Endpoint}
    (h : endpoint ∈ (Endpoint.ofOperations ops).value) : Fits endpoint where
  name := by
    apply Endpoint.all_isNameChar_methodNames
    rw [← Endpoint.map_methodName_ofOperations ops]
    exact List.mem_map_of_mem h
  path := by
    rw [Endpoint.value_ofOperations, List.mem_iff_getElem?] at h
    obtain ⟨i, hi⟩ := h
    obtain ⟨op, name, -, -, rfl⟩ := List.getElem?_zipWith_eq_some.mp hi
    rfl

/-! ## The lines of a text -/

theorem isOneLine_headerLines {title version : String} (htitle : IsOneLine title)
    (hversion : IsOneLine version) : ∀ line ∈ headerLines title version, IsOneLine line := by
  have htail : IsOneLine (if version = "" then "" else " (version " ++ version ++ ")") := by
    split
    · decide
    · exact isOneLine_append.mpr ⟨isOneLine_append.mpr ⟨by decide, hversion⟩, by decide⟩
  have hfirst : IsOneLine (" * " ++ title ++
      (if version = "" then "" else " (version " ++ version ++ ")")) :=
    isOneLine_append.mpr ⟨isOneLine_append.mpr ⟨by decide, htitle⟩, htail⟩
  unfold headerLines
  split
  · exact List.forall_mem_nil _
  · refine List.forall_mem_cons.mpr ⟨by decide, List.forall_mem_cons.mpr ⟨hfirst, ?_⟩⟩
    decide

theorem isOneLine_endpointLines {endpoint : Endpoint} (h : Fits endpoint) :
    ∀ line ∈ endpointLines endpoint, IsOneLine line := by
  have hsignature : IsOneLine (signatureLine endpoint.methodName endpoint.hasRequestBody) := by
    have hname := isOneLine_of_isNameChar h.name
    have hdata : IsOneLine (if endpoint.hasRequestBody then "data" else "") := by
      split <;> decide
    exact isOneLine_append.mpr ⟨by decide, isOneLine_append.mpr ⟨hname, isOneLine_append.mpr
      ⟨by decide, isOneLine_append.mpr ⟨hdata, by decide⟩⟩⟩⟩
  have hcall : IsOneLine (callLine endpoint.pathLiteral) := by
    rw [h.path]
    exact isOneLine_append.mpr ⟨by decide, isOneLine_append.mpr ⟨isOneLine_encode _, by decide⟩⟩
  have hverb : IsOneLine (verbLine endpoint.verb endpoint.hasRequestBody) := by
    cases endpoint.verb <;> cases endpoint.hasRequestBody <;> decide
  have htail : ∀ line ∈ methodTail endpoint.hasRequestBody, IsOneLine line := by
    cases endpoint.hasRequestBody <;> decide
  exact List.forall_mem_cons.mpr ⟨by decide, List.forall_mem_cons.mpr ⟨hsignature,
    List.forall_mem_cons.mpr ⟨hcall, List.forall_mem_cons.mpr ⟨hverb, htail⟩⟩⟩⟩

theorem isOneLine_errorLines : ∀ line ∈ errorLines, IsOneLine line :=
  fun _ hline => Text.isOneLine_of_mem_linesOf (List.dropLast_subset _ hline)

theorem isOneLine_headLines : ∀ line ∈ headLines, IsOneLine line :=
  fun _ hline => Text.isOneLine_of_mem_linesOf (List.mem_of_mem_tail (List.dropLast_subset _ hline))

theorem isOneLine_footerLines {className : String} (h : IsOneLine className) :
    ∀ line ∈ footerLines className, IsOneLine line := by
  have hexport : IsOneLine (exportLine className) :=
    isOneLine_append.mpr ⟨by decide, isOneLine_append.mpr ⟨h, by decide⟩⟩
  intro line hline
  simp only [footerLines, List.mem_cons, List.not_mem_nil, or_false] at hline
  rcases hline with rfl | rfl | rfl | rfl | rfl
  on_goal 5 => exact hexport
  all_goals decide

/-- Every line of a module is one line. -/
theorem isOneLine_moduleLines {className title version : String} {endpoints : List Endpoint}
    (hclass : IsOneLine className) (htitle : IsOneLine title) (hversion : IsOneLine version)
    (hfits : ∀ endpoint ∈ endpoints, Fits endpoint) :
    ∀ line ∈ moduleLines className title version endpoints, IsOneLine line := by
  have hfirst : IsOneLine (classLine className) :=
    isOneLine_append.mpr ⟨isOneLine_append.mpr ⟨by decide, hclass⟩, by decide⟩
  intro line hline
  simp only [moduleLines, List.mem_append, List.mem_singleton] at hline
  rcases hline with hline | hline | rfl | hline | hline | hline
  · exact isOneLine_headerLines htitle hversion line hline
  · exact isOneLine_errorLines line hline
  · exact hfirst
  · exact isOneLine_headLines line hline
  · obtain ⟨endpoint, hendpoint, hline⟩ := List.mem_flatMap.mp hline
    exact isOneLine_endpointLines (hfits endpoint hendpoint) line hline
  · exact isOneLine_footerLines hclass line hline

/-- The lines of what the built-in template gives for a description. -/
def descriptionLines (description : Description) (className : String) : List String :=
  moduleLines className (metadataLine description.title?) (metadataLine description.version?)
    (Endpoint.ofOperations description.operations).value

/-- A client of the built-in template has these lines, the last of them ended like the others. -/
theorem linesOf_sourceText {description : Description} {className : String} {client : Client}
    (h : (emit BuiltIn.template description className).value = .ok client) :
    linesOf client.sourceText = descriptionLines description className ++ [""] := by
  have hname := isIdentifier_of_emit h
  have hlines : ∀ line ∈ descriptionLines description className, IsOneLine line :=
    isOneLine_moduleLines (isOneLine_className hname) (isOneLine_metadataLine _)
      (isOneLine_metadataLine _) fun _ hendpoint => fits_ofOperations hendpoint
  have htext : client.sourceText = lines (descriptionLines description className) := by
    rw [value_emit_builtIn description hname, moduleText_eq_lines] at h
    rw [← Except.ok.inj h, descriptionLines]
  rw [htext, linesOf_lines hlines]

end FetchClient.Client
