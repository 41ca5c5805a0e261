import FetchClient.Proofs.Client.Reading
import FetchClient.Proofs.Generation.Stages

/-!
# The names that a client module declares

A module declares two classes and refers to a few global names. Which class names it can declare
follows from these and from the words that the language reserves.

- `Client.declaredNames`, `Client.referredNames`: the names in the lines of a module;
- `Client.declaredNames_descriptionLines`, `Client.referredNames_descriptionLines`: what they are
  in a module of the built-in template;
- `Client.declares_soundly_iff`: the accepted class names that are declared soundly.
-/

namespace FetchClient.Client

open Log (begins begins_append begins_eq_false differ)
open Text (isOneLine_ofList linesOf)

/-! ## Names in lines -/

/-- The name of the class that a line at the margin declares. -/
def declaredName? (line : String) : Option String :=
  (behind? "class " line).map fun text => String.ofList (text.takeWhile (· != ' '))

def declaredNames (lines : List String) : List String :=
  lines.filterMap declaredName?

/-- The line that the error class begins with. -/
def errorLine : String :=
  "class HttpError extends Error \x7b"

/-- The line that makes the requests. -/
def fetchLine : String :=
  "    const response = await fetch(url, config);"

/-- The line of a method that encodes its data. -/
def bodyLine : String :=
  "      body: JSON.stringify(data)"

/-- Global names, each with the line that refers to it. -/
def globalUses : List (String × String) :=
  [("Error", errorLine), ("fetch", fetchLine), ("JSON", bodyLine)]

/-- The global names that some lines refer to. -/
def referredNames (lines : List String) : List String :=
  (globalUses.filter fun use => lines.contains use.2).map Prod.fst

/-- The words that no class of a module can have for its name: those that are reserved everywhere,
in modules or in strict code, and the two names that strict code never binds. -/
def reservedWords : List String :=
  ["break", "case", "catch", "class", "const", "continue", "debugger", "default", "delete", "do",
   "else", "enum", "export", "extends", "false", "finally", "for", "function", "if", "import", "in",
   "instanceof", "new", "null", "return", "super", "switch", "this", "throw", "true", "try",
   "typeof", "var", "void", "while", "with", "yield", "await", "let", "static", "implements",
   "interface", "package", "private", "protected", "public", "eval", "arguments"]

/-- Whether some lines declare each of their names once, and the class under a name that neither
hides a global name they refer to nor is reserved. -/
structure DeclaresSoundly (lines : List String) (className : String) : Prop where
  distinct : (declaredNames lines).Nodup
  hidesNothing : className ∉ referredNames lines
  notReserved : className ∉ reservedWords

/-! ## Lines that begin otherwise -/

/-- Whether a line begins neither with the declaration of a class nor with a body. -/
def isOther (line : String) : Bool :=
  !begins "class " line && !begins "      body" line

theorem isOther_of_begins {start line : String} (h : begins start line = true)
    (hclass : differ start "class " = true) (hbody : differ start "      body" = true) :
    isOther line = true := by
  rw [isOther, begins_eq_false h hclass, begins_eq_false h hbody]
  rfl

theorem isOther_ofList {cs : List Char} (hclass : "class ".toList.isPrefixOf cs = false)
    (hbody : "      body".toList.isPrefixOf cs = false) : isOther (String.ofList cs) = true := by
  have hbegins : ∀ mark : String, mark.toList.isPrefixOf cs = false →
      begins mark (String.ofList cs) = false := fun mark h => by rwa [begins, String.toList_ofList]
  rw [isOther, hbegins _ hclass, hbegins _ hbody]
  rfl

theorem isOther_headerLines (title version : String) :
    ∀ line ∈ headerLines title version, isOther line = true := by
  have htitle : isOther (" * " ++ title ++
      (if version = "" then "" else " (version " ++ version ++ ")")) = true :=
    isOther_of_begins (begins_append (begins_self_append " * " title) _) (by decide) (by decide)
  unfold headerLines
  split
  · exact List.forall_mem_nil _
  · exact List.forall_mem_cons.mpr ⟨by decide, List.forall_mem_cons.mpr ⟨htitle, by decide⟩⟩

theorem errorLines_eq_cons :
    ∃ others, errorLines = errorLine :: others ∧ ∀ line ∈ others, isOther line = true := by
  refine ⟨_, errorLines_eq rfl ?_, ?_⟩
  · repeat refine List.forall_mem_cons.mpr ⟨isOneLine_ofList (by decide), ?_⟩
    exact List.forall_mem_nil _
  · repeat refine List.forall_mem_cons.mpr ⟨isOther_ofList (by decide) (by decide), ?_⟩
    exact List.forall_mem_nil _

theorem isOther_headLines : ∀ line ∈ headLines, isOther line = true := by
  rw [headLines_eq rfl]
  · repeat refine List.forall_mem_cons.mpr ⟨isOther_ofList (by decide) (by decide), ?_⟩
    exact List.forall_mem_nil _
  · repeat refine List.forall_mem_cons.mpr ⟨isOneLine_ofList (by decide), ?_⟩
    exact List.forall_mem_nil _

theorem isOther_footerLines (className : String) :
    ∀ line ∈ footerLines className ++ [""], isOther line = true := by
  have hexport : isOther (exportLine className) = true :=
    isOther_of_begins (begins_self_append "export default " _) (by decide) (by decide)
  exact List.forall_mem_cons.mpr ⟨by decide, List.forall_mem_cons.mpr ⟨by decide,
    List.forall_mem_cons.mpr ⟨by decide, List.forall_mem_cons.mpr ⟨by decide,
      List.forall_mem_cons.mpr ⟨hexport, by decide⟩⟩⟩⟩⟩

/-- The lines of a method but the body. -/
theorem isOther_endpointLines (endpoint : Endpoint) :
    ∀ line ∈ endpointLines endpoint, line = bodyLine ∧ endpoint.hasRequestBody = true ∨
      isOther line = true := by
  have hsignature : isOther (signatureLine endpoint.methodName endpoint.hasRequestBody) = true :=
    isOther_of_begins (begins_self_append "  async " _) (by decide) (by decide)
  have hcall : isOther (callLine endpoint.pathLiteral) = true :=
    isOther_of_begins (begins_self_append "    return await this.request('" _) (by decide)
      (by decide)
  have hverb : isOther (verbLine endpoint.verb endpoint.hasRequestBody) = true :=
    isOther_of_begins (begins_self_append "      method: '" _) (by decide) (by decide)
  refine List.forall_mem_cons.mpr ⟨.inr (by decide), List.forall_mem_cons.mpr ⟨.inr hsignature,
    List.forall_mem_cons.mpr ⟨.inr hcall, List.forall_mem_cons.mpr ⟨.inr hverb, ?_⟩⟩⟩⟩
  cases endpoint.hasRequestBody <;> decide

/-! ## Declared names -/

theorem declaredName?_of_isOther {line : String} (h : isOther line = true) :
    declaredName? line = none := by
  have hclass : begins "class " line = false := by simpa using (Bool.and_eq_true_iff.mp h).1
  simp [declaredName?, behind?, hclass]

theorem declaredNames_of_isOther {lines : List String} (h : ∀ line ∈ lines, isOther line = true) :
    declaredNames lines = [] :=
  List.filterMap_eq_nil_iff.mpr fun line hline => declaredName?_of_isOther (h line hline)

theorem declaredNames_append (lines more : List String) :
    declaredNames (lines ++ more) = declaredNames lines ++ declaredNames more :=
  List.filterMap_append

theorem declaredNames_errorLines : declaredNames errorLines = ["HttpError"] := by
  have hfirst : declaredName? errorLine = some "HttpError" := by decide
  obtain ⟨others, herror, hothers⟩ := errorLines_eq_cons
  rw [herror, declaredNames, List.filterMap_cons_some hfirst]
  exact congrArg _ (declaredNames_of_isOther hothers)

theorem declaredNames_classLine {className : String}
    (hname : Text.isIdentifier className.toList = true) :
    declaredNames [classLine className] = [className] := by
  have hspace : ∀ c ∈ className.toList, (c != ' ') = true := by
    intro c hc
    rw [bne_iff_ne]
    rintro rfl
    have hblank := List.all_eq_true.mp (all_isNameChar_of_isIdentifier hname) ' ' hc
    revert hblank
    decide +kernel
  have hbehind : behind? "class " (classLine className) = some (className ++ " \x7b").toList := by
    rw [classLine, String.append_assoc, behind?_append]
  have hname : declaredName? (classLine className) = some className := by
    have hbrace : (" \x7b".toList.takeWhile (· != ' ')) = [] := by decide
    rw [declaredName?, hbehind, Option.map_some, String.toList_append,
      List.takeWhile_append_of_pos hspace, hbrace, List.append_nil, String.ofList_toList]
  rw [declaredNames, List.filterMap_cons_some hname, List.filterMap_nil]

theorem declaredNames_flatMap (endpoints : List Endpoint) :
    declaredNames (endpoints.flatMap endpointLines) = [] := by
  refine List.filterMap_eq_nil_iff.mpr fun line hline => ?_
  obtain ⟨endpoint, -, hmem⟩ := List.mem_flatMap.mp hline
  obtain ⟨rfl, -⟩ | hother := isOther_endpointLines endpoint line hmem
  · decide
  · exact declaredName?_of_isOther hother

/-- A module declares the error class and the client class. -/
theorem declaredNames_descriptionLines (description : Description) {className : String}
    (hname : Text.isIdentifier className.toList = true) :
    declaredNames (descriptionLines description className ++ [""]) = ["HttpError", className] := by
  rw [descriptionLines, moduleLines_append]
  simp only [declaredNames_append, declaredNames_of_isOther (isOther_headerLines _ _),
    declaredNames_errorLines, declaredNames_classLine hname,
    declaredNames_of_isOther isOther_headLines, declaredNames_flatMap]
  rw [← declaredNames_append, declaredNames_of_isOther (isOther_footerLines className)]
  rfl

/-! ## Global names -/

/-- The global names that a module refers to. -/
def globalNames (description : Description) : List String :=
  "Error" :: "fetch" ::
    if description.operations.any Operation.hasRequestBody then ["JSON"] else []

theorem bodyLine_notMem {lines : List String} (h : ∀ line ∈ lines, isOther line = true) :
    bodyLine ∉ lines := by
  intro hmem
  have hbody : isOther bodyLine = false := by decide
  rw [h bodyLine hmem] at hbody
  cases hbody

theorem bodyLine_mem_flatMap_iff {endpoints : List Endpoint} :
    bodyLine ∈ endpoints.flatMap endpointLines ↔
      endpoints.any Endpoint.hasRequestBody = true := by
  rw [List.mem_flatMap, List.any_eq_true]
  refine exists_congr fun endpoint => and_congr_right fun _ => ⟨fun hmem => ?_, fun hbody => ?_⟩
  · obtain ⟨-, hbody⟩ | hother := isOther_endpointLines endpoint _ hmem
    · exact hbody
    · exact absurd hother (by decide)
  · rw [endpointLines, hbody]
    simp [methodLines, methodTail, bodyLine]

/-- Data is encoded in the bodies of methods, and nowhere else. -/
theorem bodyLine_mem_moduleLines_iff {className title version : String} {endpoints : List Endpoint} :
    bodyLine ∈ moduleLines className title version endpoints ++ [""] ↔
      endpoints.any Endpoint.hasRequestBody = true := by
  have hclass : bodyLine ≠ classLine className := by
    intro h
    have hbegins := begins_append (begins_self_append "class " className) " \x7b"
    rw [← classLine, ← h] at hbegins
    exact absurd hbegins (by decide)
  have herror : bodyLine ∉ errorLines := by
    obtain ⟨others, herror, hothers⟩ := errorLines_eq_cons
    rw [herror]
    exact List.not_mem_cons_of_ne_of_not_mem (by decide) (bodyLine_notMem hothers)
  rw [moduleLines_append, List.mem_append, or_iff_right (bodyLine_notMem (isOther_headerLines _ _)),
    List.mem_append, or_iff_right herror, List.mem_append, List.mem_singleton, or_iff_right hclass,
    List.mem_append, or_iff_right (bodyLine_notMem isOther_headLines), List.mem_append,
    or_iff_left (bodyLine_notMem (isOther_footerLines className)), bodyLine_mem_flatMap_iff]

theorem referredNames_descriptionLines (description : Description) (className : String) :
    referredNames (descriptionLines description className ++ [""]) = globalNames description := by
  have herror : errorLine ∈ descriptionLines description className ++ [""] := by
    obtain ⟨others, herror, -⟩ := errorLines_eq_cons
    rw [descriptionLines, moduleLines_append, herror]
    simp
  have hfetch : fetchLine ∈ descriptionLines description className ++ [""] := by
    have hhead : fetchLine ∈ headLines := by
      rw [headLines_eq rfl]
      · simp [fetchLine]
      · repeat refine List.forall_mem_cons.mpr ⟨isOneLine_ofList (by decide), ?_⟩
        exact List.forall_mem_nil _
    rw [descriptionLines, moduleLines_append]
    simp [hhead]
  have hany : (Endpoint.ofOperations description.operations).value.any Endpoint.hasRequestBody =
      description.operations.any Operation.hasRequestBody := by
    have hmap := congrArg (List.any · id)
      (Endpoint.map_hasRequestBody_ofOperations description.operations)
    simpa only [List.any_map, Function.id_comp] using hmap
  have hbody : (descriptionLines description className ++ [""]).contains bodyLine =
      description.operations.any Operation.hasRequestBody := by
    rw [Bool.eq_iff_iff, List.contains_iff_mem, ← hany]
    exact bodyLine_mem_moduleLines_iff
  rw [← List.contains_iff_mem] at herror hfetch
  simp only [referredNames, globalUses, globalNames, List.filter_cons, herror, hfetch, hbody]
  cases description.operations.any Operation.hasRequestBody <;> rfl

/-! ## Class names -/

/-- The names that the class of a module cannot have. -/
def takenNames (description : Description) : List String :=
  "HttpError" :: (globalNames description ++ reservedWords)

variable {description : Description} {className : String} {client : Client}

theorem declaresSoundly_iff_notMem
    (h : (emit BuiltIn.template description className).value = .ok client) :
    DeclaresSoundly (linesOf client.sourceText) className ↔ className ∉ takenNames description := by
  have hdeclared := declaredNames_descriptionLines description (isIdentifier_of_emit h)
  rw [linesOf_sourceText h, takenNames, List.mem_cons, List.mem_append, not_or, not_or,
    ← referredNames_descriptionLines description className]
  constructor
  · rintro ⟨hdistinct, hhides, hreserved⟩
    rw [hdeclared] at hdistinct
    exact ⟨fun h => by simp [h] at hdistinct, hhides, hreserved⟩
  · rintro ⟨hother, hhides, hreserved⟩
    refine ⟨?_, hhides, hreserved⟩
    rw [hdeclared]
    simpa [eq_comm] using hother

/-- Every accepted class name gives a module that declares and exports a class of this name beside
the error class. It declares it soundly exactly if the name is not that of the error class, of a
global that the module refers to, or of a reserved word. -/
theorem accepted_name_declared {config : Config} (h : config.validate = .ok ())
    (description : Description) :
    ∃ client, (emit BuiltIn.template description config.className).value = .ok client ∧
      declaredNames (linesOf client.sourceText) = ["HttpError", config.className] ∧
      readClass? (linesOf client.sourceText) = some config.className ∧
      (DeclaresSoundly (linesOf client.sourceText) config.className ↔
        config.className ∉ takenNames description) := by
  have hname := Generation.validate_eq_ok_iff.mp h
  have hemit := value_emit_builtIn description hname
  refine ⟨_, hemit, ?_, (read_sourceText hemit).1, declaresSoundly_iff_notMem hemit⟩
  rw [linesOf_sourceText hemit]
  exact declaredNames_descriptionLines description hname

/-- A configuration that chooses a class name. -/
def chosen (name : String) : Config :=
  { Config.ofPaths "api.json" "client.js" with chosenName := some name }

/-- A description of one operation that takes data. -/
def petDescription : Description :=
  ⟨.null, [⟨"/pets", .post, none, some (.object [("content", .object [("text/plain", .null)])]),
    none, none⟩], []⟩

theorem accepted_name_declared_pets :
    (chosen "PetClient").validate = .ok () ∧
    ∃ client, (emit BuiltIn.template petDescription "PetClient").value = .ok client ∧
      declaredNames (linesOf client.sourceText) = ["HttpError", "PetClient"] ∧
      DeclaresSoundly (linesOf client.sourceText) "PetClient" := by
  have hvalid : (chosen "PetClient").validate = .ok () := by decide
  obtain ⟨client, hemit, hdeclared, -, hsound⟩ := accepted_name_declared hvalid petDescription
  have hfree : "PetClient" ∉ takenNames petDescription := by decide
  exact ⟨hvalid, client, hemit, hdeclared, hsound.mpr hfree⟩

/-- Whether a class name is accepted but not declared soundly. -/
def IsClash (name : String) : Prop :=
  (chosen name).validate = .ok () ∧
    ∃ client, (emit BuiltIn.template petDescription name).value = .ok client ∧
      ¬ DeclaresSoundly (linesOf client.sourceText) name

theorem isClash_of_mem {name : String} (hname : Text.isIdentifier name.toList = true)
    (htaken : name ∈ takenNames petDescription) : IsClash name := by
  have hvalid : (chosen name).validate = .ok () := Generation.validate_eq_ok_iff.mpr hname
  have hemit := value_emit_builtIn petDescription hname
  exact ⟨hvalid, _, hemit, fun hsound => (declaresSoundly_iff_notMem hemit).mp hsound htaken⟩

/-- The name of the error class, names of globals and a reserved word are accepted. -/
theorem accepted_names_clash :
    IsClash "HttpError" ∧ IsClash "Error" ∧ IsClash "fetch" ∧ IsClash "JSON" ∧ IsClash "class" :=
  ⟨isClash_of_mem (by decide) (by decide), isClash_of_mem (by decide) (by decide),
    isClash_of_mem (by decide) (by decide), isClash_of_mem (by decide) (by decide),
    isClash_of_mem (by decide) (by decide)⟩

end FetchClient.Client
