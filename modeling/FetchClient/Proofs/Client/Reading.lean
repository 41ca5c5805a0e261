import FetchClient.Proofs.Client.Lines
import FetchClient.Proofs.Log.Beginning

/-!
# Reading a client module

A reader that knows nothing but the lines of a module finds the name of the class and all that its
methods were made of. So no text of a description can pass for something else.

- `Client.readMethods`: what the methods in some lines were made of;
- `Client.Holds`, `Client.readMethods_of_holds`: lines in which no method begins do not matter;
- `Client.readMethods_moduleLines`, `Client.readClass?_moduleLines`: what is read is what was
  written;
- `Client.module_determines_source`: modules with the same text are of classes with the same name and
  of the same endpoints, and each endpoint has one line that begins like a method.
-/

namespace FetchClient

/-- What of an endpoint a module shows: the name of its method, its path, its verb, and whether it
has a body. -/
def Endpoint.shown (endpoint : Endpoint) : String × String × Verb × Bool :=
  (endpoint.methodName, endpoint.path, endpoint.verb, endpoint.hasRequestBody)

namespace Client

open Log (begins begins_iff begins_append begins_eq_false differ)
open Text (isOneLine_ofList linesOf)

/-! ## Reading -/

/-- What stands in a line behind the text that it has to begin with. -/
def behind? (mark line : String) : Option (List Char) :=
  if begins mark line then some (line.toList.drop mark.toList.length) else none

theorem begins_self_append (mark rest : String) : begins mark (mark ++ rest) = true := by
  rw [begins_iff, String.toList_append]
  exact List.prefix_append _ _

theorem behind?_append (mark rest : String) : behind? mark (mark ++ rest) = some rest.toList := by
  rw [behind?, if_pos (begins_self_append mark rest), String.toList_append, List.drop_left]

/-- Whether a line begins like a method. -/
def isSignature (line : String) : Bool :=
  begins "  async " line

/-- The name in a line that begins like a method: what stands in front of the parenthesis. -/
def signatureName (line : String) : String :=
  String.ofList ((line.toList.drop 8).takeWhile (· != '('))

/-- Whether there is something in the parentheses of such a line. -/
def signatureTakesData (line : String) : Bool :=
  (line.toList.drop 8).dropWhile (· != '(') == "(data) \x7b".toList

/-- The path in a line that makes a request. -/
def callPath? (line : String) : Option String :=
  ((behind? "    return await this.request('" line).bind Text.Quoted.decode).map fun read =>
    String.ofList read.1

/-- The verb in a line that names one. -/
def verbIn? (line : String) : Option Verb :=
  (behind? "      method: '" line).bind fun text =>
    Verb.ofToken? (String.ofList (text.takeWhile (· != '\'')))

/-- What a method was made of, by the line that it begins with and those behind that. -/
def readMethod? (line : String) (rest : List String) : Option (String × String × Verb × Bool) :=
  if isSignature line then
    (rest[0]?.bind callPath?).bind fun path =>
      (rest[1]?.bind verbIn?).map fun verb =>
        (signatureName line, path, verb, signatureTakesData line)
  else none

/-- What the methods in some lines were made of. -/
def readMethods : List String → List (String × String × Verb × Bool)
  | [] => []
  | line :: rest => (readMethod? line rest).toList ++ readMethods rest

/-- The name of the class, which stands in the last line that is ended. -/
def readClass? (lines : List String) : Option String :=
  (lines.dropLast.getLast?.bind (behind? "export default ")).map fun text =>
    String.ofList text.dropLast

/-! ## Lines in which no method begins -/

/-- Whether no method with a request begins in some lines. -/
def isQuiet : List String → Bool
  | [] => true
  | line :: rest =>
    (!isSignature line || rest.head?.any fun next => (callPath? next).isNone) && isQuiet rest

/-- Whether some lines are quiet and these of them begin like methods. -/
structure Holds (quiet signatures : List String) : Prop where
  isQuiet : isQuiet quiet = true
  filter : quiet.filter isSignature = signatures

theorem holds_cons {line : String} {quiet signatures : List String}
    (hline : isSignature line = false) (h : Holds quiet signatures) :
    Holds (line :: quiet) signatures where
  isQuiet := by
    rw [isQuiet, hline, h.isQuiet]
    rfl
  filter := by
    rw [List.filter_cons_of_neg (by rw [hline]; decide), h.filter]

theorem holds_of_all {quiet : List String} (h : ∀ line ∈ quiet, isSignature line = false) :
    Holds quiet [] := by
  induction quiet with
  | nil => exact ⟨rfl, rfl⟩
  | cons line quiet ih =>
    obtain ⟨hline, hquiet⟩ := List.forall_mem_cons.mp h
    exact holds_cons hline (ih hquiet)

theorem readMethods_of_holds {quiet signatures : List String} (h : Holds quiet signatures)
    (rest : List String) : readMethods (quiet ++ rest) = readMethods rest := by
  obtain ⟨h, -⟩ := h
  induction quiet with
  | nil => rfl
  | cons line quiet ih =>
    rw [isQuiet, Bool.and_eq_true, Bool.or_eq_true, Bool.not_eq_true'] at h
    obtain ⟨hline, hquiet⟩ := h
    have hnone : readMethod? line (quiet ++ rest) = none := by
      rcases hline with hline | hnext
      · rw [readMethod?, if_neg (by rw [hline]; decide)]
      · -- The line that follows makes no request.
        cases quiet with
        | nil => cases hnext
        | cons next quiet =>
          have hpath : callPath? next = none := by simpa using hnext
          simp [readMethod?, hpath]
    rw [List.cons_append, readMethods, hnone, ih hquiet]
    rfl

theorem isSignature_ofList_eq_false {cs : List Char}
    (h : [' ', ' ', 'a', 's', 'y', 'n', 'c', ' '].isPrefixOf cs = false) :
    isSignature (String.ofList cs) = false := by
  have hmark : "  async ".toList = [' ', ' ', 'a', 's', 'y', 'n', 'c', ' '] := by decide
  rw [isSignature, begins, hmark, String.toList_ofList, h]

theorem isSignature_eq_false {mark line : String} (h : begins mark line = true)
    (hdiffer : differ mark "  async " = true) : isSignature line = false :=
  begins_eq_false h hdiffer

theorem holds_headerLines (title version : String) : Holds (headerLines title version) [] := by
  have htitle : isSignature (" * " ++ title ++
      (if version = "" then "" else " (version " ++ version ++ ")")) = false :=
    isSignature_eq_false (begins_append (begins_self_append " * " title) _) (by decide)
  apply holds_of_all
  unfold headerLines
  split
  · exact List.forall_mem_nil _
  · refine List.forall_mem_cons.mpr ⟨by decide, List.forall_mem_cons.mpr ⟨htitle, ?_⟩⟩
    decide

theorem holds_classLine (className : String) : Holds [classLine className] [] :=
  holds_cons (isSignature_eq_false (begins_append (begins_self_append "class " className) _)
    (by decide)) ⟨rfl, rfl⟩

theorem holds_errorLines : Holds errorLines [] := by
  rw [errorLines_eq rfl]
  · repeat refine holds_cons (isSignature_ofList_eq_false (by decide)) ?_
    exact ⟨rfl, rfl⟩
  · repeat refine List.forall_mem_cons.mpr ⟨isOneLine_ofList (by decide), ?_⟩
    exact List.forall_mem_nil _

/-- What stands behind the methods, with the end of the text as a line of its own. -/
theorem holds_footerLines (className : String) : Holds (footerLines className ++ [""]) [] := by
  have hexport : isSignature (exportLine className) = false :=
    isSignature_eq_false (begins_self_append "export default " _) (by decide)
  exact holds_cons (by decide) (holds_cons (by decide) (holds_cons (by decide)
    (holds_cons (by decide) (holds_cons hexport (holds_cons (by decide) ⟨rfl, rfl⟩)))))

/-! ## The lines of a method -/

theorem toList_signatureLine (name : String) (takesData : Bool) :
    (signatureLine name takesData).toList.drop 8 =
      name.toList ++ '(' :: ((if takesData then "data" else "") ++ ") \x7b").toList := by
  have hmark : "  async ".toList.length = 8 := by decide
  rw [signatureLine, String.toList_append, ← hmark, List.drop_left, String.toList_append,
    String.toList_append]
  rfl

theorem bne_parenthesis {name : String} (h : name.toList.all Text.isNameChar = true) :
    ∀ c ∈ name.toList, (c != '(') = true := by
  intro c hc
  rw [bne_iff_ne]
  rintro rfl
  have hname := List.all_eq_true.mp h '(' hc
  revert hname
  decide +kernel

theorem isSignature_signatureLine (name : String) (takesData : Bool) :
    isSignature (signatureLine name takesData) = true :=
  begins_self_append "  async " _

/-- The name of a method has no parenthesis in it, so it is what stands before the first one. -/
theorem signatureName_signatureLine {name : String} (takesData : Bool)
    (h : name.toList.all Text.isNameChar = true) :
    signatureName (signatureLine name takesData) = name := by
  rw [signatureName, toList_signatureLine, List.takeWhile_append_of_pos (bne_parenthesis h),
    List.takeWhile_cons_of_neg (by decide), List.append_nil, String.ofList_toList]

theorem signatureTakesData_signatureLine {name : String} (takesData : Bool)
    (h : name.toList.all Text.isNameChar = true) :
    signatureTakesData (signatureLine name takesData) = takesData := by
  rw [signatureTakesData, toList_signatureLine, List.dropWhile_append_of_pos (bne_parenthesis h),
    List.dropWhile_cons_of_neg (by decide)]
  cases takesData <;> decide

theorem behind?_callLine (pathLiteral : String) :
    behind? "    return await this.request('" (callLine pathLiteral) =
      some (pathLiteral ++ "', \x7b").toList :=
  behind?_append _ _

/-- The path that is quoted in a call is read back, whatever it is. -/
theorem callPath?_callLine (path : String) :
    callPath? (callLine (String.ofList (Text.Quoted.encode path.toList))) = some path := by
  have hquote : "', \x7b".toList = '\'' :: ", \x7b".toList := by decide
  rw [callPath?, behind?_callLine, String.toList_append, String.toList_ofList, hquote,
    Option.bind_some, Text.Quoted.decode_encode_append, Option.map_some, String.ofList_toList]

theorem verbIn?_verbLine (verb : Verb) (takesData : Bool) :
    verbIn? (verbLine verb takesData) = some verb := by
  cases verb <;> cases takesData <;> decide

/-- What a method was made of is read from its first lines. -/
theorem readMethod?_endpointLines {endpoint : Endpoint} (h : Fits endpoint) (rest : List String) :
    readMethod? (signatureLine endpoint.methodName endpoint.hasRequestBody)
      (callLine endpoint.pathLiteral :: verbLine endpoint.verb endpoint.hasRequestBody :: rest) =
        some endpoint.shown := by
  rw [readMethod?, if_pos (isSignature_signatureLine _ _), List.getElem?_cons_zero,
    List.getElem?_cons_succ, List.getElem?_cons_zero, h.path, Option.bind_some, Option.bind_some,
    callPath?_callLine, verbIn?_verbLine, Option.bind_some, Option.map_some,
    signatureName_signatureLine _ h.name, signatureTakesData_signatureLine _ h.name, Endpoint.shown]

/-- The lines behind the one that a method begins with. -/
def bodyLines (endpoint : Endpoint) : List String :=
  callLine endpoint.pathLiteral :: verbLine endpoint.verb endpoint.hasRequestBody ::
    methodTail endpoint.hasRequestBody

theorem holds_bodyLines (endpoint : Endpoint) : Holds (bodyLines endpoint) [] := by
  have hcall : isSignature (callLine endpoint.pathLiteral) = false :=
    isSignature_eq_false (begins_self_append "    return await this.request('" _)
      (by decide)
  have hverb : isSignature (verbLine endpoint.verb endpoint.hasRequestBody) = false :=
    isSignature_eq_false (begins_self_append "      method: '" _) (by decide)
  refine holds_cons hcall (holds_cons hverb (holds_of_all ?_))
  cases endpoint.hasRequestBody <;> decide

theorem readMethods_endpointLines {endpoint : Endpoint} (h : Fits endpoint) (rest : List String) :
    readMethods (endpointLines endpoint ++ rest) = endpoint.shown :: readMethods rest := by
  have hempty : Holds [""] [] := holds_cons (by decide) ⟨rfl, rfl⟩
  calc readMethods (endpointLines endpoint ++ rest)
      = readMethods ([""] ++ (signatureLine endpoint.methodName endpoint.hasRequestBody ::
          (bodyLines endpoint ++ rest))) := rfl
    _ = readMethods (signatureLine endpoint.methodName endpoint.hasRequestBody ::
          (bodyLines endpoint ++ rest)) := readMethods_of_holds hempty _
    _ = endpoint.shown :: readMethods (bodyLines endpoint ++ rest) := by
        rw [readMethods, bodyLines, List.cons_append, List.cons_append,
          readMethod?_endpointLines h]
        rfl
    _ = endpoint.shown :: readMethods rest := by
        rw [readMethods_of_holds (holds_bodyLines endpoint)]

theorem readMethods_flatMap {endpoints : List Endpoint}
    (h : ∀ endpoint ∈ endpoints, Fits endpoint) (rest : List String) :
    readMethods (endpoints.flatMap endpointLines ++ rest) =
      endpoints.map Endpoint.shown ++ readMethods rest := by
  induction endpoints with
  | nil => rfl
  | cons endpoint endpoints ih =>
    obtain ⟨hfirst, hothers⟩ := List.forall_mem_cons.mp h
    rw [List.flatMap_cons, List.append_assoc, readMethods_endpointLines hfirst, ih hothers]
    rfl

/-! ## The lines of a module -/

/-- The line that the method of the class itself begins with. -/
def requestLine : String :=
  "  async request(path, options = {}) \x7b"

/-- The method of the class itself is followed by no request. -/
theorem holds_requestLine {next : String} {quiet signatures : List String}
    (hnext : callPath? next = none) (h : Holds (next :: quiet) signatures) :
    Holds (requestLine :: next :: quiet) (requestLine :: signatures) where
  isQuiet := by
    have hhead : (next :: quiet).head?.any (fun next => (callPath? next).isNone) = true := by
      rw [List.head?_cons, Option.any_some, hnext]
      rfl
    rw [isQuiet, hhead, h.isQuiet, Bool.or_true, Bool.and_self]
  filter := by
    have hrequest : isSignature requestLine = true := by decide
    rw [List.filter_cons_of_pos hrequest, h.filter]

/-- The class has one method of its own, and that makes no request by its name. -/
theorem holds_headLines : Holds headLines [requestLine] := by
  rw [headLines_eq rfl]
  · repeat refine holds_cons (isSignature_ofList_eq_false (by decide)) ?_
    refine holds_requestLine (by decide) ?_
    repeat refine holds_cons (isSignature_ofList_eq_false (by decide)) ?_
    exact ⟨rfl, rfl⟩
  · repeat refine List.forall_mem_cons.mpr ⟨isOneLine_ofList (by decide), ?_⟩
    exact List.forall_mem_nil _

variable {endpoints : List Endpoint}

/-- The parts of a module, one behind the other. -/
theorem moduleLines_append (className title version : String) (endpoints : List Endpoint)
    (rest : List String) :
    moduleLines className title version endpoints ++ rest =
      headerLines title version ++ (errorLines ++ ([classLine className] ++ (headLines ++
        (endpoints.flatMap endpointLines ++ (footerLines className ++ rest))))) := by
  rw [moduleLines, List.append_assoc, List.append_assoc, List.append_assoc, List.append_assoc,
    List.append_assoc]

/-- All that stands in a module in front of the methods, and behind them, is passed over. -/
theorem readMethods_moduleLines (className title version : String)
    (h : ∀ endpoint ∈ endpoints, Fits endpoint) :
    readMethods (moduleLines className title version endpoints ++ [""]) =
      endpoints.map Endpoint.shown := by
  have hfooter := readMethods_of_holds (holds_footerLines className) []
  rw [List.append_nil] at hfooter
  rw [moduleLines_append, readMethods_of_holds (holds_headerLines _ _),
    readMethods_of_holds holds_errorLines, readMethods_of_holds (holds_classLine _),
    readMethods_of_holds holds_headLines, readMethods_flatMap h, hfooter, readMethods,
    List.append_nil]

theorem readClass?_moduleLines (className title version : String) (endpoints : List Endpoint) :
    readClass? (moduleLines className title version endpoints ++ [""]) = some className := by
  have hexport : behind? "export default " (exportLine className) = some (className ++ ";").toList :=
    behind?_append _ _
  have hlast : (moduleLines className title version endpoints).getLast? =
      some (exportLine className) := by
    have hsplit := moduleLines_append className title version endpoints []
    rw [List.append_nil, List.append_nil] at hsplit
    have hfooter : footerLines className =
        ["", "\x7d", "", "export { HttpError };"] ++ [exportLine className] := rfl
    rw [hsplit, hfooter]
    rw [← List.append_assoc, ← List.append_assoc, ← List.append_assoc, ← List.append_assoc,
      ← List.append_assoc, List.getLast?_concat]
  have hdrop : (className ++ ";").toList.dropLast = className.toList := by
    rw [String.toList_append]
    exact List.dropLast_concat
  rw [readClass?, List.dropLast_concat, hlast, Option.bind_some, hexport, Option.map_some, hdrop,
    String.ofList_toList]

theorem filter_isSignature_endpointLines (endpoint : Endpoint) :
    (endpointLines endpoint).filter isSignature =
      [signatureLine endpoint.methodName endpoint.hasRequestBody] := by
  have hempty : ¬ isSignature "" = true := by decide
  show ("" :: signatureLine endpoint.methodName endpoint.hasRequestBody ::
    bodyLines endpoint).filter isSignature = _
  rw [List.filter_cons_of_neg hempty, List.filter_cons_of_pos (isSignature_signatureLine _ _),
    (holds_bodyLines endpoint).filter]

/-- The lines that begin like methods are those of the methods, and the one of the class itself. -/
theorem filter_isSignature_moduleLines (className title version : String)
    (endpoints : List Endpoint) :
    (moduleLines className title version endpoints ++ [""]).filter isSignature =
      requestLine :: endpoints.map fun endpoint =>
        signatureLine endpoint.methodName endpoint.hasRequestBody := by
  have hmethods : (endpoints.flatMap endpointLines).filter isSignature =
      endpoints.map fun endpoint =>
        signatureLine endpoint.methodName endpoint.hasRequestBody := by
    rw [List.filter_flatMap, List.map_eq_flatMap]
    exact List.flatMap_congr fun endpoint _ => filter_isSignature_endpointLines endpoint
  rw [moduleLines_append, List.filter_append, List.filter_append, List.filter_append,
    List.filter_append, List.filter_append, (holds_headerLines title version).filter,
    holds_errorLines.filter, (holds_classLine className).filter, holds_headLines.filter, hmethods,
    (holds_footerLines className).filter, List.append_nil]
  rfl

/-! ## What a module determines -/

variable {description other : Description} {className otherName : String} {client another : Client}

/-- The class and the endpoints are read from the text of a module, whatever else it was made of. -/
theorem read_sourceText (h : (emit BuiltIn.template description className).value = .ok client) :
    readClass? (linesOf client.sourceText) = some className ∧
      readMethods (linesOf client.sourceText) =
        (Endpoint.ofOperations description.operations).value.map Endpoint.shown := by
  rw [linesOf_sourceText h, descriptionLines]
  exact ⟨readClass?_moduleLines _ _ _ _,
    readMethods_moduleLines _ _ _ fun _ hendpoint => fits_ofOperations hendpoint⟩

/-- The lines of a module that begin like methods name `request` and then the endpoints. -/
theorem map_signatureName_sourceText
    (h : (emit BuiltIn.template description className).value = .ok client) :
    ((linesOf client.sourceText).filter (begins "  async ")).map signatureName =
      "request" :: (Endpoint.ofOperations description.operations).value.map (·.methodName) := by
  have hfilter : (linesOf client.sourceText).filter (begins "  async ") =
      requestLine :: (Endpoint.ofOperations description.operations).value.map fun endpoint =>
        signatureLine endpoint.methodName endpoint.hasRequestBody := by
    rw [linesOf_sourceText h, descriptionLines]
    exact filter_isSignature_moduleLines _ _ _ _
  have hrequest : signatureName requestLine = "request" := by decide
  rw [hfilter, List.map_cons, hrequest, List.map_map]
  refine congrArg _ (List.map_congr_left fun endpoint hendpoint => ?_)
  exact signatureName_signatureLine _ (fits_ofOperations hendpoint).name

/-- **No injection**: two modules of the built-in template have the same text only if their classes
have the same name and their endpoints agree one by one in the name of the method, the path, the
verb and the body flag, whatever characters there are in the descriptions. And the lines of a module
that begin like a method are one for the class's own and one for each endpoint, in order. -/
theorem module_determines_source
    (h : (emit BuiltIn.template description className).value = .ok client)
    (hother : (emit BuiltIn.template other otherName).value = .ok another) :
    (client.sourceText = another.sourceText →
      className = otherName ∧
      (Endpoint.ofOperations description.operations).value.map Endpoint.shown =
        (Endpoint.ofOperations other.operations).value.map Endpoint.shown) ∧
    ((linesOf client.sourceText).filter (begins "  async ")).map signatureName =
      "request" :: (Endpoint.ofOperations description.operations).value.map (·.methodName) := by
  refine ⟨fun hsame => ?_, map_signatureName_sourceText h⟩
  obtain ⟨hclass, hmethods⟩ := read_sourceText h
  obtain ⟨hclass', hmethods'⟩ := read_sourceText hother
  rw [hsame] at hclass hmethods
  exact ⟨Option.some.inj (hclass.symm.trans hclass'), hmethods.symm.trans hmethods'⟩

/-- An operation whose texts try to end what they stand in and to begin a method. -/
def hostileOperation : Operation :=
  ⟨"/it's\\', \x7b\n  async fake() \x7b\n", .post, some "x() {}\n  async fake", none, none, none⟩

def hostileDescription (title : String) : Description :=
  ⟨.object [("title", .string title)], [hostileOperation], []⟩

def hostileEndpoint : Endpoint :=
  .ofOperation hostileOperation "xAsyncFake"

def hostileClient : Client :=
  ⟨"ApiClient", moduleText "ApiClient" (headerText "a * / async fake() \x7b" "")
    [methodOf hostileEndpoint]⟩

theorem emit_hostileDescription {title : String}
    (htitle : metadataLine (some title) = "a * / async fake() \x7b") :
    (emit BuiltIn.template (hostileDescription title) "ApiClient").value = .ok hostileClient := by
  have hname : Text.isIdentifier "ApiClient".toList = true := by decide
  have hendpoints : (Endpoint.ofOperations (hostileDescription title).operations).value =
      [hostileEndpoint] := by
    show (Endpoint.ofOperations (hostileDescription "").operations).value = [hostileEndpoint]
    decide +kernel
  have hversion : metadataLine (hostileDescription title).version? = "" := by
    show metadataLine (hostileDescription "").version? = ""
    decide
  have hshown : metadataLine (hostileDescription title).title? = "a * / async fake() \x7b" := htitle
  rw [value_emit_builtIn _ hname, hendpoints, hversion, hshown]
  rfl

/-- Two descriptions with the same module: their titles differ in blanks and in a terminator. -/
theorem module_determines_source_hostile :
    (emit BuiltIn.template (hostileDescription "a */\n  async fake() \x7b") "ApiClient").value =
      .ok hostileClient ∧
    (emit BuiltIn.template (hostileDescription "a * / async\tfake() \x7b") "ApiClient").value =
      .ok hostileClient ∧
    (Endpoint.ofOperations (hostileDescription "a */\n  async fake() \x7b").operations).value.map
        Endpoint.shown =
      (Endpoint.ofOperations (hostileDescription "a * / async\tfake() \x7b").operations).value.map
        Endpoint.shown ∧
    ((linesOf hostileClient.sourceText).filter (begins "  async ")).map signatureName =
      ["request", "xAsyncFake"] := by
  have hone := @emit_hostileDescription "a */\n  async fake() \x7b" (by decide)
  have hother := @emit_hostileDescription "a * / async\tfake() \x7b" (by decide)
  obtain ⟨hdetermined, hlines⟩ := module_determines_source hone hother
  refine ⟨hone, hother, (hdetermined rfl).2, ?_⟩
  rw [hlines]
  decide +kernel

end Client

end FetchClient
