import FetchClient.Client.Rendering
import FetchClient.Proofs.Client.BuiltIn
import FetchClient.Proofs.Description.Entries
import FetchClient.Proofs.Endpoint.Naming
import FetchClient.Proofs.Template.Rendering

/-!
# The text of a client module

- `Client.moduleText`: the text, put together without a template;
- `Client.listed`: the operations that the object of paths lists;
- `Client.render_builtIn`: for which texts and class names the built-in template gives a client, and
  that the client is the text of the module.
-/

namespace FetchClient.Client

open Template

/-! ## The text -/

/-- A title or version on one line; empty when there is none. -/
def metadataLine (text : Option String) : String :=
  String.ofList (Text.Comment.line (text.getD "").toList)

/-- The comment in front of a module. -/
def headerText (title version : String) : String :=
  if title = "" then ""
  else "/**\n * " ++ title ++ (if version = "" then "" else " (version " ++ version ++ ")") ++
      "\n *\n * Generated by fetchgen. Do not edit by hand.\n */\n\n"

/-- One method. -/
def methodText (name pathLiteral : String) (verb : Verb) (takesData : Bool) : String :=
  "\n  async " ++ name ++ "(" ++ (if takesData then "data" else "") ++
    ") \x7b\n    return await this.request('" ++ pathLiteral ++
    "', \x7b\n      method: '" ++ verb.token ++ "'" ++
    (if takesData then ",\n      body: JSON.stringify(data)" else "") ++ "\n    \x7d);\n  \x7d\n"

/-- A whole module. -/
def moduleText (className header : String) (methods : List String) : String :=
  header ++ BuiltIn.errorClass ++ "class " ++ className ++ BuiltIn.classHead ++
    String.join methods ++ "\n\x7d\n\nexport { HttpError };\nexport default " ++
    className ++ ";\n"

/-! ## The methods of a description -/

/-- An operation as it stands in a description. -/
structure Listed where
  path : String
  verb : Verb
  members : List (String × Value)

/-- The operation that an entry under a path is, if its key names a verb and its value is an
object. -/
def listedMember? (path : String) : String × Value → Option Listed
  | (key, .object members) => (Verb.ofText? key).map fun verb => ⟨path, verb, members⟩
  | _ => none

/-- The operations under paths, in the order in which they stand there. -/
def listed (paths : List (String × Value)) : List Listed :=
  paths.flatMap fun
    | (path, .object entries) => entries.filterMap (listedMember? path)
    | _ => []

namespace Listed

def operation (entry : Listed) : Operation :=
  .ofMembers entry.path entry.verb entry.members

/-- Whether the request body has an object of contents that is not empty. -/
def takesData (entry : Listed) : Bool :=
  match (entry.members.lookup "requestBody").bind (·.member? "content") with
  | some (.object (_ :: _)) => true
  | _ => false

/-- The method of an operation that was given a name. -/
def methodText (entry : Listed) (name : String) : String :=
  Client.methodText name (String.ofList (Text.Quoted.encode entry.path.toList)) entry.verb
    entry.takesData

end Listed

/-- The methods of a module, each with its own name. -/
def methodTexts (entries : List Listed) : List String :=
  List.zipWith Listed.methodText entries (Endpoint.methodNames (entries.map Listed.operation))

/-! ## Rendering -/

theorem isTruthy_metadata (text : Option String) :
    (metadata text).isTruthy = true ↔ metadataLine text ≠ "" := by
  cases text with
  | none => decide
  | some text =>
    show (!(metadataLine (some text)).isEmpty) = true ↔ _
    rw [Bool.not_eq_true', ← Bool.not_eq_true, String.isEmpty_iff]

theorem metadata_eq_string {text : Option String} (h : metadataLine text ≠ "") :
    metadata text = .string (metadataLine text) := by
  cases text with
  | none => exact absurd (by decide) h
  | some text => rfl

variable {env : Environment}

/-- What depends on a title or a version is there when that is not empty. -/
theorem gives_metadata {path : Path} {text : Option String} {nodes body : List Node}
    {shown rest : String} (hlookup : env.lookup? path = some (metadata text))
    (hbody : env.lookup? path = some (.string (metadataLine text)) → Gives env body shown)
    (hrest : Gives env nodes rest) :
    Gives env (.choice [(.ofTerm (.variable path), body)] [] :: nodes)
      ((if metadataLine text = "" then "" else shown) ++ rest) := by
  have htruth : (env.lookup? path).any Value.isTruthy = true ↔ metadataLine text ≠ "" := by
    rw [hlookup, Option.any_some]
    exact isTruthy_metadata text
  have hgives : Gives env (.choice [(.ofTerm (.variable path), body)] [] :: nodes)
      ((if (env.lookup? path).any Value.isTruthy then shown else "") ++ rest) :=
    gives_choice (fun htrue => hbody (by rw [hlookup, metadata_eq_string (htruth.mp htrue)])) hrest
  by_cases hempty : metadataLine text = ""
  · rw [if_neg fun htrue => htruth.mp htrue hempty] at hgives
    rwa [if_pos hempty]
  · rw [if_pos (htruth.mpr hempty)] at hgives
    rwa [if_neg hempty]

/-- A body flag decides on what depends on it. -/
theorem gives_flag {path : Path} {flag : Bool} {nodes : List Node} (text : String) {rest : String}
    (hlookup : env.lookup? path = some (.bool flag)) (hrest : Gives env nodes rest) :
    Gives env (.choice [(.ofTerm (.variable path), [.text text])] [] :: nodes)
      ((if flag then text else "") ++ rest) := by
  have hgives : Gives env (.choice [(.ofTerm (.variable path), [.text text])] [] :: nodes)
      ((if (env.lookup? path).any Value.isTruthy then text else "") ++ rest) :=
    gives_choice (fun _ => gives_text_nil text) hrest
  rwa [hlookup, Option.any_some] at hgives

theorem gives_header {title version : Option String} {nodes : List Node} {rest : String}
    (htitle : env.lookup? ⟨"title", []⟩ = some (metadata title))
    (hversion : env.lookup? ⟨"version", []⟩ = some (metadata version))
    (hrest : Gives env nodes rest) :
    Gives env (.choice [(BuiltIn.named "title", BuiltIn.header)] [] :: nodes)
      (headerText (metadataLine title) (metadataLine version) ++ rest) := by
  refine gives_metadata htitle (fun htitle => ?_) hrest
  have hversion := gives_metadata hversion
    (fun hversion => gives_text " (version " (gives_output hversion (gives_text ")" gives_nil)))
    (gives_text "\n *\n * Generated by fetchgen. Do not edit by hand.\n */\n\n" gives_nil)
  have hheader : Gives env BuiltIn.header _ := gives_text "/**\n * " (gives_output htitle hversion)
  simpa only [String.append_assoc, String.append_empty] using hheader

/-- In a pass over an endpoint its parts go by their names. -/
theorem lookup?_enter {value part : Value} {key : String} {index count : Nat}
    (hpart : value.member? key = some part) :
    (env.enter ⟨("endpoint", value), none, index, count⟩).lookup? ⟨"endpoint", [key]⟩ =
      some part := by
  cases value with
  | object members =>
    have hlookup : members.lookup key = some part := hpart
    simp [Environment.lookup?, Environment.enter, Scope.lookup?, Scope.ofPass, Pass.lookup?,
      follow?, hlookup]
  | _ => cases hpart

/-- A pass over an endpoint gives its method. -/
theorem gives_method {endpoint : Endpoint} {index count : Nat} :
    Gives (env.enter ⟨("endpoint", endpoint.toValue), none, index, count⟩) BuiltIn.method
      (methodText endpoint.methodName endpoint.pathLiteral endpoint.verb
        endpoint.hasRequestBody) := by
  have hname : endpoint.toValue.member? "method_name" = some (.string endpoint.methodName) := by
    simp [Endpoint.toValue, Value.member?, Value.members?]
  have hflag : endpoint.toValue.member? "has_request_body" =
      some (.bool endpoint.hasRequestBody) := by
    simp [Endpoint.toValue, Value.member?, Value.members?, List.lookup_cons]
  have hpath : endpoint.toValue.member? "path_literal" = some (.string endpoint.pathLiteral) := by
    simp [Endpoint.toValue, Value.member?, Value.members?, List.lookup_cons]
  have hverb : endpoint.toValue.member? "method" = some (.string endpoint.verb.token) := by
    simp [Endpoint.toValue, Value.member?, Value.members?, List.lookup_cons]
  delta methodText
  simp only [String.append_assoc]
  refine gives_text _ (gives_output (lookup?_enter hname) ?_)
  refine gives_text _ (gives_flag _ (lookup?_enter hflag) ?_)
  refine gives_text _ (gives_output (lookup?_enter hpath) ?_)
  refine gives_text _ (gives_output (lookup?_enter hverb) ?_)
  refine gives_text _ (gives_flag _ (lookup?_enter hflag) ?_)
  exact gives_text_nil _

theorem lookup?_globals {values : List (String × Value)} {chance : Nat} {name : String} :
    (Environment.ofGlobals values chance).lookup? ⟨name, []⟩ = values.lookup name := by
  have hfollow : follow? [] = some := by
    funext value
    simp [follow?]
  simp [Environment.lookup?, Environment.ofGlobals, Scope.lookup?, Scope.outermost, hfollow]

/-- The method of an endpoint. -/
def methodOf (endpoint : Endpoint) : String :=
  methodText endpoint.methodName endpoint.pathLiteral endpoint.verb endpoint.hasRequestBody

/-- The built-in template gives a module with the methods of the endpoints. -/
theorem gives_module (description : Description) (className : String) (endpoints : List Endpoint)
    (chance : Nat) :
    Gives (.ofGlobals (globals description className endpoints) chance) BuiltIn.nodes
      (moduleText className
        (headerText (metadataLine description.title?) (metadataLine description.version?))
        (endpoints.map methodOf)) := by
  have hclass : (Environment.ofGlobals (globals description className endpoints) chance).lookup?
      ⟨"class_name", []⟩ = some (.string className) := by
    rw [lookup?_globals]
    simp [globals]
  have htitle : (Environment.ofGlobals (globals description className endpoints) chance).lookup?
      ⟨"title", []⟩ = some (metadata description.title?) := by
    rw [lookup?_globals]
    simp [globals, List.lookup_cons]
  have hversion : (Environment.ofGlobals (globals description className endpoints) chance).lookup?
      ⟨"version", []⟩ = some (metadata description.version?) := by
    rw [lookup?_globals]
    simp [globals, List.lookup_cons]
  have hendpoints : (Environment.ofGlobals (globals description className endpoints) chance).lookup?
      ⟨"endpoints", []⟩ = some (.array (endpoints.map Endpoint.toValue)) := by
    rw [lookup?_globals]
    simp [globals, List.lookup_cons]
  delta moduleText
  simp only [String.append_assoc]
  refine gives_header htitle hversion ?_
  -- The error class and the beginning of the client class are one text in the template.
  rw [← String.append_assoc]
  refine gives_text _ (gives_output hclass (gives_text _ ?_))
  refine gives_loop hendpoints (fun endpoint _ index count => gives_method) ?_
  exact gives_text _ (gives_output hclass (gives_text_nil _))

theorem render?_builtIn (description : Description) (className : String)
    (endpoints : List Endpoint) :
    BuiltIn.template.render? (globals description className endpoints) =
      some (moduleText className
        (headerText (metadataLine description.title?) (metadataLine description.version?))
        (endpoints.map methodOf)) := by
  have hgives : renderAll? _ _ = some _ := gives_module description className endpoints 0
  show (renderAll? _ BuiltIn.nodes).map _ = _
  rw [hgives, Option.map_some, String.ofList_toList]

/-! ## From the text of a description -/

theorem hasRequestBody_operation (entry : Listed) :
    entry.operation.hasRequestBody = entry.takesData := by
  obtain ⟨path, verb, members⟩ := entry
  show Operation.hasRequestBody (.ofMembers path verb members) = _
  unfold Operation.hasRequestBody Listed.takesData Operation.ofMembers
  cases (members.lookup "requestBody").bind (·.member? "content") with
  | none => rfl
  | some content =>
    cases content with
    | object entries => cases entries <;> rfl
    | _ => rfl

theorem operation?_eq_map (path : String) (entry : String × Value) :
    Description.Entry.operation? ⟨path, entry.1, entry.2⟩ =
      (listedMember? path entry).map Listed.operation := by
  obtain ⟨key, value⟩ := entry
  cases hverb : Verb.ofText? key <;> cases value <;>
    simp [Description.Entry.operation?, listedMember?, hverb, Listed.operation]

/-- The operations of a description are those that its paths list. -/
theorem value_gather_eq_map (paths : List (String × Value)) :
    (Description.gather Description.operationsUnder paths).value =
      (listed paths).map Listed.operation := by
  rw [Description.value_gather, Description.entries, List.filterMap_flatMap, listed,
    List.map_flatMap]
  refine List.flatMap_congr fun item _ => ?_
  obtain ⟨path, value⟩ := item
  cases value with
  | object entries =>
    show (entries.map fun entry => _).filterMap _ = (entries.filterMap _).map Listed.operation
    rw [List.filterMap_map, List.map_filterMap]
    exact List.filterMap_congr fun entry _ => operation?_eq_map path entry
  | _ => rfl

/-- The text of a member of the description's `info`. -/
def infoText (root : Value) (key : String) : Option String :=
  (root.member? "info").bind (·.memberText? key)

theorem map_methodOf_ofOperations (entries : List Listed) :
    (Endpoint.ofOperations (entries.map Listed.operation)).value.map methodOf =
      methodTexts entries := by
  rw [Endpoint.value_ofOperations, List.map_zipWith, List.zipWith_map_left, methodTexts]
  refine congrArg (List.zipWith · _ _) (funext fun entry => funext fun name => ?_)
  show methodText name _ entry.verb entry.operation.hasRequestBody = _
  rw [hasRequestBody_operation]
  rfl

theorem memberText?_info (root : Value) (key : String) :
    ((root.member? "info").getD .null).memberText? key = infoText root key := by
  unfold infoText
  cases root.member? "info" <;> rfl

/-- The client that is emitted for a description whose class name is an identifier. -/
theorem value_emit_builtIn (description : Description) {className : String}
    (hname : Text.isIdentifier className.toList = true) :
    (emit BuiltIn.template description className).value =
      .ok ⟨className, moduleText className
        (headerText (metadataLine description.title?) (metadataLine description.version?))
        ((Endpoint.ofOperations description.operations).value.map methodOf)⟩ := by
  simp [emit, hname, render?_builtIn]

/-- A description with an object of paths gives a client if the class name is an identifier. -/
theorem value_render_builtIn {content className : String} {root : Value}
    {paths : List (String × Value)} (hroot : Content.value content = .ok root)
    (hpaths : root.member? "paths" = some (.object paths))
    (hname : Text.isIdentifier className.toList = true) :
    (render BuiltIn.template content className).value =
      .ok ⟨className, moduleText className
        (headerText (metadataLine (infoText root "title")) (metadataLine (infoText root "version")))
        (methodTexts (listed paths))⟩ := by
  have hoperations := Description.operations?_eq_some_iff.mpr ⟨paths, hpaths, rfl⟩
  have hdescription : Content.description content = .ok (do
      return ⟨(root.member? "info").getD .null,
        ← Description.gather Description.operationsUnder paths, Description.schemasOf root⟩) := by
    simp [Content.description, hroot, Except.bind, Content.describe, Description.ofValue?,
      hoperations]
  rw [render, hdescription]
  show (emit BuiltIn.template ⟨_, (Description.gather Description.operationsUnder paths).value, _⟩
    className).value = _
  rw [value_gather_eq_map, value_emit_builtIn _ hname, map_methodOf_ofOperations]
  simp only [Description.title?, Description.version?, memberText?_info]

theorem isIdentifier_of_emit {template : Template} {description : Description} {className : String}
    {client : Client} (h : (emit template description className).value = .ok client) :
    Text.isIdentifier className.toList = true := by
  by_contra hname
  rw [Bool.not_eq_true] at hname
  simp [emit, hname] at h

/-- Nothing else gives a client, whatever the template. -/
theorem exists_of_render_ok {template : Template} {content className : String} {client : Client}
    (h : (render template content className).value = .ok client) :
    ∃ root paths, Content.value content = .ok root ∧
      root.member? "paths" = some (.object paths) ∧
      Text.isIdentifier className.toList = true := by
  have hname : Text.isIdentifier className.toList = true := by
    unfold render at h
    split at h
    · cases h
    · exact isIdentifier_of_emit h
  cases hroot : Content.value content with
  | error error => simp [render, Content.description, hroot, Except.bind] at h
  | ok root =>
    cases hoperations : Description.operations? root with
    | none =>
      simp [render, Content.description, hroot, Except.bind, Content.describe, Description.ofValue?,
        hoperations] at h
    | some found =>
      obtain ⟨paths, hpaths, -⟩ := Description.operations?_eq_some_iff.mp hoperations
      exact ⟨root, paths, rfl, hpaths, hname⟩

/-- **Emission**: the built-in template, read from its text, gives a client exactly for the texts
that are descriptions with an object of paths and the class names that are identifiers. The client
is the text of the module, with one method for every operation that the paths list. -/
theorem render_builtIn :
    Template.read? BuiltIn.source = some BuiltIn.template ∧
    ∀ (content className : String) (client : Client),
      (render BuiltIn.template content className).value = .ok client ↔
        ∃ root paths, Content.value content = .ok root ∧
          root.member? "paths" = some (.object paths) ∧
          Text.isIdentifier className.toList = true ∧
          client = ⟨className, moduleText className
            (headerText (metadataLine (infoText root "title"))
              (metadataLine (infoText root "version")))
            (methodTexts (listed paths))⟩ := by
  refine ⟨BuiltIn.read?_source, fun content className client => ⟨fun h => ?_, ?_⟩⟩
  · obtain ⟨root, paths, hroot, hpaths, hname⟩ := exists_of_render_ok h
    rw [value_render_builtIn hroot hpaths hname] at h
    exact ⟨root, paths, hroot, hpaths, hname, (Except.ok.inj h).symm⟩
  · rintro ⟨root, paths, hroot, hpaths, hname, rfl⟩
    exact value_render_builtIn hroot hpaths hname

end FetchClient.Client
