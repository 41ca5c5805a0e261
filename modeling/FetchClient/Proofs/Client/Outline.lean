import FetchClient.Proofs.Client.Emission

/-!
# What a module depends on

- `Client.Outline`: the title and the version of a description, and of its operations the path, the
  verb, the identifier and whether they take data;
- `Client.Outline.moduleText`: the text of a module, made of nothing else;
- `Client.outline_determines_module`: descriptions with the same outline give the same module.
-/

namespace FetchClient.Client

/-! ## Outlines -/

/-- What of an operation a module depends on. An empty identifier counts as none. -/
structure OperationOutline where
  path : String
  verb : Verb
  operationId : Option String
  takesData : Bool
  deriving DecidableEq

/-- What of a description a module depends on. -/
structure Outline where
  title : Option String
  version : Option String
  operations : List OperationOutline
  deriving DecidableEq

namespace Listed

/-- The text that identifies an operation, unless it is empty. -/
def operationId? (entry : Listed) : Option String :=
  ((entry.members.lookup "operationId").bind Value.text?).filter (· != "")

def outline (entry : Listed) : OperationOutline :=
  ⟨entry.path, entry.verb, entry.operationId?, entry.takesData⟩

end Listed

/-- The outline of a document tree. There is none when it has no object of paths. -/
def Outline.of? (root : Value) : Option Outline :=
  match root.member? "paths" with
  | some (.object paths) =>
    some ⟨infoText root "title", infoText root "version", (listed paths).map Listed.outline⟩
  | _ => none

/-- The outline of a text. -/
def Outline.ofText? (content : String) : Option Outline :=
  match Content.value content with
  | .ok root => Outline.of? root
  | .error _ => none

/-- A text has an outline exactly if it is a description with an object of paths. -/
theorem Outline.ofText?_eq_some_iff {content : String} {outline : Outline} :
    Outline.ofText? content = some outline ↔
      ∃ root paths, Content.value content = .ok root ∧
        root.member? "paths" = some (.object paths) ∧
        outline =
          ⟨infoText root "title", infoText root "version", (listed paths).map Listed.outline⟩ := by
  constructor
  · intro h
    unfold Outline.ofText? at h
    split at h
    · next root hroot =>
      unfold Outline.of? at h
      split at h
      · next paths hpaths => exact ⟨root, paths, hroot, hpaths, (Option.some.inj h).symm⟩
      · cases h
    · cases h
  · rintro ⟨root, paths, hroot, hpaths, rfl⟩
    simp only [Outline.ofText?, hroot, Outline.of?, hpaths]

/-! ## The module of an outline -/

namespace OperationOutline

/-- The name that an operation asks for. -/
def askedName (operation : OperationOutline) : String :=
  MethodName.resolve operation.verb operation.path operation.operationId

/-- The method of an operation that was given a name. -/
def methodText (operation : OperationOutline) (name : String) : String :=
  Client.methodText name (String.ofList (Text.Quoted.encode operation.path.toList)) operation.verb
    operation.takesData

/-- The methods of operations that claim their names in order. -/
def methodTexts (operations : List OperationOutline) : List String :=
  List.zipWith methodText operations
    ((MethodName.Registry.ofList MethodName.reserved).claimAll (operations.map askedName)).value

end OperationOutline

def Outline.moduleText (outline : Outline) (className : String) : String :=
  Client.moduleText className
    (headerText (metadataLine outline.title) (metadataLine outline.version))
    (OperationOutline.methodTexts outline.operations)

/-- An empty identifier names an operation no differently than none at all. -/
theorem resolve_filter (verb : Verb) (path : String) (operationId : Option String) :
    MethodName.resolve verb path (operationId.filter (· != "")) =
      MethodName.resolve verb path operationId := by
  cases operationId with
  | none => rfl
  | some id =>
    by_cases hid : id = ""
    · subst hid
      rfl
    · rw [Option.filter_some, if_pos (by simpa using hid)]

theorem askedName_outline (entry : Listed) :
    entry.outline.askedName = MethodName.ofOperation entry.operation :=
  resolve_filter _ _ _

/-- What operations ask for, and what their methods show, is in their outlines. -/
theorem methodTexts_outline (entries : List Listed) :
    OperationOutline.methodTexts (entries.map Listed.outline) = methodTexts entries := by
  -- A name depends on all that was claimed before, but that is in the outlines too.
  have hasked : (entries.map Listed.outline).map OperationOutline.askedName =
      (entries.map Listed.operation).map MethodName.ofOperation := by
    rw [List.map_map, List.map_map]
    exact List.map_congr_left fun entry _ => askedName_outline entry
  rw [OperationOutline.methodTexts, hasked, List.zipWith_map_left]
  rfl

/-- The client of a text is made of the outline. -/
theorem value_render_of_outline {content className : String} {outline : Outline}
    (h : Outline.ofText? content = some outline)
    (hname : Text.isIdentifier className.toList = true) :
    (render BuiltIn.template content className).value =
      .ok ⟨className, outline.moduleText className⟩ := by
  obtain ⟨root, paths, hroot, hpaths, rfl⟩ := Outline.ofText?_eq_some_iff.mp h
  rw [value_render_builtIn hroot hpaths hname, Outline.moduleText, methodTexts_outline]

/-- **Dependence**: two descriptions with the same title, the same version and the same sequence of
operations, as far as their paths, verbs, identifiers and having a body go, give one and the same
module. Nothing else in them matters, and neither does whether they are written in JSON or in
YAML. -/
theorem outline_determines_module {content other className : String} {outline : Outline}
    (h : Outline.ofText? content = some outline) (hother : Outline.ofText? other = some outline)
    (hname : Text.isIdentifier className.toList = true) :
    ∃ client, (render BuiltIn.template content className).value = .ok client ∧
      (render BuiltIn.template other className).value = .ok client :=
  ⟨⟨className, outline.moduleText className⟩, value_render_of_outline h hname,
    value_render_of_outline hother hname⟩

/-! ## Two descriptions with one outline -/

def plainPets : String :=
  r#"{"paths": {"/pets": {"get": {"requestBody": {"content": {"a": 0}}},"put": {}}}}"#

/-- The same in YAML, with a member that has no meaning, a path that is no object, an entry that is no
operation, keys in other letter cases, tags, another kind of content, and an empty identifier. -/
def ornatePets : String :=
  "v: 1\npaths:\n /z:\n /pets:\n  post: []\n" ++
    "  GET: {tags: [t], requestBody: {content: {b: 1}}}\n  Put: \x7boperationId: ''\x7d\n"

def petsOutline : Outline :=
  ⟨none, none, [⟨"/pets", .get, none, true⟩, ⟨"/pets", .put, none, false⟩]⟩

/-- None of that shows in the module. -/
theorem outline_determines_module_ornate :
    Outline.ofText? plainPets = some petsOutline ∧ Outline.ofText? ornatePets = some petsOutline ∧
    ∃ client, (render BuiltIn.template plainPets "ApiClient").value = .ok client ∧
      (render BuiltIn.template ornatePets "ApiClient").value = .ok client := by
  have hplain : Outline.ofText? plainPets = some petsOutline := by decide +kernel
  have hornate : Outline.ofText? ornatePets = some petsOutline := by decide +kernel
  exact ⟨hplain, hornate, outline_determines_module hplain hornate (by decide)⟩

end FetchClient.Client
