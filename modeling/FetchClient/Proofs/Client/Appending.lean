import FetchClient.Proofs.Client.Emission
import FetchClient.Proofs.Endpoint.Appending
import Mathlib

/-!
# Paths behind others

- `Client.AddsPaths`: a description with path entries added behind the last one;
- `Client.opening`, `Client.footer`: a module up to the end of its last method, and what follows;
- `Client.added_paths_add_methods`: path entries that are added behind the last one add methods
  behind the last one, and change nothing that was there before.
-/

namespace FetchClient.Client

/-- Whether one description is another one with path entries added behind the last one. Whatever
else stands in it may differ, apart from the title and the version. (In a text, a path that is there
already is not added a second time: what stands there first is replaced by it.) -/
structure AddsPaths (root extended : Value) (paths more : List (String × Value)) : Prop where
  before : root.member? "paths" = some (.object paths)
  after : extended.member? "paths" = some (.object (paths ++ more))
  title : infoText extended "title" = infoText root "title"
  version : infoText extended "version" = infoText root "version"

/-! ## Parts of a module -/

/-- A module up to the end of its last method. -/
def opening (className header : String) (methods : List String) : String :=
  header ++ BuiltIn.errorClass ++ "class " ++ className ++ BuiltIn.classHead ++ String.join methods

/-- What closes the class, and the exports. -/
def footer (className : String) : String :=
  "\n\x7d\n\nexport { HttpError };\nexport default " ++ className ++ ";\n"

theorem moduleText_eq (className header : String) (methods : List String) :
    moduleText className header methods = opening className header methods ++ footer className := by
  delta moduleText opening footer
  simp only [String.append_assoc]

theorem opening_append (className header : String) (methods more : List String) :
    opening className header (methods ++ more) =
      opening className header methods ++ String.join more := by
  delta opening
  rw [String.join_append, ← String.append_assoc]

/-! ## Methods behind others -/

theorem listed_append (paths more : List (String × Value)) :
    listed (paths ++ more) = listed paths ++ listed more :=
  List.flatMap_append

/-- The names of the operations that entries behind others list. -/
def addedNames (paths more : List (String × Value)) : List String :=
  (Endpoint.methodNames ((listed (paths ++ more)).map Listed.operation)).drop (listed paths).length

/-- The methods that are there already stay as they are. -/
theorem methodTexts_append (paths more : List (String × Value)) :
    methodTexts (listed (paths ++ more)) =
      methodTexts (listed paths) ++
        List.zipWith Listed.methodText (listed more) (addedNames paths more) := by
  -- As many names as entries: both lists come apart at the same place.
  have hlength : (listed paths).length =
      (Endpoint.methodNames ((listed paths).map Listed.operation)).length := by
    rw [Endpoint.length_methodNames, List.length_map]
  rw [addedNames, methodTexts, listed_append, List.map_append, Endpoint.methodNames_append,
    List.zipWith_append hlength, List.drop_left' hlength.symm, ← methodTexts]

/-- **Appending**: operations behind others change nothing about the endpoints and the warnings that
the others have. So, for every description and whatever path entries are added behind the last one,
the module has the same text as before, with one more method for every operation that was added, all
of them in front of what closes the class. -/
theorem added_paths_add_methods :
    (∀ ops more : List Operation,
      (Endpoint.ofOperations (ops ++ more)).value.take ops.length =
        (Endpoint.ofOperations ops).value ∧
      (Endpoint.ofOperations ops).lines <+: (Endpoint.ofOperations (ops ++ more)).lines) ∧
    ∀ (content extended className : String) (root extendedRoot : Value)
      (paths more : List (String × Value)),
      Content.value content = .ok root → Content.value extended = .ok extendedRoot →
      AddsPaths root extendedRoot paths more → Text.isIdentifier className.toList = true →
      ∃ before : String,
        (render BuiltIn.template content className).value =
          .ok ⟨className, before ++ footer className⟩ ∧
        (render BuiltIn.template extended className).value =
          .ok ⟨className, before ++
            String.join (List.zipWith Listed.methodText (listed more) (addedNames paths more)) ++
              footer className⟩ := by
  refine ⟨fun ops more => ?_, ?_⟩
  · rw [Endpoint.ofOperations_append]
    refine ⟨?_, List.prefix_append _ _⟩
    rw [← Endpoint.length_ofOperations ops, List.take_left]
  · intro content extended className root extendedRoot paths more hroot hextended hadds hname
    let header := headerText (metadataLine (infoText root "title"))
      (metadataLine (infoText root "version"))
    refine ⟨opening className header (methodTexts (listed paths)), ?_, ?_⟩
    · rw [value_render_builtIn hroot hadds.before hname, moduleText_eq]
    · rw [value_render_builtIn hextended hadds.after hname, hadds.title, hadds.version,
        methodTexts_append, moduleText_eq, opening_append]

/-! ## An added path that collides -/

def usersText : String :=
  r#"{"paths": {"/users": {"get": {}}}}"#

/-- The same with another path, whose operation asks for the name that the first one has. -/
def usersAndUserText : String :=
  r#"{"paths": {"/users": {"get": {}}, "/users/{id}": {"GET": {}}}}"#

def usersPaths : List (String × Value) :=
  [("/users", .object [("get", .object [])])]

def userPaths : List (String × Value) :=
  [("/users/{id}", .object [("GET", .object [])])]

theorem value_usersText :
    Content.value usersText = .ok (.object [("paths", .object usersPaths)]) := by
  cbv

theorem value_usersAndUserText :
    Content.value usersAndUserText =
      .ok (.object [("paths", .object (usersPaths ++ userPaths))]) := by
  cbv

/-- The operation that was added gets a numbered name, and the one that was there keeps its own. -/
theorem added_paths_add_methods_colliding :
    AddsPaths (.object [("paths", .object usersPaths)])
      (.object [("paths", .object (usersPaths ++ userPaths))]) usersPaths userPaths ∧
    ∃ before,
      (render BuiltIn.template usersText "ApiClient").value =
        .ok ⟨"ApiClient", before ++ footer "ApiClient"⟩ ∧
      (render BuiltIn.template usersAndUserText "ApiClient").value =
        .ok ⟨"ApiClient", before ++
          String.join [methodText "getUsers2" "/users/{id}" .get false] ++
            footer "ApiClient"⟩ := by
  have hadds : AddsPaths (.object [("paths", .object usersPaths)])
      (.object [("paths", .object (usersPaths ++ userPaths))]) usersPaths userPaths :=
    ⟨rfl, rfl, rfl, rfl⟩
  have hlisted : listed userPaths = [⟨"/users/{id}", .get, []⟩] := rfl
  have hnames : addedNames usersPaths userPaths = ["getUsers2"] := by decide
  obtain ⟨before, hbefore, hafter⟩ := added_paths_add_methods.2 usersText usersAndUserText
    "ApiClient" _ _ _ _ value_usersText value_usersAndUserText hadds (by decide)
  rw [hlisted, hnames] at hafter
  exact ⟨hadds, before, hbefore, hafter⟩

end FetchClient.Client
