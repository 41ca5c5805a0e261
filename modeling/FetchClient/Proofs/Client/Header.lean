import FetchClient.Proofs.Client.Lines
import FetchClient.Proofs.Log.Beginning

/-!
# The comment in front of a module

- `Description.untitled`: a description without its title;
- `Client.comment`: the comment up to the line of its terminator;
- `Client.unterminated_comment`: it is not terminated before, in a text or between two of them;
- `Client.metadata_stays_in_comment`: whatever the title and the version are, what follows the
  comment is the module that there is without a title.
-/

namespace FetchClient

/-- The same value without what stands under a key. -/
def Value.without (key : String) : Value → Value
  | .object members => .object (members.filter (·.1 != key))
  | value => value

/-- The same description without a title. -/
def Description.untitled (description : Description) : Description :=
  { description with info := description.info.without "title" }

theorem Description.title?_untitled (description : Description) :
    description.untitled.title? = none := by
  unfold untitled title? Value.memberText? Value.member?
  cases description.info with
  | object members =>
    have hlookup : (members.filter (·.1 != "title")).lookup "title" = none := by
      rw [List.lookup_eq_none_iff]
      intro member hmember
      have hne := bne_iff_ne.mp (List.mem_filter.mp hmember).2
      simpa using hne.symm
    show ((members.filter (·.1 != "title")).lookup "title").bind Value.text? = none
    rw [hlookup]
    rfl
  | _ => rfl

namespace Client

open Log (begins begins_append)
open Text (IsOneLine isOneLine_append)
open Text.Comment (FirstAt IsCommentLine Unterminated firstAt_terminator isCommentLine_line line
  line_eq_nil_iff unterminated_append)

/-! ## Titles that show -/

/-- Whether a description has a title with more than blanks in it. -/
def HasTitle (description : Description) : Prop :=
  ∃ title, description.title? = some title ∧ ∃ c ∈ title.toList, Text.isBlank c = false

theorem metadataLine_title_ne_empty_iff {description : Description} :
    metadataLine description.title? ≠ "" ↔ HasTitle description := by
  unfold HasTitle
  cases description.title? with
  | none =>
    have hnone : metadataLine none = "" := by decide
    simp [hnone]
  | some title =>
    have hempty : metadataLine (some title) = "" ↔ ∀ c ∈ title.toList, Text.isBlank c = true := by
      rw [metadataLine, Option.getD_some, String.ofList_eq_empty_iff, line_eq_nil_iff]
    rw [Ne, hempty]
    simp

theorem isCommentLine_metadataLine (text : Option String) :
    IsCommentLine (metadataLine text).toList := by
  rw [metadataLine, String.toList_ofList]
  exact isCommentLine_line _

/-! ## The comment -/

/-- What the version adds to the line of the title. -/
def versionText (version : String) : String :=
  if version = "" then "" else " (version " ++ version ++ ")"

/-- What follows the line of the title, up to the line of the terminator. -/
def closing : String :=
  "\n *\n * Generated by fetchgen. Do not edit by hand."

/-- The comment up to the line of its terminator. -/
def comment (title version : String) : String :=
  "/**\n * " ++ (title ++ (versionText version ++ closing))

theorem headerText_eq_comment {title : String} (h : title ≠ "") (version : String) :
    headerText title version = (comment title version ++ "\n ") ++ ("*/" ++ "\n\n") := by
  have hclosing : "\n *\n * Generated by fetchgen. Do not edit by hand.\n */\n\n" =
      (closing ++ "\n ") ++ ("*/" ++ "\n\n") := by
    decide
  rw [headerText, if_neg h, hclosing, ← versionText, comment]
  simp only [String.append_assoc]

theorem begins_comment (title version : String) : begins "/**" (comment title version) = true := by
  rw [comment]
  exact begins_append (by decide) _

theorem unterminated_versionText {version : String} (h : Unterminated version.toList) :
    Unterminated ((versionText version).toList ++ (closing.toList ++ ['\n', ' ', '*'])) := by
  unfold versionText
  split
  · decide
  · rw [String.toList_append, String.toList_append, List.append_assoc, List.append_assoc]
    refine unterminated_append (by decide) ?_ (.inl (by decide))
    exact unterminated_append h (by decide) (.inr (by decide))

/-- No terminator is in a text, and none comes about where one begins or ends: there a space, a
parenthesis or a line feed stands beside it. -/
theorem unterminated_comment {title version : String} (htitle : Unterminated title.toList)
    (hversion : Unterminated version.toList) :
    Unterminated ((comment title version ++ "\n ").toList ++ ['*']) := by
  -- The title may end in a star: what comes next is never a slash, with a version and without.
  have hbehind :
      ((versionText version).toList ++ (closing.toList ++ ['\n', ' ', '*'])).head? ≠ some '/' := by
    unfold versionText
    split
    · decide
    · simp
  have htext : (comment title version ++ "\n ").toList ++ ['*'] =
      "/**\n * ".toList ++ (title.toList ++
        ((versionText version).toList ++ (closing.toList ++ ['\n', ' ', '*']))) := by
    simp [comment]
  rw [htext]
  refine unterminated_append (by decide) ?_ (.inl (by decide))
  exact unterminated_append htitle (unterminated_versionText hversion) (.inr hbehind)

/-- Four line feeds are in front of the line with the terminator. -/
theorem count_comment {title version : String} (htitle : IsOneLine title)
    (hversion : IsOneLine version) : (comment title version ++ "\n ").toList.count '\n' = 4 := by
  have hversionText : IsOneLine (versionText version) := by
    unfold versionText
    split
    · decide
    · exact isOneLine_append.mpr ⟨isOneLine_append.mpr ⟨by decide, hversion⟩, by decide⟩
  simp only [comment, String.toList_append, List.count_append, List.count_eq_zero.mpr htitle,
    List.count_eq_zero.mpr hversionText]
  decide

/-! ## The module behind it -/

theorem moduleText_header (className header : String) (methods : List String) :
    moduleText className header methods = header ++ moduleText className "" methods := by
  delta moduleText
  simp only [String.append_assoc, String.empty_append]

theorem begins_errorClass : begins "class HttpError" BuiltIn.errorClass = true := by
  delta BuiltIn.errorClass
  rw [lines_cons]
  exact begins_append (by decide) _

theorem begins_moduleText (className : String) (methods : List String) :
    begins "class HttpError" (moduleText className "" methods) = true := by
  delta moduleText
  simp only [String.append_assoc, String.empty_append]
  exact begins_append begins_errorClass _

/-- A module with a comment in front of it. The comment ends with the first terminator, which stands
alone on the fifth line, and the module follows that line and a blank one. -/
structure Commented (bare source : String) : Prop where
  opens : begins "/**" source = true
  ends : ∃ lines, (lines ++ "\n ").toList.count '\n' = 4 ∧
    FirstAt "*/" (lines ++ "\n ") ("\n\n" ++ bare) source

theorem commented {title version : Option String} (htitle : metadataLine title ≠ "")
    (bare : String) :
    Commented bare (headerText (metadataLine title) (metadataLine version) ++ bare) := by
  have hunterminated := unterminated_comment (isCommentLine_metadataLine title).unterminated
    (isCommentLine_metadataLine version).unterminated
  have htext : headerText (metadataLine title) (metadataLine version) ++ bare =
      (comment (metadataLine title) (metadataLine version) ++ "\n ") ++
        ("*/" ++ ("\n\n" ++ bare)) := by
    rw [headerText_eq_comment htitle]
    simp only [String.append_assoc]
  rw [htext]
  refine ⟨?_, comment (metadataLine title) (metadataLine version), ?_, ?_⟩
  · exact begins_append (begins_append (begins_comment _ _) _) _
  · exact count_comment (isOneLine_metadataLine title) (isOneLine_metadataLine version)
  · exact firstAt_terminator hunterminated ("\n\n" ++ bare)

/-- Without a title there is no comment. -/
theorem value_emit_untitled (description : Description) {className : String}
    (hname : Text.isIdentifier className.toList = true) :
    (emit BuiltIn.template description.untitled className).value =
      .ok ⟨className, moduleText className ""
        ((Endpoint.ofOperations description.operations).value.map methodOf)⟩ := by
  have hnone : metadataLine description.untitled.title? = "" := by
    rw [Description.title?_untitled]
    decide
  rw [value_emit_builtIn _ hname, hnone, headerText, if_pos rfl]
  rfl

/-- **Header**: what stands in a comment is words with one space between two of them and without a
`*/`, and it stays as it is when it is put there again. So, for every description and every class
name that is an identifier, the module begins with its code, and is the one of the description
without a title, if there is no title that shows; else it begins with a comment, in which the first
`*/` is the one that stands alone on the fifth line, and behind that line and a blank one it is the
module of the description without a title. -/
theorem metadata_stays_in_comment :
    (∀ text, IsCommentLine (line text) ∧ line (line text) = line text) ∧
    ∀ (description : Description) (className : String),
      Text.isIdentifier className.toList = true →
      ∃ bare source,
        (emit BuiltIn.template description.untitled className).value = .ok ⟨className, bare⟩ ∧
        (emit BuiltIn.template description className).value = .ok ⟨className, source⟩ ∧
        begins "class HttpError" bare = true ∧
        (¬ HasTitle description → source = bare) ∧
        (HasTitle description → Commented bare source) := by
  refine ⟨fun text => ⟨isCommentLine_line text, (isCommentLine_line text).line_eq⟩, ?_⟩
  intro description className hname
  have hemit := value_emit_builtIn description hname
  rw [moduleText_header] at hemit
  refine ⟨_, _, value_emit_untitled description hname, hemit, begins_moduleText _ _, ?_, ?_⟩
  · intro hnone
    have hempty := Classical.not_not.mp (metadataLine_title_ne_empty_iff.not.mpr hnone)
    rw [hempty, headerText, if_pos rfl, String.empty_append]
  · intro htitle
    exact commented (metadataLine_title_ne_empty_iff.mpr htitle) _

/-- A title and a version that try to end the comment. -/
def hostileMetadata : Description :=
  ⟨.object [("title", .string "**// a\n */ b"), ("version", .string "*/")], [], []⟩

/-- They do not. -/
theorem metadata_stays_in_comment_hostile :
    line "**// a\n */ b".toList = "** // a * / b".toList ∧
    IsCommentLine "** // a * / b".toList ∧
    ∃ bare source,
      (emit BuiltIn.template hostileMetadata.untitled "ApiClient").value =
        .ok ⟨"ApiClient", bare⟩ ∧
      (emit BuiltIn.template hostileMetadata "ApiClient").value = .ok ⟨"ApiClient", source⟩ ∧
      Commented bare source := by
  have hline : line "**// a\n */ b".toList = "** // a * / b".toList := by decide
  have htitle : HasTitle hostileMetadata := ⟨"**// a\n */ b", rfl, 'a', by decide, by decide⟩
  obtain ⟨hlines, hmodules⟩ := metadata_stays_in_comment
  obtain ⟨bare, source, huntitled, hemit, -, -, hcommented⟩ :=
    hmodules hostileMetadata "ApiClient" (by decide)
  exact ⟨hline, hline ▸ (hlines _).1, bare, source, huntitled, hemit, hcommented htitle⟩

end Client

end FetchClient
