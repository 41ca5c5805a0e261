import FetchClient.Proofs.Endpoint.Naming
import FetchClient.Proofs.MethodName.Identifier

/-!
# The characters of method names

A name need not be an identifier, as a change of case may put a mark into it. But no mark is an
ASCII character, so there are no brackets, blanks or line breaks in a name.

- `Text.isNameChar`: characters of identifiers, and all that are not ASCII;
- `Text.all_isNameChar_sanitize`: sanitizing leaves no others;
- `Endpoint.all_isNameChar_methodNames`: so the names of methods consist of them.
-/

namespace FetchClient.Text

/-- Whether a character is one of an identifier, or none of ASCII. -/
def isNameChar (c : Char) : Bool :=
  isIdentifierPart c || decide (128 ≤ c.toNat)

theorem isNameChar_of_part {c : Char} (h : isIdentifierPart c = true) : isNameChar c = true := by
  rw [isNameChar, h, Bool.true_or]

/-! ## Letter case -/

/-- Whether all characters that stand for others in a table are characters of names. -/
def staysInNames (expansions : List (Nat × List Nat)) : Bool :=
  expansions.all fun expansion => (expansion.2.map Char.ofNat).all isNameChar

/-- Most characters are none of ASCII, so that is asked first. -/
theorem isNameChar_eq : isNameChar = fun c => decide (128 ≤ c.toNat) || isIdentifierPart c :=
  funext fun _ => Bool.or_comm _ _

theorem staysInNames_upperExpansions : staysInNames upperExpansions = true := by
  rw [staysInNames, isNameChar_eq]
  decide +kernel

theorem staysInNames_lowerExpansions : staysInNames lowerExpansions = true := by
  rw [staysInNames, isNameChar_eq]
  decide

/-- A change of case makes characters of names of such characters. -/
theorem all_isNameChar_mapCase {expansions : List (Nat × List Nat)} {runs : List CaseRun}
    {c : Char} (hexpansions : staysInNames expansions = true)
    (hruns : ∀ run ∈ runs, run.staysAlphabetic = true) (hc : isNameChar c = true) :
    (mapCase expansions runs c).all isNameChar = true := by
  cases hlookup : expansions.lookup c.toNat with
  | some points =>
    rw [mapCase, hlookup]
    exact List.all_eq_true.mp hexpansions _ (mem_of_lookup hlookup)
  | none =>
    obtain ⟨d, hmapped, hd⟩ := mapCase_of_lookup_eq_none hruns hlookup
    rw [hmapped, List.all_cons, List.all_nil, Bool.and_true]
    rcases hd with hd | rfl
    · exact isNameChar_of_part (isIdentifierPart_of_start (isIdentifierStart_of_isAlphabetic hd))
    · exact hc

theorem all_isNameChar_upper {c : Char} (hc : isNameChar c = true) :
    (upper c).all isNameChar = true :=
  all_isNameChar_mapCase staysInNames_upperExpansions staysAlphabetic_upperRuns hc

theorem all_isNameChar_lowerFirst {text : List Char} (h : text.all isNameChar = true) :
    (lowerFirst text).all isNameChar = true := by
  cases text with
  | nil => rfl
  | cons c rest =>
    rw [List.all_cons, Bool.and_eq_true] at h
    have hlower : (lower c).all isNameChar = true :=
      all_isNameChar_mapCase staysInNames_lowerExpansions staysAlphabetic_lowerRuns h.1
    rw [lowerFirst, List.all_append, hlower, h.2, Bool.and_self]

/-! ## Sanitizing -/

theorem all_isNameChar_keepParts (started pending : Bool) (text : List Char) :
    (keepParts started pending text).all isNameChar = true := by
  induction text generalizing started pending with
  | nil => rfl
  | cons c rest ih =>
    rw [keepParts]
    by_cases hc : isIdentifierPart c = true
    · have hname := isNameChar_of_part hc
      rw [if_pos hc, List.all_append, ih, Bool.and_true]
      split
      · exact all_isNameChar_upper hname
      · rw [List.all_cons, hname, List.all_nil, Bool.and_true]
    · rw [if_neg hc]
      exact ih started true

/-- Whatever is left of a text consists of characters of names. -/
theorem all_isNameChar_sanitize (text : List Char) : (sanitize text).all isNameChar = true := by
  have hkept := all_isNameChar_keepParts false false text
  unfold sanitize guardDigit
  cases hparts : keepParts false false text with
  | nil => rfl
  | cons c rest =>
    rw [hparts] at hkept
    simp only
    split
    · rw [List.all_cons, hkept, Bool.and_true]
      decide +kernel
    · exact hkept

end FetchClient.Text

namespace FetchClient.MethodName

open Text (isNameChar isNameChar_of_part)

theorem all_isNameChar_word (verb : Verb) : verb.word.toList.all isNameChar = true := by
  cases verb <;> decide

/-- The name that an operation asks for consists of characters of names. -/
theorem all_isNameChar_resolve (verb : Verb) (path : String) (operationId : Option String) :
    (resolve verb path operationId).toList.all isNameChar = true := by
  by_cases hruns : Text.identifierRuns (base verb path operationId) = []
  · rw [resolve_of_runs_eq_nil hruns]
    exact all_isNameChar_word verb
  · rw [toList_resolve hruns]
    exact Text.all_isNameChar_lowerFirst (Text.all_isNameChar_sanitize _)

/-- So does a numbered variant of it. -/
theorem all_isNameChar_of_isVariant {name given : String} (hname : name.toList.all isNameChar = true)
    (h : Registry.IsVariant name given) : given.toList.all isNameChar = true := by
  rcases h with rfl | ⟨number, rfl⟩
  · exact hname
  · have hdigits : (toString number).toList.all isNameChar = true := by
      rw [List.all_eq_true]
      intro c hc
      exact isNameChar_of_part (List.all_eq_true.mp (all_isIdentifierPart_digits number) c hc)
    rw [Registry.numbered, String.toList_append, List.all_append, hname, hdigits, Bool.and_self]

end FetchClient.MethodName

namespace FetchClient.Endpoint

/-- The names of methods consist of characters of names. -/
theorem all_isNameChar_methodNames {ops : List Operation} {name : String}
    (h : name ∈ methodNames ops) : name.toList.all Text.isNameChar = true := by
  obtain ⟨i, hi, hname⟩ := List.getElem_of_mem h
  have hop : i < ops.length := by
    rw [← length_methodNames ops]
    exact hi
  obtain ⟨hvariant, -⟩ := getElem?_methodNames (List.getElem?_eq_getElem hop)
    (List.getElem?_eq_some_iff.mpr ⟨hi, hname⟩)
  exact MethodName.all_isNameChar_of_isVariant (MethodName.all_isNameChar_resolve _ _ _) hvariant

end FetchClient.Endpoint
