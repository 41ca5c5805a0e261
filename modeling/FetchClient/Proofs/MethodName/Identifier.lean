import FetchClient.Proofs.MethodName.Registry
import FetchClient.Proofs.Text.Sanitize

/-!
# Method names as identifiers

- `isIdentifier_resolve`: when the name that an operation asks for is an identifier;
- `isIdentifier_of_isVariant`: a number at the end changes nothing about that.
-/

namespace FetchClient.MethodName

open Text (isIdentifier fitsIdentifier identifierRuns)

theorem isIdentifier_word (verb : Verb) : isIdentifier verb.word.toList = true := by
  cases verb <;> decide

theorem resolve_of_runs_eq_nil {verb : Verb} {path : String} {operationId : Option String}
    (h : identifierRuns (base verb path operationId) = []) :
    resolve verb path operationId = verb.word := by
  rw [resolve, Text.lowerFirst_sanitize_eq_nil_iff.mpr h]
  rfl

theorem toList_resolve {verb : Verb} {path : String} {operationId : Option String}
    (h : identifierRuns (base verb path operationId) ≠ []) :
    (resolve verb path operationId).toList =
      Text.lowerFirst (Text.sanitize (base verb path operationId)) := by
  have hname : Text.lowerFirst (Text.sanitize (base verb path operationId)) ≠ [] :=
    fun hempty => h (Text.lowerFirst_sanitize_eq_nil_iff.mp hempty)
  have hfull : ¬ (Text.lowerFirst (Text.sanitize (base verb path operationId))).isEmpty = true := by
    rw [List.isEmpty_iff]
    exact hname
  rw [resolve, if_neg hfull, String.toList_ofList]

/-- No operation asks for an empty name. -/
theorem toList_resolve_ne_nil (verb : Verb) (path : String) (operationId : Option String) :
    (resolve verb path operationId).toList ≠ [] := by
  by_cases hruns : identifierRuns (base verb path operationId) = []
  · rw [resolve_of_runs_eq_nil hruns]
    cases verb <;> decide
  · rw [toList_resolve hruns]
    exact fun hempty => hruns (Text.lowerFirst_sanitize_eq_nil_iff.mp hempty)

/-- The name that an operation asks for is an identifier exactly when no letter of what it is made
from gets a mark on the way. -/
theorem isIdentifier_resolve (verb : Verb) (path : String) (operationId : Option String) :
    isIdentifier (resolve verb path operationId).toList =
      fitsIdentifier (base verb path operationId) := by
  by_cases hruns : identifierRuns (base verb path operationId) = []
  · rw [resolve_of_runs_eq_nil hruns, isIdentifier_word, fitsIdentifier, hruns]
  · rw [toList_resolve hruns, Text.isIdentifier_lowerFirst_sanitize hruns]

/-! ## Numbered names -/

theorem all_isIdentifierPart_digits (number : Nat) :
    (toString number).toList.all Text.isIdentifierPart = true := by
  rw [Nat.toString_eq_repr, Nat.toList_repr, List.all_eq_true]
  intro c hc
  have hdigit := Nat.isDigit_of_mem_toDigits (by decide) (by decide) hc
  rw [Text.isIdentifierPart, hdigit, Bool.or_true]

/-- Digits at the end of a name change nothing about its being an identifier. -/
theorem isIdentifier_of_isVariant {name given : String} (hname : name.toList ≠ [])
    (h : Registry.IsVariant name given) :
    isIdentifier given.toList = isIdentifier name.toList := by
  rcases h with rfl | ⟨number, rfl⟩
  · rfl
  · rw [Registry.numbered, String.toList_append, Text.isIdentifier_append hname,
      all_isIdentifierPart_digits, Bool.and_true]

end FetchClient.MethodName
