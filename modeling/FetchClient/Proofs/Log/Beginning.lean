import Mathlib.Data.List.Basic

/-!
# How a line begins

- `Log.begins`: whether a text begins with another one;
- `Log.begins_eq_false`: a text that begins with one text does not begin with a differing one.
-/

namespace FetchClient.Log

/-- Whether a text begins with another one. -/
def begins (mark text : String) : Bool :=
  mark.toList.isPrefixOf text.toList

/-- Whether neither of two texts begins with the other one. -/
def differ (mark other : String) : Bool :=
  !begins mark other && !begins other mark

variable {mark other text first : String}

theorem begins_iff : begins mark text = true ↔ mark.toList <+: text.toList :=
  List.isPrefixOf_iff_prefix

theorem begins_append (h : begins mark first = true) (rest : String) :
    begins mark (first ++ rest) = true := by
  rw [begins_iff] at h ⊢
  rw [String.toList_append]
  exact h.trans (List.prefix_append _ _)

/-- A text that begins with one text does not begin with a text that differs from it. -/
theorem begins_eq_false (h : begins mark text = true) (hdiffer : differ mark other = true) :
    begins other text = false := by
  rw [differ, Bool.and_eq_true, Bool.not_eq_true', Bool.not_eq_true'] at hdiffer
  by_contra hother
  rw [Bool.not_eq_false] at hother
  rcases List.prefix_or_prefix_of_prefix (begins_iff.mp h) (begins_iff.mp hother) with
    hprefix | hprefix
  · rw [begins_iff.mpr hprefix] at hdiffer
    cases hdiffer.1
  · rw [begins_iff.mpr hprefix] at hdiffer
    cases hdiffer.2

end FetchClient.Log
