import FetchClient.Api.MethodName
import Mathlib.Data.Finset.Card
import Mathlib.Order.Interval.Finset.Nat

/-!
# Names handed out by a registry

- `Registry.le_card_of_taken`, `Registry.exists_free`: as long as a name is in use, one of its first
  numbered variants is free;
- `Registry.firstFree_spec`: the variant that is chosen is the first free one;
- `Registry.Claimed`: what one claim hands out;
- `Registry.nodup_claimAll`, `Registry.not_mem_taken_of_mem_claimAll`,
  `Registry.getElem?_claimAll`: the answers to a whole list of claims;
- `Registry.after`, `Registry.claimAll_append`: claims that follow others.

The invariant behind all of this is that a registry holds every name that it has ever handed out, so
whatever is free in it differs from all of them, numbered or not.
-/

namespace FetchClient.MethodName.Registry

variable {registry : Registry} {name : String}

/-! ## Numbered variants -/

theorem numbered_inj {i j : Nat} : numbered name i = numbered name j ↔ i = j := by
  constructor
  · intro h
    have hdigits : Nat.toDigits 10 i = Nat.toDigits 10 j := by
      have := congrArg String.toList h
      rw [numbered, numbered, String.toList_append, String.toList_append] at this
      exact (by simpa using List.append_cancel_left this)
    have hi := Nat.ofDigitChars_ten_toDigits (n := i)
    rw [hdigits, Nat.ofDigitChars_ten_toDigits] at hi
    exact hi.symm
  · rintro rfl
    rfl

theorem numbered_ne_self (number : Nat) : numbered name number ≠ name := by
  intro h
  have hlength := congrArg (fun s => s.toList.length) h
  have hpos : 0 < (Nat.toDigits 10 number).length := Nat.length_toDigits_pos
  simp only [numbered, String.toList_append, List.length_append, Nat.toString_eq_repr,
    Nat.toList_repr] at hlength
  omega

/-- Variants in use, together with the name itself, are no more than there are names in use. -/
theorem le_card_of_taken {taken : Finset String} {bound : Nat} (hname : name ∈ taken)
    (h : ∀ number, 2 ≤ number → number < bound → numbered name number ∈ taken) :
    bound ≤ taken.card + 1 := by
  -- The name and its variants below the bound all differ, and all of them are in use.
  let variants := (Finset.Ico 2 bound).image (numbered name)
  have hnew : name ∉ variants := by
    intro hvariant
    obtain ⟨number, -, hnumber⟩ := Finset.mem_image.mp hvariant
    exact numbered_ne_self number hnumber
  have hsubset : insert name variants ⊆ taken := by
    intro candidate hcandidate
    rcases Finset.mem_insert.mp hcandidate with rfl | hvariant
    · exact hname
    · obtain ⟨number, hnumber, rfl⟩ := Finset.mem_image.mp hvariant
      rw [Finset.mem_Ico] at hnumber
      exact h number hnumber.1 hnumber.2
  have hvariants : variants.card = bound - 2 := by
    rw [Finset.card_image_of_injective _ fun i j hij => numbered_inj.mp hij, Nat.card_Ico]
  have hcard := Finset.card_le_card hsubset
  rw [Finset.card_insert_of_notMem hnew, hvariants] at hcard
  omega

/-- So one of as many variants as there are names in use is free. -/
theorem exists_free (h : name ∈ registry.taken) :
    ∃ number ∈ List.range' 2 registry.taken.length, numbered name number ∉ registry.taken := by
  by_contra hall
  push Not at hall
  have hbound : registry.taken.length + 2 ≤ registry.taken.toFinset.card + 1 := by
    refine le_card_of_taken (List.mem_toFinset.mpr h) fun number htwo hless => ?_
    rw [List.mem_toFinset]
    exact hall number (List.mem_range'_1.mpr ⟨htwo, by omega⟩)
  have hcard := List.toFinset_card_le registry.taken
  omega

/-- The variant chosen for a name in use is the first free one. -/
theorem firstFree_spec (h : name ∈ registry.taken) :
    ∃ number, 2 ≤ number ∧ registry.firstFree name = numbered name number ∧
      numbered name number ∉ registry.taken ∧
      ∀ smaller, 2 ≤ smaller → smaller < number → numbered name smaller ∈ registry.taken := by
  obtain ⟨free, hfree, hnew⟩ := exists_free h
  rw [firstFree]
  cases hfind : (List.range' 2 registry.taken.length).find? fun number =>
      !registry.taken.contains (numbered name number) with
  | none =>
    rw [List.find?_eq_none] at hfind
    exact absurd (by simpa using hfind free hfree) hnew
  | some number =>
    have hrange := List.mem_of_find?_eq_some hfind
    rw [List.mem_range'_1] at hrange
    refine ⟨number, hrange.1, rfl, by simpa using List.find?_some hfind, ?_⟩
    intro smaller htwo hsmaller
    rw [List.find?_range'_eq_some] at hfind
    simpa using hfind.2.2 smaller htwo hsmaller

/-! ## One claim -/

theorem claim_of_not_mem (h : name ∉ registry.taken) :
    registry.claim name = ⟨(name, ⟨name :: registry.taken⟩), []⟩ := by
  rw [claim, if_neg (by simpa using h)]

theorem claim_of_mem (h : name ∈ registry.taken) :
    registry.claim name =
      ⟨(registry.firstFree name, ⟨registry.firstFree name :: registry.taken⟩),
        [⟨.warn, renamedMessage name (registry.firstFree name)⟩]⟩ := by
  rw [claim, if_pos (by simpa using h)]

/-- A name or one of its numbered variants. -/
def IsVariant (name given : String) : Prop :=
  given = name ∨ ∃ number, given = numbered name number

/-- Whatever is handed out was free, is in use from then on, and is the name itself exactly when
that was free. -/
structure Claimed (registry : Registry) (name given : String) : Prop where
  value : (registry.claim name).value = (given, ⟨given :: registry.taken⟩)
  isNew : given ∉ registry.taken
  eq_iff : given = name ↔ name ∉ registry.taken
  isVariant : IsVariant name given

theorem exists_claimed (registry : Registry) (name : String) :
    ∃ given, Claimed registry name given := by
  by_cases h : name ∈ registry.taken
  · obtain ⟨number, -, hgiven, hnew, -⟩ := firstFree_spec h
    refine ⟨numbered name number, ?_, hnew, ?_, .inr ⟨number, rfl⟩⟩
    · rw [claim_of_mem h, hgiven]
    · exact ⟨fun heq => absurd heq (numbered_ne_self number), fun hnot => absurd h hnot⟩
  · refine ⟨name, ?_, h, ⟨fun _ => h, fun _ => rfl⟩, .inl rfl⟩
    rw [claim_of_not_mem h]

/-! ## A list of claims -/

theorem value_claimAll_cons {given : String} (names : List String)
    (h : Claimed registry name given) :
    (registry.claimAll (name :: names)).value =
      given :: (claimAll ⟨given :: registry.taken⟩ names).value := by
  show ((registry.claim name).value.1 ::
    ((registry.claim name).value.2.claimAll names).value) = _
  rw [h.value]

theorem length_claimAll (registry : Registry) (names : List String) :
    (registry.claimAll names).value.length = names.length := by
  induction names generalizing registry with
  | nil => rfl
  | cons name names ih =>
    obtain ⟨given, hclaimed⟩ := exists_claimed registry name
    rw [value_claimAll_cons names hclaimed, List.length_cons, List.length_cons, ih]

/-- Nothing that is in use already is handed out. -/
theorem not_mem_taken_of_mem_claimAll {names : List String} {given : String}
    (h : given ∈ (registry.claimAll names).value) : given ∉ registry.taken := by
  induction names generalizing registry with
  | nil => exact absurd h List.not_mem_nil
  | cons name names ih =>
    obtain ⟨first, hclaimed⟩ := exists_claimed registry name
    rw [value_claimAll_cons names hclaimed] at h
    rcases List.mem_cons.mp h with rfl | h
    · exact hclaimed.isNew
    · exact fun htaken => ih h (List.mem_cons_of_mem _ htaken)

/-- No name is handed out twice. -/
theorem nodup_claimAll (registry : Registry) (names : List String) :
    (registry.claimAll names).value.Nodup := by
  induction names generalizing registry with
  | nil => exact List.nodup_nil
  | cons name names ih =>
    obtain ⟨given, hclaimed⟩ := exists_claimed registry name
    rw [value_claimAll_cons names hclaimed, List.nodup_cons]
    refine ⟨fun hagain => ?_, ih _⟩
    exact not_mem_taken_of_mem_claimAll hagain List.mem_cons_self

/-- Every claim is answered with a variant of its name, and with the name itself exactly when that
was free at the beginning and is none of the answers given before. -/
theorem getElem?_claimAll {names : List String} {i : Nat} {given : String}
    (hname : names[i]? = some name) (hgiven : (registry.claimAll names).value[i]? = some given) :
    IsVariant name given ∧
      (given = name ↔
        name ∉ registry.taken ∧ name ∉ (registry.claimAll names).value.take i) := by
  induction names generalizing registry i with
  | nil => simp at hname
  | cons first names ih =>
    obtain ⟨answer, hclaimed⟩ := exists_claimed registry first
    rw [value_claimAll_cons names hclaimed] at hgiven ⊢
    -- The registry behind the first claim has its answer in use, so that answer counts as earlier.
    cases i with
    | zero =>
      obtain rfl : first = name := by simpa using hname
      obtain rfl : answer = given := by simpa using hgiven
      exact ⟨hclaimed.isVariant, by simpa using hclaimed.eq_iff⟩
    | succ i =>
      obtain ⟨hvariant, hkept⟩ := ih (by simpa using hname) (by simpa using hgiven)
      refine ⟨hvariant, ?_⟩
      rw [hkept, List.take_succ_cons, List.mem_cons, List.mem_cons]
      tauto

/-! ## Claims that follow others -/

/-- The registry that a list of claims leaves behind. -/
def after (registry : Registry) : List String → Registry
  | [] => registry
  | name :: names => (registry.claim name).value.2.after names

/-- Later claims are made of what the earlier ones leave behind, and change nothing about their
answers and warnings. -/
theorem claimAll_append (registry : Registry) (names more : List String) :
    registry.claimAll (names ++ more) =
      ⟨(registry.claimAll names).value ++ ((registry.after names).claimAll more).value,
        (registry.claimAll names).lines ++ ((registry.after names).claimAll more).lines⟩ := by
  induction names generalizing registry with
  | nil => rfl
  | cons name names ih =>
    have hrest := ih (registry.claim name).value.2
    simp only [List.cons_append, claimAll, after, bind, pure, hrest, List.append_assoc,
      List.append_nil]

end FetchClient.MethodName.Registry
