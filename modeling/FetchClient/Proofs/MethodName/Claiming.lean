import FetchClient.Proofs.MethodName.Registry
import Mathlib.Order.Bounds.Basic

/-!
# The law of claims

What a claim answers depends on nothing but the set of the names in use, however that set came
about.

- `Registry.names`: the set of the names in use;
- `Registry.Search`: the search for a free variant, one number after the other and without a bound;
- `Registry.search_of_isLeast`: it ends at the least number that is free;
- `Registry.claim_law`: what a claim answers, says, and leaves behind.
-/

namespace FetchClient.MethodName.Registry

/-- The set of the names in use. -/
def names (registry : Registry) : Finset String :=
  registry.taken.toFinset

theorem mem_names {registry : Registry} {name : String} :
    name ∈ registry.names ↔ name ∈ registry.taken :=
  List.mem_toFinset

/-! ## The search -/

section Search

variable {taken : Finset String} {name : String} {start found : Nat}

/-- The search for a free variant of a name that begins at one number ends at another one. While a
variant is in use the next number is tried, whatever its size. -/
inductive Search (taken : Finset String) (name : String) : Nat → Nat → Prop
  | found {number : Nat} (hfree : numbered name number ∉ taken) : Search taken name number number
  | next {number found : Nat} (htaken : numbered name number ∈ taken)
      (hrest : Search taken name (number + 1) found) : Search taken name number found

/-- The numbers from a first one on whose variants are free. -/
def freeFrom (taken : Finset String) (name : String) (start : Nat) : Set Nat :=
  {number | start ≤ number ∧ numbered name number ∉ taken}

/-- The search ends at the least number that is free. -/
theorem search_of_isLeast (h : IsLeast (freeFrom taken name start) found) :
    Search taken name start found := by
  obtain ⟨⟨hstart, hfree⟩, hleast⟩ := h
  -- Induction on how many numbers are left up to the one that is free.
  induction hleft : found - start generalizing start with
  | zero =>
    obtain rfl : start = found := by omega
    exact .found hfree
  | succ left ih =>
    have htaken : numbered name start ∈ taken := by
      by_contra hstart_free
      have := hleast ⟨Nat.le_refl start, hstart_free⟩
      omega
    refine .next htaken (ih ?_ (by omega) (by omega))
    rintro other ⟨hother, hother_free⟩
    exact hleast ⟨by omega, hother_free⟩

end Search

/-! ## Claims -/

/-- The names in use after some claims are those from before and all that was answered. -/
theorem names_after (registry : Registry) (earlier : List String) :
    (registry.after earlier).names =
      registry.names ∪ (registry.claimAll earlier).value.toFinset := by
  induction earlier generalizing registry with
  | nil => rw [after, claimAll, Logged.value_pure, List.toFinset_nil, Finset.union_empty]
  | cons name earlier ih =>
    obtain ⟨given, hclaimed⟩ := exists_claimed registry name
    have hnames : names ⟨given :: registry.taken⟩ = insert given registry.names :=
      List.toFinset_cons
    rw [after, value_claimAll_cons earlier hclaimed, hclaimed.value, ih, hnames,
      List.toFinset_cons, Finset.insert_union, Finset.union_insert]

/-- The answer to the claim of a name that is in use. -/
theorem exists_number_of_mem {registry : Registry} {name : String} (h : name ∈ registry.names) :
    ∃ number, IsLeast (freeFrom registry.names name 2) number ∧
      number ≤ registry.names.card + 1 ∧ registry.firstFree name = numbered name number := by
  obtain ⟨number, htwo, hgiven, hfree, hsmaller⟩ := firstFree_spec (mem_names.mp h)
  refine ⟨number, ⟨⟨htwo, ?_⟩, ?_⟩, ?_, hgiven⟩
  · rwa [mem_names]
  · rintro other ⟨hother, hother_free⟩
    by_contra hless
    exact hother_free (mem_names.mpr (hsmaller other hother (by omega)))
  · exact le_card_of_taken h fun other hother hless => mem_names.mpr (hsmaller other hother hless)

/-- **Claims**: whatever was reserved and claimed before, a name that is free is handed out as it is
and without a word. A name in use is handed out with a number behind it, the least from two on that
is free, and one warning names both. The search for that number ends, and after no more numbers than
there are names in use. From then on the name that was handed out is in use too, and it alone. -/
theorem claim_law (reserved earlier : List String) (name : String) :
    let registry := (ofList reserved).after earlier
    let answer := registry.claim name
    registry.names =
      reserved.toFinset ∪ ((ofList reserved).claimAll earlier).value.toFinset ∧
    (answer.value.1 = name ↔ name ∉ registry.names) ∧
    (answer.lines = [] ↔ name ∉ registry.names) ∧
    (name ∈ registry.names →
      ∃ number, answer.value.1 = name ++ toString number ∧
        IsLeast {number | 2 ≤ number ∧ name ++ toString number ∉ registry.names} number ∧
        Search registry.names name 2 number ∧ number ≤ registry.names.card + 1 ∧
        answer.lines =
          [⟨.warn, "Method name '" ++ name ++ "' is already in use; emitting '" ++
            (name ++ toString number) ++ "' instead"⟩]) ∧
    answer.value.1 ∉ registry.names ∧
    answer.value.2.names = insert answer.value.1 registry.names := by
  intro registry answer
  obtain ⟨given, hclaimed⟩ := exists_claimed registry name
  have hgiven : answer.value = (given, ⟨given :: registry.taken⟩) := hclaimed.value
  refine ⟨names_after _ _, ?_, ?_, fun hname => ?_, ?_, ?_⟩
  · rw [hgiven, mem_names]
    exact hclaimed.eq_iff
  · rw [mem_names]
    by_cases htaken : name ∈ registry.taken
    · simp [answer, claim_of_mem htaken, htaken]
    · simp [answer, claim_of_not_mem htaken, htaken]
  · obtain ⟨number, hleast, hbound, hfirst⟩ := exists_number_of_mem hname
    -- The bounded search of the registry gives what the search without a bound ends at.
    have hanswer := claim_of_mem (mem_names.mp hname)
    rw [hfirst] at hanswer
    exact ⟨number, congrArg (·.value.1) hanswer, hleast, search_of_isLeast hleast, hbound,
      congrArg Logged.lines hanswer⟩
  · rw [hgiven, mem_names]
    exact hclaimed.isNew
  · rw [hgiven]
    exact List.toFinset_cons

/-- A registry in which the second variant of a name was made up, the third was reserved, and the
second of the second was made up too. -/
def registryWithGaps : Registry :=
  (ofList ["request", "getUsers3"]).after ["getUsers", "getUsers", "getUsers2"]

/-- The next number for that name is four, though there are variants with larger ones. -/
theorem claim_law_gaps :
    "getUsers" ∈ registryWithGaps.names ∧
    IsLeast {number | 2 ≤ number ∧ "getUsers" ++ toString number ∉ registryWithGaps.names} 4 ∧
    (registryWithGaps.claim "getUsers").value.1 = "getUsers4" ∧
    "getUsers22" ∈ registryWithGaps.names := by
  have hname : "getUsers" ∈ registryWithGaps.names := by decide
  have hanswer : (registryWithGaps.claim "getUsers").value.1 = "getUsers4" := by decide
  obtain ⟨-, -, -, hnumbered, -⟩ :=
    claim_law ["request", "getUsers3"] ["getUsers", "getUsers", "getUsers2"] "getUsers"
  obtain ⟨number, hgiven, hleast, -⟩ := hnumbered hname
  obtain rfl : number = 4 := numbered_inj.mp (hgiven.symm.trans hanswer)
  exact ⟨hname, hleast, hanswer, by decide⟩

end FetchClient.MethodName.Registry
