import FetchClient.Api.Content
import FetchClient.Proofs.Description.Entries
import Mathlib

/-!
# Which operations a description has

- `Verb.ofText?_eq_some_iff`: a key names the verb whose token it is, whatever the letter case;
- `Description.Entry.IsOperation`: which entries are operations;
- `Description.countP_isWarning_gather`: what is warned of;
- `Description.Prunes`: taking away what is passed over;
- `Description.operations_extracted`: the operations of a description are its entries that name a
  verb and hold an object. All others are passed over one by one, so they might as well not be
  there.
-/

namespace FetchClient

/-! ## Keys -/

namespace Verb

/-- Whether a key is the token of a verb up to the case of ASCII letters. -/
def IsKey (verb : Verb) (key : String) : Prop :=
  key.toList.map Char.toLower = verb.token.toList.map Char.toLower

instance (verb : Verb) (key : String) : Decidable (verb.IsKey key) :=
  inferInstanceAs (Decidable (_ = _))

theorem map_toUpper_token (verb : Verb) :
    verb.token.toList.map Char.toUpper = verb.token.toList := by
  cases verb <;> decide

theorem map_toLower_eq_iff (cs ds : List Char) :
    cs.map Char.toLower = ds.map Char.toLower ↔ cs.map Char.toUpper = ds.map Char.toUpper := by
  constructor
  · intro h
    have hupper := congrArg (List.map Char.toUpper) h
    simpa only [List.map_map, Function.comp_def, Char.toUpper_toLower_eq_toUpper] using hupper
  · intro h
    have hlower := congrArg (List.map Char.toLower) h
    simpa only [List.map_map, Function.comp_def, Char.toLower_toUpper_eq_toLower] using hlower

theorem ofToken?_eq_some_iff {text : String} {verb : Verb} :
    ofToken? text = some verb ↔ verb.token = text := by
  constructor
  · intro h
    simpa using List.find?_some h
  · rintro rfl
    exact ofToken?_token verb

/-- A key names the verb whose token it is, whatever the case of its letters. -/
theorem ofText?_eq_some_iff {key : String} {verb : Verb} :
    ofText? key = some verb ↔ verb.IsKey key := by
  rw [ofText?, ofToken?_eq_some_iff, IsKey, map_toLower_eq_iff, map_toUpper_token,
    ← String.toList_inj, String.toList_ofList, eq_comm]

end Verb

namespace Description

/-! ## Entries -/

def isObject : Value → Bool
  | .object _ => true
  | _ => false

/-- Whether a key is the token of some verb. -/
def namesVerb (key : String) : Bool :=
  Verb.all.any fun verb => verb.IsKey key

namespace Entry

/-- Whether the entry is an operation: its key names a verb, and its value is an object. -/
def IsOperation (entry : Entry) (op : Operation) : Prop :=
  ∃ (verb : Verb) (members : List (String × Value)), verb.IsKey entry.key ∧
    entry.value = .object members ∧ op = .ofMembers entry.path verb members

/-- Whether the entry should be an operation, but is no object. -/
def isMalformed (entry : Entry) : Bool :=
  namesVerb entry.key && !isObject entry.value

theorem operation?_eq_some_iff {entry : Entry} {op : Operation} :
    entry.operation? = some op ↔ entry.IsOperation op := by
  unfold operation? IsOperation
  constructor
  · intro h
    split at h
    · next verb members hverb hvalue =>
      cases h
      exact ⟨verb, members, Verb.ofText?_eq_some_iff.mp hverb, hvalue, rfl⟩
    · cases h
  · rintro ⟨verb, members, hkey, hvalue, rfl⟩
    rw [Verb.ofText?_eq_some_iff.mpr hkey, hvalue]

end Entry

theorem namesVerb_eq_isSome (key : String) : namesVerb key = (Verb.ofText? key).isSome := by
  rw [Bool.eq_iff_iff, Option.isSome_iff_exists, namesVerb, List.any_eq_true]
  simp only [decide_eq_true_eq, Verb.ofText?_eq_some_iff]
  exact ⟨fun ⟨verb, _, h⟩ => ⟨verb, h⟩, fun ⟨verb, h⟩ => ⟨verb, verb.mem_all, h⟩⟩

/-! ## Warnings -/

/-- Whether a line is a warning. -/
def isWarning (line : Log.Line) : Bool :=
  line.level = .warn

/-- An entry is warned of when it is malformed. Other keys are mentioned among the details. -/
theorem countP_isWarning_operationsAt (path : String) (entry : String × Value) :
    (operationsAt path entry).lines.countP isWarning =
      if Entry.isMalformed ⟨path, entry.1, entry.2⟩ then 1 else 0 := by
  obtain ⟨key, value⟩ := entry
  cases hverb : Verb.ofText? key <;> cases value <;>
    simp [operationsAt, Entry.isMalformed, namesVerb_eq_isSome, isObject, isWarning, Value.members?,
      hverb]

/-- A path item is warned of when it is no object, and otherwise for its malformed entries. -/
theorem countP_isWarning_operationsUnder (item : String × Value) :
    (operationsUnder item).lines.countP isWarning =
      (if isObject item.2 then 0 else 1) + (entriesOf item).countP Entry.isMalformed := by
  obtain ⟨path, value⟩ := item
  cases value with
  | object members =>
    show (members.flatMap fun entry => (operationsAt path entry).lines).countP isWarning =
      0 + (members.map fun entry => Entry.mk path entry.1 entry.2).countP Entry.isMalformed
    rw [Nat.zero_add]
    induction members with
    | nil => rfl
    | cons entry members ih =>
      rw [List.flatMap_cons, List.countP_append, ih, countP_isWarning_operationsAt, List.map_cons,
        List.countP_cons, Nat.add_comm]
  | _ => rfl

/-- Every path item that is no object and every malformed entry is warned of once. -/
theorem countP_isWarning_gather (paths : List (String × Value)) :
    (gather operationsUnder paths).lines.countP isWarning =
      paths.countP (fun item => !isObject item.2) + (entries paths).countP Entry.isMalformed := by
  show (paths.flatMap fun item => (operationsUnder item).lines).countP isWarning = _
  induction paths with
  | nil => rfl
  | cons item paths ih =>
    have hentries : entries (item :: paths) = entriesOf item ++ entries paths := rfl
    rw [List.flatMap_cons, List.countP_append, ih, countP_isWarning_operationsUnder,
      List.countP_cons, hentries, List.countP_append]
    cases isObject item.2 <;> simp <;> omega

/-! ## Taking entries away -/

/-- Whether paths become others when one thing is taken away that is passed over: a path item that
is no object, or an entry that is no operation. -/
inductive PrunesPaths : List (String × Value) → List (String × Value) → Prop
  | item {before after : List (String × Value)} {path : String} {value : Value}
      (hskipped : isObject value = false) :
      PrunesPaths (before ++ (path, value) :: after) (before ++ after)
  | entry {before after first last : List (String × Value)} {path key : String} {value : Value}
      (hskipped : ∀ op, ¬ Entry.IsOperation ⟨path, key, value⟩ op) :
      PrunesPaths (before ++ (path, .object (first ++ (key, value) :: last)) :: after)
        (before ++ (path, .object (first ++ last)) :: after)

/-- Whether a tree becomes another one when one thing is taken away that is passed over. -/
inductive Prunes : Value → Value → Prop
  | paths {before after paths pruned : List (String × Value)}
      (hfirst : ∀ member ∈ before, member.1 ≠ "paths") (hpaths : PrunesPaths paths pruned) :
      Prunes (.object (before ++ ("paths", .object paths) :: after))
        (.object (before ++ ("paths", .object pruned) :: after))

/-- What is passed over leaves no operation behind. -/
theorem PrunesPaths.filterMap_eq {paths pruned : List (String × Value)}
    (h : PrunesPaths paths pruned) :
    (entries pruned).filterMap Entry.operation? = (entries paths).filterMap Entry.operation? := by
  cases h with
  | item hskipped =>
    next before after path value =>
    have hnone : entriesOf (path, value) = [] := by
      cases value <;> first | rfl | cases hskipped
    simp only [entries, List.flatMap_append, List.flatMap_cons, hnone, List.nil_append]
  | entry hskipped =>
    next before after first last path key value =>
    have hnone : Entry.operation? ⟨path, key, value⟩ = none := by
      rw [Option.eq_none_iff_forall_ne_some]
      exact fun op hop => hskipped op (Entry.operation?_eq_some_iff.mp hop)
    simp only [entries, entriesOf, List.flatMap_append, List.flatMap_cons, List.map_append,
      List.map_cons, List.filterMap_append, List.filterMap_cons, hnone]

/-- What is taken away leaves a tree with an object of paths, and what is left of that. -/
theorem Prunes.exists_paths {root pruned : Value} (h : Prunes root pruned) :
    ∃ paths left, root.member? "paths" = some (.object paths) ∧
      pruned.member? "paths" = some (.object left) ∧ PrunesPaths paths left := by
  cases h with
  | paths hfirst hpaths =>
    next before after paths left =>
    -- Only the first member with this key counts, and it is the one in question.
    have hbefore : before.lookup "paths" = none := by
      rw [List.lookup_eq_none_iff]
      intro member hmember
      simpa using Ne.symm (hfirst member hmember)
    have hmember : ∀ value, Value.member? (.object (before ++ ("paths", value) :: after)) "paths" =
        some value := by
      intro value
      show (before ++ ("paths", value) :: after).lookup "paths" = _
      rw [List.lookup_append, hbefore, Option.none_or, List.lookup_cons_self]
    exact ⟨paths, left, hmember _, hmember _, hpaths⟩

/-- Only an object has members. -/
theorem member?_eq_some_iff {root value : Value} {key : String} :
    root.member? key = some value ↔
      ∃ members, root = .object members ∧ members.lookup key = some value := by
  cases root <;> simp [Value.member?, Value.members?]

/-- A tree has operations exactly if it has an object of paths. -/
theorem operations_eq_ok_iff {root : Value} {found : Logged (List Operation)} :
    Content.operations root = .ok found ↔
      ∃ paths, root.member? "paths" = some (.object paths) ∧ found = gather operationsUnder paths := by
  rw [← operations?_eq_some_iff, Content.operations]
  cases operations? root <;> simp

theorem error_eq_of_operations {root : Value} {error : Error}
    (h : Content.operations root = .error error) : error = .parse none .missingPaths := by
  unfold Content.operations at h
  split at h <;> cases h
  rfl

/-- Taking one thing away that is passed over keeps the list of operations. -/
theorem Prunes.operations {root pruned : Value} {found : Logged (List Operation)}
    (h : Prunes root pruned) (hfound : Content.operations root = .ok found) :
    ∃ kept, Content.operations pruned = .ok kept ∧ kept.value = found.value := by
  obtain ⟨paths, left, hroot, hpruned, hpaths⟩ := h.exists_paths
  obtain ⟨paths', hroot', rfl⟩ := operations_eq_ok_iff.mp hfound
  obtain rfl : paths = paths' := by
    rw [hroot] at hroot'
    cases hroot'
    rfl
  refine ⟨_, operations_eq_ok_iff.mpr ⟨left, hpruned, rfl⟩, ?_⟩
  rw [value_gather, value_gather, hpaths.filterMap_eq]

theorem operations_of_pruned {root pruned : Value} {found : Logged (List Operation)}
    (h : Relation.ReflTransGen Prunes root pruned) (hfound : Content.operations root = .ok found) :
    ∃ kept, Content.operations pruned = .ok kept ∧ kept.value = found.value := by
  induction h with
  | refl => exact ⟨found, hfound, rfl⟩
  | tail _ hstep ih =>
    obtain ⟨between, hbetween, hsame⟩ := ih
    obtain ⟨kept, hkept, hvalue⟩ := hstep.operations hbetween
    exact ⟨kept, hkept, hvalue.trans hsame⟩

/-- **Extraction**: a document tree has operations exactly if it is an object with an object of
paths. They are then its entries that are operations, one by one and in document order; what should
be an object and is none is warned of once; and whatever else the tree loses of what is passed
over, the operations are the same. -/
theorem operations_extracted (root : Value) :
    match Content.operations root with
    | .ok found =>
      ∃ members paths, root = .object members ∧ members.lookup "paths" = some (.object paths) ∧
        (∃ read : Entry → Option Operation,
          (∀ entry op, read entry = some op ↔ entry.IsOperation op) ∧
          found.value = (entries paths).filterMap read) ∧
        found.lines.countP isWarning =
          paths.countP (fun item => !isObject item.2) + (entries paths).countP Entry.isMalformed ∧
        ∀ pruned, Relation.ReflTransGen Prunes root pruned →
          ∃ kept, Content.operations pruned = .ok kept ∧ kept.value = found.value
    | .error error =>
      error = .parse none .missingPaths ∧
        ∀ members paths, root = .object members → members.lookup "paths" ≠ some (.object paths) := by
  cases hfound : Content.operations root with
  | ok found =>
    obtain ⟨paths, hmember, rfl⟩ := operations_eq_ok_iff.mp hfound
    obtain ⟨members, rfl, hpaths⟩ := member?_eq_some_iff.mp hmember
    refine ⟨members, paths, rfl, hpaths, ⟨Entry.operation?, ?_, value_gather paths⟩,
      countP_isWarning_gather paths, fun pruned hpruned => operations_of_pruned hpruned hfound⟩
    exact fun entry op => Entry.operation?_eq_some_iff
  | error error =>
    refine ⟨error_eq_of_operations hfound, ?_⟩
    rintro members paths rfl hpaths
    have hmember : Value.member? (.object members) "paths" = some (.object paths) := hpaths
    cases hfound.symm.trans (operations_eq_ok_iff.mpr ⟨paths, hmember, rfl⟩)

/-- A path item with an operation in mixed case, a key that is no verb and an operation that is no
object, and another path item that is no object. -/
def mixedTree : Value :=
  .object
    [("info", .null),
     ("paths", .object
       [("/a", .object [("Get", .object []), ("summary", .object []), ("POST", .null)]),
        ("/b", .array [])])]

example :
    ((operations? mixedTree).map fun found =>
      (found.value.map fun op => (op.path, op.verb), found.lines.countP isWarning)) =
        some ([("/a", .get)], 2) := by
  decide

end Description

end FetchClient
