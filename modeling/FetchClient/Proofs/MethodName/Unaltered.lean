import FetchClient.Proofs.MethodName.Identifier

/-!
# Names that need no sanitizing

A name is sanitized twice when it is made from a path: each segment of the path, and then the whole
name. Where all that it is made from are identifiers, neither pass finds anything to do.

- `MethodName.AreSegments`: the segments of a path;
- `MethodName.Unaltered`: that no pass changes a name, and that it does not come out empty;
- `MethodName.resolve_of_identifiers`: so an identifier that an operation has is its name, in lower
  case at the beginning, and a name made from a path is the verb with the segments behind it.
-/

namespace FetchClient.MethodName

open Text (isIdentifier isIdentifierPart lowerFirst sanitize upperFirst)

variable {verb : Verb} {path : String} {operationId : Option String} {segments : List (List Char)}

/-! ## Segments -/

/-- Whether these are the segments of a path: they are what its slashes part. -/
structure AreSegments (path : String) (segments : List (List Char)) : Prop where
  joined : path.toList = ['/'].intercalate segments
  noSlash : ∀ segment ∈ segments, '/' ∉ segment

/-- Whether a segment is neither empty nor a parameter in braces. -/
def isNaming (segment : List Char) : Bool :=
  segment != [] && segment.head? != some '{'

theorem exists_areSegments (path : String) : ∃ segments, AreSegments path segments := by
  refine ⟨Text.pieces (· == '/') path.toList, (Text.intercalate_pieces '/' path.toList).symm, ?_⟩
  intro segment hsegment hslash
  have hinside := Text.not_separates_of_mem_pieces hsegment '/' hslash
  cases hinside

theorem namingSegments_eq (h : AreSegments path segments) :
    namingSegments path = segments.filter isNaming := by
  have hnaming : (fun segment : List Char => !segment.isEmpty && segment.head? != some '{') =
      isNaming := by
    funext segment
    cases segment <;> rfl
  rw [namingSegments, hnaming, h.joined]
  cases hsegments : segments with
  | nil => rfl
  | cons segment others =>
    have hne : segments ≠ [] := by simp [hsegments]
    rw [← hsegments, Text.pieces_intercalate hne h.noSlash]

/-! ## Verbs -/

/-- A verb has no other lower case than its own. -/
theorem lowerFirst_word_append (verb : Verb) (rest : List Char) :
    lowerFirst (verb.word.toList ++ rest) = verb.word.toList ++ rest := by
  have hlower : ∃ c others, verb.word.toList = c :: others ∧ Text.lower c = [c] := by
    cases verb <;> exact ⟨_, _, rfl, by decide⟩
  obtain ⟨c, others, hword, hc⟩ := hlower
  rw [hword, List.cons_append, lowerFirst, hc, List.singleton_append]

theorem toList_word (verb : Verb) : verb.word.toList = verb.token.toList.map Char.toLower := by
  cases verb <;> decide

/-! ## Names -/

/-- Whether a name comes through all passes as it is: no segment of a path that it is made from loses
anything, the name itself does not, and something is left of it. -/
structure Unaltered (verb : Verb) (path : String) (operationId : Option String) : Prop where
  segments : operationId.getD "" = "" → ∀ segment ∈ namingSegments path, sanitize segment = segment
  whole : sanitize (base verb path operationId) = base verb path operationId
  remains : lowerFirst (base verb path operationId) ≠ []

/-- The name is what it is made from, apart from how it begins. -/
theorem Unaltered.toList_resolve (h : Unaltered verb path operationId) :
    (resolve verb path operationId).toList = lowerFirst (base verb path operationId) := by
  have hremains : (lowerFirst (base verb path operationId)).isEmpty = false := by
    simpa using h.remains
  rw [resolve, h.whole, hremains]
  exact String.toList_ofList

theorem base_of_ne_empty {id : String} (h : id ≠ "") : base verb path (some id) = id.toList := by
  rw [base, if_neg (by simpa using h)]

theorem base_of_empty (h : operationId.getD "" = "") :
    base verb path operationId = synthesize verb path := by
  cases operationId with
  | none => rfl
  | some id =>
    obtain rfl : id = "" := h
    rfl

theorem unaltered_of_isIdentifier {id : String} (h : isIdentifier id.toList = true) :
    Unaltered verb path (some id) ∧ base verb path (some id) = id.toList := by
  have hne : id ≠ "" := by
    rintro rfl
    cases h
  have hbase : base verb path (some id) = id.toList := base_of_ne_empty hne
  refine ⟨⟨fun hempty => absurd hempty hne, ?_, ?_⟩, hbase⟩
  · rw [hbase, Text.sanitize_of_isIdentifier h]
  · rw [hbase, Ne, Text.lowerFirst_eq_nil_iff]
    simpa using hne

/-- What a path makes of a verb is an identifier, if its segments are identifiers in both cases: as
they stand there, and as they begin in the name. -/
theorem unaltered_of_segments (hempty : operationId.getD "" = "")
    (h : ∀ segment ∈ namingSegments path,
      isIdentifier segment = true ∧ isIdentifier (upperFirst segment) = true) :
    Unaltered verb path operationId ∧
      base verb path operationId =
        verb.word.toList ++ (namingSegments path).flatMap upperFirst := by
  have hsegments : ∀ segment ∈ namingSegments path, sanitize segment = segment :=
    fun segment hsegment => Text.sanitize_of_isIdentifier (h segment hsegment).1
  have hbase : base verb path operationId =
      verb.word.toList ++ (namingSegments path).flatMap upperFirst := by
    rw [base_of_empty hempty, synthesize]
    refine congrArg _ (List.flatMap_congr fun segment hsegment => ?_)
    rw [hsegments segment hsegment]
  -- Behind the verb no character has to begin an identifier, so parts of one are enough there.
  have hparts : ((namingSegments path).flatMap upperFirst).all isIdentifierPart = true := by
    rw [List.all_flatMap, List.all_eq_true]
    exact fun segment hsegment => Text.all_isIdentifierPart_of_isIdentifier (h segment hsegment).2
  have hword : verb.word.toList ≠ [] := by
    cases verb <;> decide
  refine ⟨⟨fun _ => hsegments, ?_, ?_⟩, hbase⟩
  · have hname : isIdentifier (base verb path operationId) = true := by
      rw [hbase, Text.isIdentifier_append hword, isIdentifier_word, hparts, Bool.and_self]
    exact Text.sanitize_of_isIdentifier hname
  · rw [hbase, Ne, Text.lowerFirst_eq_nil_iff, List.append_eq_nil_iff]
    exact fun hnil => hword hnil.1

/-- **Names as they are written**: an identifier that an operation has is its name, with its first
character in lower case, whatever the verb and the path. Without one, and with nothing but identifiers
in the path that may also begin in upper case, the name is the verb in lower case with these segments
behind it, in their order, each beginning in upper case; empty segments and parameters are left out.
No pass over the name changes anything in these cases, and the name is not empty. -/
theorem resolve_of_identifiers :
    (∀ (verb : Verb) (path id : String), isIdentifier id.toList = true →
      (resolve verb path (some id)).toList = lowerFirst id.toList ∧ Unaltered verb path (some id)) ∧
    (∀ path, ∃ segments, AreSegments path segments) ∧
    ∀ (verb : Verb) (path : String) (operationId : Option String) (segments : List (List Char)),
      AreSegments path segments → operationId = none ∨ operationId = some "" →
      (∀ segment ∈ segments, segment ≠ [] → segment.head? ≠ some '{' →
        isIdentifier segment = true ∧ isIdentifier (upperFirst segment) = true) →
      (resolve verb path operationId).toList =
          verb.token.toList.map Char.toLower ++ (segments.filter isNaming).flatMap upperFirst ∧
        Unaltered verb path operationId := by
  refine ⟨fun verb path id hid => ?_, exists_areSegments, ?_⟩
  · obtain ⟨hunaltered, hbase⟩ := unaltered_of_isIdentifier hid
    rw [hunaltered.toList_resolve, hbase]
    exact ⟨rfl, hunaltered⟩
  · intro verb path operationId segments hsegments hoperationId hidentifiers
    have hempty : operationId.getD "" = "" := by
      rcases hoperationId with rfl | rfl <;> rfl
    have hnaming := namingSegments_eq hsegments
    have hmembers : ∀ segment ∈ namingSegments path,
        isIdentifier segment = true ∧ isIdentifier (upperFirst segment) = true := by
      intro segment hsegment
      rw [hnaming, List.mem_filter, isNaming, Bool.and_eq_true, bne_iff_ne, bne_iff_ne] at hsegment
      exact hidentifiers segment hsegment.1 hsegment.2.1 hsegment.2.2
    obtain ⟨hunaltered, hbase⟩ := unaltered_of_segments hempty hmembers
    rw [hunaltered.toList_resolve, hbase, lowerFirst_word_append, toList_word, hnaming]
    exact ⟨rfl, hunaltered⟩

/-- A path with a parameter, an empty segment and a letter that is not ASCII. -/
theorem resolve_of_identifiers_accented :
    AreSegments "/café//{id}/éclairs"
      [[], "café".toList, [], "{id}".toList, "éclairs".toList] ∧
    (resolve .get "/café//{id}/éclairs" (some "")).toList = "getCaféÉclairs".toList ∧
    isIdentifier "Éclairs".toList = true ∧
    (resolve .get "/café//{id}/éclairs" (some "Éclairs")).toList = "éclairs".toList := by
  have hsegments : AreSegments "/café//{id}/éclairs"
      [[], "café".toList, [], "{id}".toList, "éclairs".toList] :=
    ⟨by decide, by decide⟩
  have hid : isIdentifier "Éclairs".toList = true := by decide
  have hpath := resolve_of_identifiers.2.2 .get _ _ _ hsegments (.inr rfl) (by decide)
  have hgiven := resolve_of_identifiers.1 .get "/café//{id}/éclairs" "Éclairs" hid
  refine ⟨hsegments, ?_, hid, ?_⟩
  · rw [hpath.1]
    decide
  · rw [hgiven.1]
    decide

end FetchClient.MethodName
