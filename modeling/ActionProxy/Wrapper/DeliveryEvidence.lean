import ActionProxy.Contracts.CanonicalJson
import ActionProxy.Foundation.ParsedJson
import ActionProxy.Security.OutcomeReports
import ActionProxy.Wrapper.CallTool

/-!
The evidence of a delivered result on both sides. The wrapper hashes the result with a
serializer of its own; the server serializes what it receives again and compares. The
two texts agree on every value that went through a JSON text.
-/

namespace ActionProxy.Wrapper

open JsonText

/-! ### `JSON.stringify` -/

section

variable {nearest : JsonNumber → Option JsonNumber}

mutual

/-- What `JSON.stringify` prints of a value: nothing of what is no data, `null` for what
has no text among the items of an array, and an error for a cycle or a big integer. -/
def stringified : JsValue nearest → Except Thrown (Option Json)
  | .undefined => .ok none
  | .null => .ok (some .null)
  | .bool value => .ok (some (.bool value))
  | .num (.finite value _) => .ok (some (.num value))
  | .num (.negativeZero _) => .ok (some (.num JsonNumber.zero))
  | .num (.infinite _) => .ok (some .null)
  | .num .notANumber => .ok (some .null)
  | .str value => .ok (some (.str value))
  | .unsupported .bigint => .error (.error "TypeError" "Do not know how to serialize a BigInt")
  | .unsupported _ => .ok none
  | .cycle => .error (.error "TypeError" "Converting circular structure to JSON")
  | .arr _ items => do
      let items ← stringifiedItems items
      return some (.arr items)
  | .obj _ _ members => do
      let members ← stringifiedMembers members
      return some (.obj members)

def stringifiedItems : List (Option (JsValue nearest)) → Except Thrown (List Json)
  | [] => .ok []
  | none :: rest => do
      let rest ← stringifiedItems rest
      return .null :: rest
  | some item :: rest => do
      let item ← stringified item
      let rest ← stringifiedItems rest
      return item.getD .null :: rest

def stringifiedMembers :
    List (String × JsValue nearest) → Except Thrown (List (String × Option Json))
  | [] => .ok []
  | (key, value) :: rest => do
      let value ← stringified value
      let rest ← stringifiedMembers rest
      return (key, value) :: rest

end

/-- `normalizeMcpCallResult` of any value. -/
def normalizedResultOf (result : JsValue nearest) : Except Thrown Json := do
  match ← stringified result with
  | none => .error (.error "SyntaxError" "\"undefined\" is not valid JSON")
  | some json => normalizeMcpCallResult nearest json

end

/-! ### The two serializers -/

theorem compareKeys_isLE (left right : String) :
    (compareKeys left right).isLE = codeUnitsLe left right := by
  unfold compareKeys codeUnitsLe
  by_cases before : codeUnits left < codeUnits right
  · have notAfter : ¬ codeUnits right < codeUnits left := lt_asymm before
    rw [if_pos before, decide_eq_false notAfter]
    rfl
  · rw [if_neg before]
    by_cases after : codeUnits right < codeUnits left
    · rw [if_pos after, decide_eq_true after]
      rfl
    · rw [if_neg after, decide_eq_false after]
      rfl

theorem canonicalItems_eq (items : List Json) :
    canonicalItems items = items.map canonicalText := by
  induction items with
  | nil => rfl
  | cons item rest ih => rw [canonicalItems, ih, List.map_cons]

theorem canonicalEntries_eq (members : List (String × Option Json)) :
    canonicalEntries members = (definedMembers members).map (Prod.map id canonicalText) := by
  induction members with
  | nil => rfl
  | cons member rest ih =>
      obtain ⟨key, value⟩ := member
      cases value with
      | none => rw [canonicalEntries, ih, definedMembers_none]
      | some value =>
          rw [canonicalEntries, ih, definedMembers_some, List.map_cons]
          rfl

theorem canonicalText_eq (value : Json) : canonicalText value = textWith codeUnitOrder value := by
  induction value using treeInduction with
  | null => rfl
  | bool value => cases value <;> rfl
  | num value => rfl
  | str value => rfl
  | arr items ih =>
      rw [canonicalText, canonicalItems_eq, List.map_congr_left ih, textWith_arr]
  | obj members ih =>
      have entries : canonicalEntries members = memberTexts codeUnitOrder members := by
        rw [canonicalEntries_eq, memberTexts_eq]
        apply List.map_congr_left
        intro member listed
        exact Prod.ext rfl (ih member listed)
      have order : (fun left right => (compareKeys left right).isLE) = codeUnitsLe :=
        funext fun left => funext fun right => compareKeys_isLE left right
      rw [canonicalText, textWith, entries]
      simp only [order]
      rfl

theorem canonicalJsonStringify_eq (value : Json) :
    canonicalJsonStringify value = ActionProxy.canonicalJsonStringify value :=
  congrArg String.ofList (canonicalText_eq value)

theorem validateMcpCallResult_ok {answer : Option Json} {result : Json}
    (accepted : validateMcpCallResult answer = .ok result) :
    answer = some result ∧ ∃ members, result = .obj members := by
  unfold validateMcpCallResult at accepted
  split at accepted
  · rename_i members
    split at accepted
    · rename_i content _
      have checked : ∀ unchecked : Except Thrown Unit, (do
          content.forM validateContentItem
          unchecked
          return Json.obj members) = Except.ok result → Json.obj members = result := by
        intro unchecked returned
        cases items : content.forM validateContentItem with
        | error error =>
            rw [items] at returned
            cases returned
        | ok _ =>
            rw [items] at returned
            cases unchecked with
            | error error => cases returned
            | ok _ => exact Except.ok.inj returned
      split at accepted
      · cases checked _ accepted
        exact ⟨rfl, members, rfl⟩
      · cases checked _ accepted
        exact ⟨rfl, members, rfl⟩
      · cases accepted
    · cases accepted
  · cases accepted

theorem normalizeMcpCallResult_ok {nearest : JsonNumber → Option JsonNumber}
    {result normalized : Json} (accepted : normalizeMcpCallResult nearest result = .ok normalized) :
    jsonParse nearest (String.ofList (textWith insertionOrder result)) = some normalized ∧
      ∃ members, normalized = .obj members := by
  unfold normalizeMcpCallResult at accepted
  split at accepted
  · cases accepted
  · rename_i parsed
    obtain ⟨same, object⟩ := validateMcpCallResult_ok accepted
    exact ⟨parsed.trans same, object⟩

/-- The evidence as the server reads it. -/
def ResultDelivery.received (delivery : ResultDelivery) : ResultDeliveryMetadataV1 :=
  { byteCount := delivery.byteCount
    canonicalResultHash := delivery.canonicalResultHash
    modelVisible := delivery.modelVisible
    version := delivery.version }

theorem byteLength_toList (text : String) :
    Utf8Stream.byteLength text.toList = text.utf8ByteSize := by
  rw [← String.size_toByteArray, ← String.utf8Encode_toList, List.utf8Encode,
    List.size_toByteArray]
  rfl

section

variable [Runtime]

/-- The server's checks pass exactly when both sides hash the same text of the same length. -/
theorem validateResultDelivery_eq {report : ReportExecutionGrantOutcomeInput}
    {normalized : Json} {received : JsonObject} (reported : report.result = some received)
    (evidence : report.resultDelivery = some (resultDeliveryForMcpResult normalized).received) :
    validateResultDelivery report =
      if (canonicalJsonStringify normalized).utf8ByteSize =
            (canonicalJsonStringify (.obj received)).utf8ByteSize ∧
          sha256Hex (canonicalJsonStringify normalized) =
            sha256Hex (canonicalJsonStringify (.obj received)) then
        .ok report.resultDelivery
      else .error (.forbidden
        "Result-delivery evidence does not match the exact downstream result.") := by
  unfold validateResultDelivery
  simp only [evidence, reported, hashCanonicalJson, ← canonicalJsonStringify_eq,
    ResultDelivery.received, resultDeliveryForMcpResult, byteLength_toList]
  split
  · rename_i different
    rw [if_neg]
    rintro ⟨lengths, hashes⟩
    exact absurd hashes (different.resolve_left (not_not_intro lengths))
  · rename_i agree
    rw [not_or, not_not, not_not] at agree
    rw [if_pos agree]

end

end ActionProxy.Wrapper
