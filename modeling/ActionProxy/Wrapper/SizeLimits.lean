import ActionProxy.Services.ResultRelease
import ActionProxy.Wrapper.OutcomeSizes

/-!
Whether the limits on sizes compose. A result is bounded by itself; what is sent about it
is bounded by limits of the same size, and is larger. The sizes are exact, so that a
result is lost to a limit exactly when its parts say so.
-/

namespace ActionProxy.Wrapper

open JsonText Interleaving

section

variable {nearest : JsonNumber → Option JsonNumber}

/-! ### Accepted results -/

theorem validateMcpCallResult_within {answer : Option Json} {result : Json}
    (accepted : validateMcpCallResult answer = .ok result) :
    jsonBytes result ≤ DEFAULT_MAX_MCP_RESULT_BYTES := by
  unfold validateMcpCallResult at accepted
  split at accepted
  · rename_i members
    split at accepted
    · rename_i content _
      have checked : (do
          content.forM validateContentItem
          assertJsonWithinLimit (.obj members) DEFAULT_MAX_MCP_RESULT_BYTES "MCP tool result"
          return Json.obj members) = Except.ok result →
            jsonBytes result ≤ DEFAULT_MAX_MCP_RESULT_BYTES := by
        intro returned
        cases items : content.forM validateContentItem with
        | error error =>
            rw [items] at returned
            cases returned
        | ok _ =>
            rw [items] at returned
            by_cases long : DEFAULT_MAX_MCP_RESULT_BYTES <
                Utf8Stream.byteLength (textWith insertionOrder (.obj members))
            · rw [assertJsonWithinLimit, if_pos long] at returned
              cases returned
            · rw [assertJsonWithinLimit, if_neg long] at returned
              cases returned
              rw [byteLength_textWith] at long
              omega
      split at accepted
      · exact checked accepted
      · exact checked accepted
      · cases accepted
    · cases accepted
  · cases accepted

/-- A result as the wrapper accepts it. -/
structure AcceptedResult (nearest : JsonNumber → Option JsonNumber) (result : Json) : Prop where
  shown : ∃ members, result = .obj members
  distinct : distinctKeys result = true
  whole : complete result = true
  within : jsonBytes result ≤ DEFAULT_MAX_MCP_RESULT_BYTES
  parsed : ∃ text, jsonParse nearest text = some result

theorem accepted_of_normalized {result : JsValue nearest} {normalized : Json}
    (accepted : normalizedResultOf result = .ok normalized) :
    AcceptedResult nearest normalized := by
  unfold normalizedResultOf at accepted
  cases printedAs : stringified result with
  | error error =>
      rw [printedAs] at accepted
      cases accepted
  | ok json =>
      rw [printedAs] at accepted
      cases json with
      | none => cases accepted
      | some json =>
          have normal : normalizeMcpCallResult nearest json = .ok normalized := accepted
          obtain ⟨parsed, shown⟩ := normalizeMcpCallResult_ok normal
          have valid : validateMcpCallResult (some normalized) = .ok normalized := by
            unfold normalizeMcpCallResult at normal
            rw [parsed] at normal
            exact normal
          exact
            { shown := shown
              distinct := jsonParse_distinct parsed
              whole := jsonParse_complete parsed
              within := validateMcpCallResult_within valid
              parsed := ⟨_, parsed⟩ }

/-! ### The report that is read -/

variable [Runtime]

theorem validateResultDelivery_ok {input : ReportExecutionGrantOutcomeInput}
    {delivery : Option ResultDeliveryMetadataV1}
    (valid : validateResultDelivery input = .ok delivery) : delivery = input.resultDelivery := by
  unfold validateResultDelivery at valid
  cases given : input.resultDelivery with
  | none =>
      rw [given] at valid
      exact (Except.ok.inj valid).symm
  | some evidence =>
      rw [given] at valid
      cases shown : input.result with
      | none =>
          rw [shown] at valid
          cases valid
      | some result =>
          rw [shown] at valid
          dsimp only at valid
          split at valid
          · cases valid
          · exact (Except.ok.inj valid).symm

theorem checkReport_reported {classified : Bool} {input : ReportExecutionGrantOutcomeInput}
    {report : CheckedReport} (own : input.status.ofTransport = false)
    (checked : checkReport classified input = .ok report) :
    report.input = input ∧ report.resultDelivery = input.resultDelivery := by
  unfold checkReport at checked
  simp only [own, Bool.and_false, Bool.false_and, Bool.false_eq_true, if_false] at checked
  split at checked
  · cases checked
  split at checked
  · cases checked
  · rename_i valid
    split at checked
    · cases checked
    · cases checked
      exact ⟨rfl, validateResultDelivery_ok valid⟩

/-- The report of a result as the server reads it. -/
def receivedReport (result : Json) (members : JsonObject) : ReportExecutionGrantOutcomeInput :=
  { error := (resultReport result).error
    remediation := none
    result := some members
    resultDelivery := some (resultDeliveryForMcpResult result).received
    status := reportedAs (resultReport result).status }

theorem resultReport_eq (result : Json) :
    resultReport result =
      { error := (resultReport result).error
        result := some result
        resultDelivery := some (resultDeliveryForMcpResult result)
        status := (resultReport result).status } := by
  unfold resultReport
  split <;> rfl

/-- The server reads the report of an accepted result, when its body parser lets it through. -/
theorem receiveOutcome_resultReport {admits : Json → Bool}
    {remediationDescriptor : Json → Option JsonObject} {members : JsonObject}
    (rounded : ∀ exact number, nearest exact = some number → nearest number = some number)
    (integers : ∀ value : Nat, value ≤ 2 ^ 53 →
      nearest (JsonNumber.ofInt value) = some (JsonNumber.ofInt value))
    (accepted : AcceptedResult nearest (.obj members))
    (digest : isHexDigest (sha256Hex (canonicalJsonStringify (.obj members))) = true) :
    receiveOutcome nearest admits remediationDescriptor (resultReport (.obj members)).body =
      if admits (printed insertionOrder (resultReport (.obj members)).json) then
        some (receivedReport (.obj members) members)
      else none := by
  obtain ⟨-, distinct, whole, within, text, parsed⟩ := accepted
  have exact : exactNumbers nearest (.obj members) = true := jsonParse_exact rounded parsed
  have limit : DEFAULT_MAX_MCP_RESULT_BYTES = 1048576 := rfl
  have count := byteCount_eq (.obj members)
  have counted : nearest (JsonNumber.ofInt (resultDeliveryForMcpResult (.obj members)).byteCount) =
      some (JsonNumber.ofInt (resultDeliveryForMcpResult (.obj members)).byteCount) :=
    integers _ (by omega)
  have small : (resultDeliveryForMcpResult (.obj members)).byteCount ≤ 16 * 1024 * 1024 := by
    omega
  have hash : isHexDigest (resultDeliveryForMcpResult (.obj members)).canonicalResultHash = true :=
    digest
  rw [resultReport_eq, receiveOutcome, jsonParse_body distinct exact counted]
  split
  · rename_i admitted
    rw [Option.filter_some, if_pos admitted, Option.bind_some,
      readOutcomeInput_json small hash rfl whole]
    rfl
  · rename_i refused
    rw [Option.filter_some, if_neg refused]
    rfl

theorem reportsResult_of_checked {result : Json} {members : JsonObject} {classified : Bool}
    {report : CheckedReport} (shown : result = .obj members)
    (small : jsonBytes result < 10 ^ 21)
    (digest : isHexDigest (sha256Hex (canonicalJsonStringify result)) = true)
    (checked : checkReport classified (receivedReport result members) = .ok report) :
    ReportsResult result report := by
  have size : jsonBytes (.obj (resultDeliveryForMcpResult result).received.members) =
      evidenceBytes result := jsonBytes_delivery small digest
  by_cases failed : isErrorResult result = true
  · have reported : resultReport result = _ := if_pos failed
    obtain ⟨kept, delivered⟩ := checkReport_reported (by rw [receivedReport, reported]; rfl) checked
    exact
      { shown := ⟨members, shown, by rw [kept]; rfl⟩
        delivery := ⟨_, delivered, rfl, size⟩
        remediation := by rw [kept]; rfl
        reported := by
          rw [if_pos failed, kept, receivedReport, reported]
          exact ⟨rfl, _, rfl, errorText_bytes _⟩ }
  · have reported : resultReport result = _ := if_neg failed
    obtain ⟨kept, delivered⟩ := checkReport_reported (by rw [receivedReport, reported]; rfl) checked
    exact
      { shown := ⟨members, shown, by rw [kept]; rfl⟩
        delivery := ⟨_, delivered, rfl, size⟩
        remediation := by rw [kept]; rfl
        reported := by
          rw [if_neg failed, kept, receivedReport, reported]
          rfl }

/-! ### Results of one text -/

theorem jsonBytes_lt_body (result : Json) :
    jsonBytes result < (resultReport result).body.utf8ByteSize := by
  have listed : ("result", some result) ∈
      [("error", (resultReport result).error.map .str), ("result", some result),
        ("resultDelivery", some (resultDeliveryForMcpResult result).json),
        ("status", some (.str (resultReport result).status.text))] :=
    List.mem_cons_of_mem _ List.mem_cons_self
  have longer := jsonBytes_lt_of_mem listed
  rw [OutcomeReport.body, utf8ByteSize_text, resultReport_eq]
  exact longer

end

/-- A result of one text. -/
def textResult (text : String) : JsValue some :=
  .obj true false [("content", .arr false
    [some (.obj true false [("type", .str "text"), ("text", .str text)])])]

def textMembers (text : String) : JsonObject :=
  [("content", some (.arr [.obj [("type", some (.str "text")), ("text", some (.str text))]]))]

theorem jsonBytes_textMembers (text : String) :
    jsonBytes (.obj (textMembers text)) = charsBytes text.toList + 39 := by
  have keys : [quotedBytes "content", quotedBytes "text", quotedBytes "type"] = [9, 6, 6] := by
    decide
  simp only [List.cons.injEq] at keys
  rw [textMembers, jsonBytes_obj_some, membersBytes_some, membersBytes_nil, jsonBytes, itemSizes,
    itemSizes, bracketed, jsonBytes_obj_some, membersBytes_some, membersBytes_some,
    membersBytes_nil, jsonBytes, jsonBytes, keys.1, keys.2.1, keys.2.2.1, quotedBytes]
  simp only [List.sum_nil, List.length_nil]
  omega

theorem textResult_normalized {text : String} (short : charsBytes text.toList + 39 ≤ 1048576) :
    normalizedResultOf (textResult text) = .ok (.obj (textMembers text)) := by
  have parsed : jsonParse some (String.ofList (textWith insertionOrder (.obj (textMembers text)))) =
      some (.obj (textMembers text)) :=
    jsonParse_printed insertionOrder rfl rfl
  have within : assertJsonWithinLimit (.obj (textMembers text)) DEFAULT_MAX_MCP_RESULT_BYTES
      "MCP tool result" = .ok () := by
    apply if_neg
    rw [byteLength_textWith, jsonBytes_textMembers]
    exact Nat.not_lt.mpr short
  have valid : validateMcpCallResult (some (.obj (textMembers text))) =
      .ok (.obj (textMembers text)) := by
    have items : [Json.obj [("type", some (.str "text")), ("text", some (.str text))]].forM
        validateContentItem = .ok () := rfl
    show (do
      [Json.obj [("type", some (.str "text")), ("text", some (.str text))]].forM
        validateContentItem
      assertJsonWithinLimit (.obj (textMembers text)) DEFAULT_MAX_MCP_RESULT_BYTES
        "MCP tool result"
      return Json.obj (textMembers text)) = Except.ok (Json.obj (textMembers text))
    rw [items, within]
    rfl
  have normalized : normalizeMcpCallResult some (.obj (textMembers text)) =
      .ok (.obj (textMembers text)) := by
    unfold normalizeMcpCallResult
    rw [parsed]
    exact valid
  have printedAs : stringified (textResult text) = .ok (some (.obj (textMembers text))) := rfl
  unfold normalizedResultOf
  rw [printedAs]
  dsimp only [bind, Except.bind]
  exact normalized

/-- A text of so many letters. -/
def letters (count : Nat) : String := String.ofList (List.replicate count 'a')

theorem jsonBytes_letters (count : Nat) :
    jsonBytes (.obj (textMembers (letters count))) = count + 39 := by
  rw [jsonBytes_textMembers, letters, String.toList_ofList, charsBytes_replicate]
  exact congrArg (· + 39) (Nat.mul_one count)

theorem limit_accepted {count : Nat} (limit : count + 39 = BODY_LIMIT) :
    normalizedResultOf (textResult (letters count)) = .ok (.obj (textMembers (letters count))) ∧
      ∀ runtime : Runtime, BODY_LIMIT <
        (@resultReport runtime (.obj (textMembers (letters count)))).body.utf8ByteSize := by
  have size := jsonBytes_letters count
  rw [limit] at size
  refine ⟨textResult_normalized ?_, fun runtime => ?_⟩
  · rw [← jsonBytes_textMembers, size]
    exact Nat.le_refl 1048576
  · have longer := @jsonBytes_lt_body runtime (.obj (textMembers (letters count)))
    rw [size] at longer
    exact longer

/-! ### The limits -/

/-- The request that reports a result is within the limit of the server, and its answer
within that of the gateway. -/
structure WithinLimits (request response : String) : Prop where
  request : request.utf8ByteSize ≤ BODY_LIMIT
  response : response.utf8ByteSize ≤ DEFAULT_MAX_HTTP_RESPONSE_BYTES

section

variable [Runtime] {nearest : JsonNumber → Option JsonNumber}

/-- An accepted result is reported within the limits exactly when the result, its error
text and its evidence fit the request, and its copies beside what is stored fit the
answer. -/
theorem outcome_within_limits_iff {admits : Json → Bool}
    {remediationDescriptor : Json → Option JsonObject} {result : JsValue nearest}
    {normalized : Json} {input : ReportExecutionGrantOutcomeInput} {service : ReportService}
    {grantId : String} {auth : AuthContext} {wrapperSessionId : Option String}
    {state after : ReportingServer} {records : ReportedRecords} {recorded : RecordedOutcome}
    (rounded : ∀ exact number, nearest exact = some number → nearest number = some number)
    (integers : ∀ value : Nat, value ≤ 2 ^ 53 →
      nearest (JsonNumber.ofInt value) = some (JsonNumber.ofInt value))
    (accepted : normalizedResultOf result = .ok normalized)
    (digest : isHexDigest (sha256Hex (canonicalJsonStringify normalized)) = true)
    (received : receiveOutcome nearest admits remediationDescriptor
      (resultReport normalized).body = some input)
    (read : ReadFrom state.calls.server.store grantId records)
    (answered : (reportOutcome service grantId input auth
      { nativeExecutionAuthorization := none
        wrapperSessionId := wrapperSessionId }).alone state = (.ok recorded, after)) :
    WithinLimits (resultReport normalized).body (outcomeResponse records.grant recorded) ↔
      requestBytes normalized ≤ 1048576 ∧ responseBytes normalized auth state records ≤ 1048576 := by
  have accepted := accepted_of_normalized accepted
  obtain ⟨members, rfl⟩ := accepted.shown
  have limit : DEFAULT_MAX_MCP_RESULT_BYTES = 1048576 := rfl
  have within := accepted.within
  have request := body_bytes (by omega) digest
  have same : input = receivedReport (.obj members) members := by
    rw [receiveOutcome_resultReport rounded integers accepted digest] at received
    split at received
    · exact (Option.some.inj received).symm
    · cases received
  subst same
  obtain ⟨report, checked, answers⟩ :=
    (yields_reportOutcome service grantId _ auth _ rfl read).alone answered
  have reports := reportsResult_of_checked rfl (by omega) digest checked
  have response := response_bytes reports answers
  constructor
  · rintro ⟨sent, returned⟩
    rw [request] at sent
    rw [response] at returned
    exact ⟨sent, returned⟩
  · rintro ⟨sent, returned⟩
    rw [← request] at sent
    rw [← response] at returned
    exact ⟨sent, returned⟩

end

private abbrev noteRuntime : Runtime :=
  sampleRuntime
    [searchDigest,
      ("\x7b\"content\":[\x7b\"text\":\"ok\",\"type\":\"text\"\x7d]\x7d",
        "5da2660633eed145df0a358b71a57d423757b827763db7172ca41dcbbcb8a2b2")]

private theorem note_scope : @deriveInfluenceScopeId noteRuntime searchBinding =
    .ok searchScope := by
  decide +kernel

private theorem note_digest : isHexDigest (@sha256Hex noteRuntime
    (canonicalJsonStringify (.obj (textMembers "ok")))) = true := by
  decide +kernel

/-- The report of a short text on the search. -/
private def noteReport [Runtime] : ReportExecutionGrantOutcomeInput :=
  receivedReport (.obj (textMembers "ok")) (textMembers "ok")

private def noteChecked [Runtime] : CheckedReport :=
  { input := noteReport
    resultDelivery := noteReport.resultDelivery }

private theorem note_checked [Runtime] :
    checkReport (classifiedMcpOutcome searchContinuation searchCall) noteReport =
      .ok noteChecked := by
  have delivered : validateResultDelivery noteReport = .ok noteReport.resultDelivery := by
    rw [validateResultDelivery_eq rfl rfl, if_pos ⟨rfl, rfl⟩]
  exact checkReport_succeeded rfl delivered rfl

/-- The search is reported with a short text. -/
theorem outcome_within_limits_iff_note : ∃ recorded,
    (WithinLimits (@resultReport noteRuntime (.obj (textMembers "ok"))).body
        (@outcomeResponse noteRuntime (@searchRecords noteRuntime).grant recorded) ↔
      requestBytes (.obj (textMembers "ok")) ≤ 1048576 ∧
        @responseBytes noteRuntime (.obj (textMembers "ok")) wrapperAuth
          (@searchServer noteRuntime) (@searchRecords noteRuntime) ≤ 1048576) := by
  let _ := noteRuntime
  have short : charsBytes "ok".toList + 39 ≤ 1048576 := by
    decide
  have received : receiveOutcome some (fun _ => true) (fun _ => none)
      (resultReport (.obj (textMembers "ok"))).body = some noteReport := by
    have accepted := accepted_of_normalized (textResult_normalized short)
    rw [receiveOutcome_resultReport (fun _ _ _ => rfl) (fun _ _ => rfl) accepted note_digest]
    exact if_pos rfl
  have reads := reportOutcome_reads search_read (search_passes note_scope note_checked)
  have ended : ((recordAndDeliver noteChecked wrapperAuth searchRecords).alone
      searchServer).1.isOk = true := by
    decide +kernel
  obtain ⟨answer, after, recorded⟩ := Prog.alone_ok ended
  exact ⟨answer, outcome_within_limits_iff (fun _ _ _ => rfl) (fun _ _ => rfl)
    (textResult_normalized short) note_digest received search_read
    ((reads.alone rfl).trans recorded)⟩

/-- A result at the limit of its own size is accepted, and no server reads the request that
reports it. -/
theorem accepted_result_exceeds_body_limit :
    normalizedResultOf (textResult (letters 1048537)) = .ok (.obj (textMembers (letters 1048537))) ∧
      ∀ runtime : Runtime, BODY_LIMIT <
        (@resultReport runtime (.obj (textMembers (letters 1048537)))).body.utf8ByteSize :=
  limit_accepted rfl

end ActionProxy.Wrapper
