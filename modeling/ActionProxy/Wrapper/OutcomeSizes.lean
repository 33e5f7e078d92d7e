import ActionProxy.Wrapper.OutcomeExchange

/-!
The sizes of what is sent about a result, counted on what it is made of: the body of the
outcome request holds the result once and the texts of an error result again, the answer
holds it in the receipt and in the tool call.
-/

namespace ActionProxy

open JsonText

/-! ### Redacted values -/

section

variable [Runtime] (redactedPaths : List String) (replacement : String)

mutual

/-- The bytes of a value after redaction below a path. -/
def maskedBytes (path : List String) : Json → Nat
  | .arr items => bracketed (maskedItems path 0 items)
  | .obj members => bracketed (maskedMembers path members)
  | value => jsonBytes value

def maskedItems (path : List String) (index : Nat) : List Json → List Nat
  | [] => []
  | item :: rest => maskedBytes (path ++ [toString index]) item :: maskedItems path (index + 1) rest

/-- A member that is masked counts the replacement. -/
def maskedMembers (path : List String) : List (String × Option Json) → List Nat
  | [] => []
  | (key, value) :: rest =>
      let others := maskedMembers path rest
      if key = "__proto__" then others
      else if shouldRedact key (path ++ [key]) redactedPaths then
        (quotedBytes key + 1 + quotedBytes replacement) :: others
      else
        match value with
        | none => others
        | some value => (quotedBytes key + 1 + maskedBytes (path ++ [key]) value) :: others

end

variable {redactedPaths replacement}

theorem itemSizes_redactItems (path : List String) (index : Nat) {items : List Json}
    (each : ∀ item ∈ items, ∀ path, jsonBytes (redactValue redactedPaths replacement path item) =
      maskedBytes redactedPaths replacement path item) :
    itemSizes (redactItems redactedPaths replacement path index items) =
      maskedItems redactedPaths replacement path index items := by
  induction items generalizing index with
  | nil => rfl
  | cons item rest ih =>
      rw [redactItems, itemSizes, maskedItems, each item List.mem_cons_self,
        ih (index + 1) fun other listed => each other (List.mem_cons_of_mem _ listed)]

theorem memberSizes_redactMembers (path : List String) {members : List (String × Option Json)}
    (each : ∀ member ∈ definedMembers members, ∀ path,
      jsonBytes (redactValue redactedPaths replacement path member.2) =
        maskedBytes redactedPaths replacement path member.2) :
    memberSizes (redactMembers redactedPaths replacement path members) =
      maskedMembers redactedPaths replacement path members := by
  induction members with
  | nil => rfl
  | cons member rest ih =>
      obtain ⟨key, value⟩ := member
      have later : memberSizes (redactMembers redactedPaths replacement path rest) =
          maskedMembers redactedPaths replacement path rest := by
        apply ih
        intro other listed
        apply each other
        cases value with
        | none => exact listed
        | some value => exact List.mem_cons_of_mem _ listed
      rw [redactMembers.eq_def, maskedMembers.eq_def]
      dsimp only
      split
      · exact later
      split
      · rw [memberSizes, later, jsonBytes]
      · cases value with
        | none => exact later
        | some value =>
            dsimp only
            rw [memberSizes, later, each (key, value) List.mem_cons_self]

theorem jsonBytes_redactValue (value : Json) (path : List String) :
    jsonBytes (redactValue redactedPaths replacement path value) =
      maskedBytes redactedPaths replacement path value := by
  induction value using treeInduction generalizing path with
  | null => rfl
  | bool value => rfl
  | num number => rfl
  | str text => rfl
  | arr items ih =>
      rw [redactValue, jsonBytes, maskedBytes, itemSizes_redactItems path 0 ih]
  | obj members ih =>
      rw [redactValue, jsonBytes, maskedBytes, memberSizes_redactMembers path ih]

end

end ActionProxy

namespace ActionProxy.Wrapper

open JsonText

/-! ### The request -/

theorem escapedBytes_hex {char : Char}
    (shown : (char.isDigit || ('a' ≤ char && char ≤ 'f')) = true) : escapedBytes char = 1 := by
  have plain : ¬ (char = '"' ∨ char = '\\' ∨ char = '\x08' ∨ char = '\t' ∨ char = '\n' ∨
      char = '\x0c' ∨ char = '\r') := by
    rintro (rfl | rfl | rfl | rfl | rfl | rfl | rfl) <;> revert shown <;> decide
  have range : 48 ≤ char.toNat ∧ char.toNat ≤ 102 := by
    simp only [Char.isDigit, Bool.or_eq_true, Bool.and_eq_true, decide_eq_true_eq, Char.le_def,
      UInt32.le_iff_toNat_le] at shown
    rcases shown with ⟨low, high⟩ | ⟨low, high⟩
    · exact ⟨low, le_trans high (by decide)⟩
    · exact ⟨le_trans (by decide) low, high⟩
  have small : char.val ≤ UInt32.ofNatLT 127 (by decide) := by
    rw [UInt32.le_iff_toNat_le]
    exact le_trans range.2 (by decide)
  rw [escapedBytes, if_neg plain, if_neg (by omega)]
  exact if_pos small

theorem quotedBytes_hexDigest {text : String} (digest : isHexDigest text = true) :
    quotedBytes text = 66 := by
  obtain ⟨length, hex⟩ := Bool.and_eq_true_iff.mp digest
  have each : ∀ char ∈ text.toList, escapedBytes char = 1 := by
    intro char listed
    exact escapedBytes_hex (List.all_eq_true.mp hex char listed)
  have total : charsBytes text.toList = text.toList.length := by
    rw [charsBytes, List.map_congr_left each, List.map_const', List.sum_replicate, smul_eq_mul,
      Nat.mul_one]
  rw [quotedBytes, total, beq_iff_eq.mp length]

/-- Whether a result is reported as failed. -/
def isErrorResult (result : Json) : Bool := truthy (field? result "isError")

/-- The texts of a result. -/
def resultTexts (result : Json) : List String :=
  match field? result "content" with
  | some (.arr items) => items.filterMap textOfItem
  | _ => []

/-- The bytes of the error text of a result: its texts, with two bytes for each line feed
between them. -/
def errorBytes (result : Json) : Nat :=
  match resultTexts result with
  | [] => 47
  | text :: texts =>
      ((text :: texts).map fun text => charsBytes text.toList).sum + 2 * texts.length + 2

/-- The bytes of the evidence of a result. -/
def evidenceBytes (result : Json) : Nat := 166 + (Nat.toDigits 10 (jsonBytes result)).length

/-- The bytes of the request that reports a result. -/
def requestBytes (result : Json) : Nat :=
  if isErrorResult result then jsonBytes result + errorBytes result + evidenceBytes result + 56
  else jsonBytes result + evidenceBytes result + 50

section

variable [Runtime]

theorem byteCount_eq (result : Json) :
    (resultDeliveryForMcpResult result).byteCount = jsonBytes result := by
  change Utf8Stream.byteLength (canonicalJsonStringify result).toList = jsonBytes result
  rw [canonicalJsonStringify, String.toList_ofList, canonicalText_eq, byteLength_textWith]

theorem jsonBytes_delivery {result : Json} (small : jsonBytes result < 10 ^ 21)
    (digest : isHexDigest (sha256Hex (canonicalJsonStringify result)) = true) :
    jsonBytes (resultDeliveryForMcpResult result).json = evidenceBytes result := by
  have digits : jsonBytes (.num (JsonNumber.ofInt (resultDeliveryForMcpResult result).byteCount)) =
      (Nat.toDigits 10 (jsonBytes result)).length := by
    rw [byteCount_eq, jsonBytes, text_ofNat small]
  have hash : jsonBytes (.str (resultDeliveryForMcpResult result).canonicalResultHash) = 66 :=
    quotedBytes_hexDigest digest
  have visible : jsonBytes (.bool (resultDeliveryForMcpResult result).modelVisible) = 4 := rfl
  have version : jsonBytes (.str (resultDeliveryForMcpResult result).version) = 32 := by
    show jsonBytes (.str "actionproxy.result-delivery.v1") = 32
    decide
  have keys : [quotedBytes "byteCount", quotedBytes "canonicalResultHash",
      quotedBytes "modelVisible", quotedBytes "version"] = [11, 21, 14, 9] := by decide
  simp only [List.cons.injEq] at keys
  rw [ResultDelivery.json, jsonBytes_obj_some]
  simp only [membersBytes_some, membersBytes_nil, digits, hash, visible, version, keys,
    evidenceBytes]
  omega

omit [Runtime] in
theorem textFromMcpResult_eq (result : Json) :
    textFromMcpResult result = match resultTexts result with
      | [] => none
      | texts => some (String.intercalate "\n" texts) := by
  unfold textFromMcpResult resultTexts
  cases field? result "content" with
  | none => rfl
  | some value => cases value <;> rfl

omit [Runtime] in
theorem errorText_bytes (result : Json) :
    quotedBytes ((textFromMcpResult result).getD
      "Downstream MCP tool returned an error result.") = errorBytes result := by
  rw [textFromMcpResult_eq, errorBytes]
  cases resultTexts result with
  | nil => decide
  | cons text texts => exact quotedBytes_lines text texts

theorem body_bytes {result : Json} (small : jsonBytes result < 10 ^ 21)
    (digest : isHexDigest (sha256Hex (canonicalJsonStringify result)) = true) :
    (resultReport result).body.utf8ByteSize = requestBytes result := by
  have evidence := jsonBytes_delivery small digest
  have keys : [quotedBytes "error", quotedBytes "result", quotedBytes "resultDelivery",
      quotedBytes "status"] = [7, 8, 16, 8] := by decide
  have statuses : [jsonBytes (.str OutcomeStatus.failed.text),
      jsonBytes (.str OutcomeStatus.succeeded.text)] = [8, 11] := by decide
  simp only [List.cons.injEq] at keys statuses
  rw [OutcomeReport.body, utf8ByteSize_text, OutcomeReport.json, resultReport, requestBytes,
    isErrorResult]
  split
  · have error : jsonBytes (.str ((textFromMcpResult result).getD
        "Downstream MCP tool returned an error result.")) = errorBytes result :=
      errorText_bytes result
    simp only [Option.map_some, jsonBytes_obj_some, membersBytes_some, membersBytes_nil, evidence,
      keys, statuses, error]
    omega
  · simp only [Option.map_some, Option.map_none, jsonBytes_obj_none, jsonBytes_obj_some,
      membersBytes_some, membersBytes_nil, evidence, keys, statuses]
    omega

/-! ### The answer -/

/-- The members of a tool call that its outcome changes. -/
def outcomeMembers : List String :=
  ["error", "result", "resultDelivery", "resultWithheld", "status", "updatedAt"]

/-- The bytes of a stored result as the route shows it. -/
def shownResultBytes (result : Json) : Nat :=
  match result with
  | .obj members => bracketed (maskedMembers toolCallResultAuthorizationPaths redactedText [] members)
  | other => jsonBytes other

/-- The values of those members, as the route shows them. -/
def outcomeSizes (toolCall : ToolCallRecord) : List (String × Option Nat) :=
  [("status", some (quotedBytes toolCall.status.text)),
    ("resultDelivery", toolCall.resultDelivery.map fun delivery => jsonBytes (.obj delivery)),
    ("resultWithheld", toolCall.resultWithheld.map fun withheld => jsonBytes (.bool withheld)),
    ("result", toolCall.result.map shownResultBytes),
    ("error", toolCall.error.map quotedBytes),
    ("updatedAt", some (quotedBytes toolCall.updatedAt))]

theorem jsonBytes_reportedResult (toolCall : ToolCallRecord) :
    (reportedToolCall toolCall).result.map jsonBytes = toolCall.result.map shownResultBytes := by
  have paths : pathSet ((none : Option (List String)).getD [] ++
      toolCallResultAuthorizationPaths).dedup = toolCallResultAuthorizationPaths := by decide
  have object : ∀ members : JsonObject, jsonBytes (.obj (redactToolCallResult members
      { fields := none, replacement := none })) = shownResultBytes (.obj members) := by
    intro members
    have masked : jsonBytes
        (redactValue toolCallResultAuthorizationPaths redactedText [] (.obj members)) =
          shownResultBytes (.obj members) := jsonBytes_redactValue _ _
    rw [redactToolCallResult, redactJsonObject, redactJsonObjectAtPath]
    change jsonBytes (.obj (redactMembers (pathSet ((none : Option (List String)).getD [] ++
      toolCallResultAuthorizationPaths).dedup) redactedText [] members)) = _
    rw [paths]
    exact masked
  unfold reportedToolCall
  cases toolCall.result with
  | none => rfl
  | some result =>
      cases result with
      | obj members => exact congrArg some (object members)
      | _ => rfl

theorem jsonBytes_reportedToolCall (toolCall : ToolCallRecord) :
    jsonBytes (reportedToolCall toolCall).json =
      membersBytes (withoutMembers outcomeMembers toolCall.members) +
        sizedBytes (outcomeSizes toolCall) + 1 := by
  have object : jsonBytes (reportedToolCall toolCall).json =
      membersBytes (reportedToolCall toolCall).members + 1 := jsonBytes_obj_some _ _ _
  have kept : (reportedToolCall toolCall).members.filter
      (fun member => !outcomeMembers.contains member.1) =
        withoutMembers outcomeMembers toolCall.members := rfl
  have changed : (reportedToolCall toolCall).members.filter
      (fun member => !(!outcomeMembers.contains member.1)) =
        [("status", some (.str toolCall.status.text)),
          ("resultDelivery", toolCall.resultDelivery.map .obj),
          ("resultWithheld", toolCall.resultWithheld.map .bool),
          ("result", (reportedToolCall toolCall).result),
          ("error", toolCall.error.map .str),
          ("updatedAt", some (.str toolCall.updatedAt))] := rfl
  rw [object, membersBytes_filter fun member => !outcomeMembers.contains member.1, kept, changed,
    membersBytes_eq_sized [_, _, _, _, _, _]]
  simp only [List.map_cons, List.map_nil, Option.map_map, Option.map_some,
    jsonBytes_reportedResult]
  rfl

/-- The bytes of a receipt as the route shows it, with an outcome of the given bytes. -/
def receiptSize (receipt : ActionReceiptRecord) (outcome : Option Nat) : Nat :=
  membersBytes (withoutMembers ["signature"] receipt.membersWithoutOutcome) +
    sizedBytes [("outcome", outcome), ("signature", some (quotedBytes redactedText))] + 1

omit [Runtime] in
theorem jsonBytes_redactReceiptSignature (receipt : ActionReceiptRecord) :
    jsonBytes (redactReceiptSignature receipt).json =
      receiptSize receipt (receipt.outcome.map fun outcome => jsonBytes outcome.json) := by
  have kept : (redactReceiptSignature receipt).membersWithoutOutcome.filter
      (fun member => !(["signature"].contains member.1)) =
        withoutMembers ["signature"] receipt.membersWithoutOutcome := rfl
  have changed : (redactReceiptSignature receipt).membersWithoutOutcome.filter
      (fun member => !(!(["signature"].contains member.1))) =
        [("signature", some (.str redactedText))] := rfl
  have listed : ("signature", some (.str redactedText)) ∈
      ("outcome", (redactReceiptSignature receipt).outcome.map ActionReceiptOutcome.json) ::
        (redactReceiptSignature receipt).membersWithoutOutcome := by
    apply List.mem_cons_of_mem
    exact List.mem_of_mem_filter (changed ▸ List.mem_singleton_self _)
  rw [ActionReceiptRecord.json, jsonBytes_obj_of_mem listed, ← List.singleton_append,
    membersBytes_append, membersBytes_filter (fun member => !(["signature"].contains member.1))
      (redactReceiptSignature receipt).membersWithoutOutcome, kept, changed]
  have outcome : membersBytes [("outcome", (redactReceiptSignature receipt).outcome.map
        ActionReceiptOutcome.json)] + membersBytes [("signature", some (.str redactedText))] =
      sizedBytes [("outcome", receipt.outcome.map fun outcome => jsonBytes outcome.json),
        ("signature", some (quotedBytes redactedText))] := by
    rw [← membersBytes_append, membersBytes_eq_sized]
    simp only [List.map_cons, List.map_nil, List.cons_append, List.nil_append, Option.map_map,
      Option.map_some]
    rfl
  rw [receiptSize, ← outcome]
  omega

/-! ### The answer to the report of a result -/

/-- The bytes of the outcome of a receipt that is reported with a result. -/
def reportedOutcomeBytes (auth : AuthContext) (recordedAt : String) (result : Json) : Nat :=
  sizedBytes
    [("auth", some (jsonBytes auth.json)),
      ("error", if isErrorResult result then some (errorBytes result) else none),
      ("recordedAt", some (quotedBytes recordedAt)),
      ("recordedBy", some (quotedBytes (auth.email.getD auth.principalId))),
      ("result", if isErrorResult result then none else some (jsonBytes result)),
      ("resultDelivery", some (evidenceBytes result)),
      ("status", some (if isErrorResult result then 8 else 11))] + 1

/-- The bytes of a stored receipt in the answer: an outcome it has already stays. -/
def receiptBytes (auth : AuthContext) (recordedAt : String) (result : Json)
    (receipt : ActionReceiptRecord) : Nat :=
  receiptSize receipt (some (match receipt.outcome with
    | some outcome => jsonBytes outcome.json
    | none => reportedOutcomeBytes auth recordedAt result))

/-- The members of a stored result beside the outcome of the execution. -/
def storedResultMembers (stored : Option Json) : JsonObject :=
  match stored with
  | some (.obj members) => withoutMembers ["externalExecutionOutcome"] members
  | _ => []

/-- What the outcome changes of a tool call that becomes terminal with it. -/
def terminalSizes (result : Json) (toolCall : ToolCallRecord) (recordedAt releasedAt : String) :
    List (String × Option Nat) :=
  [("status", some (if isErrorResult result then 8 else 10)),
    ("resultDelivery", some (evidenceBytes result)),
    ("resultWithheld", some 5),
    ("result",
      if isErrorResult result then toolCall.result.map shownResultBytes
      else some (shownResultBytes (.obj (storedResultMembers toolCall.result ++
        [("externalExecutionOutcome", some result)])))),
    ("error", if isErrorResult result then some (errorBytes result) else none),
    ("updatedAt",
      some (quotedBytes (if resultClassified toolCall then releasedAt else recordedAt)))]

/-- The bytes of the tool call in the answer. -/
def toolCallBytes (result : Json) (toolCall : ToolCallRecord) (dispatched : Bool)
    (recordedAt releasedAt : String) : Nat :=
  membersBytes (withoutMembers outcomeMembers toolCall.members) +
    sizedBytes
      (if !dispatched && toolCall.status != .authorized then
        outcomeSizes (releasedToolCall (resultClassified toolCall) releasedAt toolCall)
      else terminalSizes result toolCall recordedAt releasedAt) + 1

/-- The bytes of the answer to the report of a result, on what is stored when it comes. -/
def responseBytes (result : Json) (auth : AuthContext) (state : ReportingServer)
    (records : ReportedRecords) : Nat :=
  let recordedAt := records.recordedAt state.calls.server.clock
  let store := state.calls.server.store
  sizedBytes
    [("grant", some (jsonBytes (grantAnswer records.grant))),
      ("ok", some 4),
      ("receipt", (store.receiptOf records).map (receiptBytes auth recordedAt result)),
      ("toolCall", some (toolCallBytes result records.toolCall
        (store.isDispatched records.attempt) recordedAt state.calls.server.clock.text))] + 1

/-- The report of a result as the server checks it. -/
structure ReportsResult (result : Json) (report : CheckedReport) : Prop where
  shown : ∃ members, result = .obj members ∧ report.input.result = some members
  delivery : ∃ delivery, report.resultDelivery = some delivery ∧ delivery.modelVisible = true ∧
    jsonBytes (.obj delivery.members) = evidenceBytes result
  remediation : report.input.remediation = none
  reported : if isErrorResult result then report.input.status = .failed ∧
      ∃ error, report.input.error = some error ∧ quotedBytes error = errorBytes result
    else report.input.status = .succeeded

omit [Runtime] in
theorem jsonBytes_receiptOutcome {result : Json} {report : CheckedReport}
    (reports : ReportsResult result report) (auth : AuthContext) (recordedAt : String) :
    jsonBytes (report.receiptOutcome auth recordedAt).json =
      reportedOutcomeBytes auth recordedAt result := by
  obtain ⟨⟨members, rfl, shown⟩, ⟨delivery, delivered, -, size⟩, remediation, reported⟩ := reports
  have object : jsonBytes (report.receiptOutcome auth recordedAt).json =
      membersBytes (report.receiptOutcome auth recordedAt).members + 1 :=
    jsonBytes_obj_some _ _ _
  have statuses : [jsonBytes (.str ReceiptOutcomeStatus.failed.text),
      jsonBytes (.str ReceiptOutcomeStatus.succeeded.text)] = [8, 11] := by decide
  simp only [List.cons.injEq] at statuses
  rw [object, membersBytes_eq_sized, reportedOutcomeBytes]
  split at reported
  · rename_i failed
    obtain ⟨status, error, given, bytes⟩ := reported
    have text : jsonBytes (.str error) = errorBytes (.obj members) := bytes
    have outcome : (report.receiptOutcome auth recordedAt).members =
        [("auth", some auth.json), ("error", some (.str error)),
          ("recordedAt", some (.str recordedAt)),
          ("recordedBy", some (.str (auth.email.getD auth.principalId))), ("remediation", none),
          ("result", none), ("resultDelivery", some (.obj delivery.members)),
          ("status", some (.str ReceiptOutcomeStatus.failed.text))] := by
      simp [ActionReceiptOutcome.members, CheckedReport.receiptOutcome, legacyOutcomeForReport,
        ReportExecutionGrantOutcomeInput.succeededRemediation,
        ReportExecutionGrantOutcomeInput.succeededResult, status, given, delivered]
    rw [outcome]
    simp only [List.map_cons, List.map_nil, Option.map_some, Option.map_none, sizedBytes, text,
      size, statuses.1, failed, if_true]
    rfl
  · rename_i succeeded
    have outcome : (report.receiptOutcome auth recordedAt).members =
        [("auth", some auth.json), ("error", none), ("recordedAt", some (.str recordedAt)),
          ("recordedBy", some (.str (auth.email.getD auth.principalId))), ("remediation", none),
          ("result", some (.obj members)), ("resultDelivery", some (.obj delivery.members)),
          ("status", some (.str ReceiptOutcomeStatus.succeeded.text))] := by
      simp [ActionReceiptOutcome.members, CheckedReport.receiptOutcome, legacyOutcomeForReport,
        ReportExecutionGrantOutcomeInput.succeededRemediation,
        ReportExecutionGrantOutcomeInput.succeededResult, reported, shown, remediation, delivered]
    rw [outcome]
    simp only [List.map_cons, List.map_nil, Option.map_some, Option.map_none, sizedBytes, size,
      statuses.2.1, if_neg succeeded]
    rfl

omit [Runtime] in
theorem jsonBytes_answeredReceipt {result : Json} {report : CheckedReport}
    (reports : ReportsResult result report) (auth : AuthContext) (recordedAt : String)
    (receipt : ActionReceiptRecord) :
    jsonBytes (redactReceiptSignature (answeredReceipt report auth recordedAt receipt)).json =
      receiptBytes auth recordedAt result receipt := by
  rw [jsonBytes_redactReceiptSignature, answeredReceipt, receiptBytes]
  cases outcome : receipt.outcome with
  | some outcome =>
      rw [Option.isSome_some, if_pos rfl]
      rw [outcome]
      rfl
  | none =>
      rw [Option.isSome_none, if_neg Bool.false_ne_true]
      dsimp only [Option.map_some]
      rw [jsonBytes_receiptOutcome reports]
      rfl

omit [Runtime] in
theorem withoutMembers_released (exposed : Bool) (releasedAt : String)
    (toolCall : ToolCallRecord) :
    withoutMembers outcomeMembers (releasedToolCall exposed releasedAt toolCall).members =
      withoutMembers outcomeMembers toolCall.members := by
  unfold releasedToolCall
  split <;> rfl

theorem outcomeSizes_released {result : Json} {report : CheckedReport}
    (reports : ReportsResult result report) (toolCall : ToolCallRecord)
    (recordedAt releasedAt : String) :
    outcomeSizes (releasedToolCall
        (requiresContentExposureBeforeDelivery toolCall report.resultDelivery) releasedAt
        (report.terminalToolCall toolCall recordedAt)) =
      terminalSizes result toolCall recordedAt releasedAt := by
  obtain ⟨⟨members, rfl, shown⟩, ⟨delivery, delivered, visible, size⟩, -, reported⟩ := reports
  have exposed : requiresContentExposureBeforeDelivery toolCall report.resultDelivery =
      resultClassified toolCall := by
    rw [requiresContentExposureBeforeDelivery, delivered, Option.any_some, visible, Bool.true_and]
  have withheld : (report.terminalToolCall toolCall recordedAt).resultWithheld =
      some (resultClassified toolCall) := congrArg some exposed
  have released : releasedToolCall (resultClassified toolCall) releasedAt
      (report.terminalToolCall toolCall recordedAt) =
        { report.terminalToolCall toolCall recordedAt with
          resultWithheld := some false
          updatedAt := if resultClassified toolCall then releasedAt else recordedAt } := by
    rw [releasedToolCall, withheld]
    cases classified : resultClassified toolCall with
    | true => rfl
    | false => simp [CheckedReport.terminalToolCall, exposed, classified]
  rw [exposed, released]
  have statuses : [quotedBytes ToolCallStatus.failed.text,
      quotedBytes ToolCallStatus.executed.text] = [8, 10] := by decide
  simp only [List.cons.injEq] at statuses
  split at reported
  · rename_i failed
    obtain ⟨status, error, given, bytes⟩ := reported
    have terminal : outcomeSizes { report.terminalToolCall toolCall recordedAt with
        resultWithheld := some false
        updatedAt := if resultClassified toolCall then releasedAt else recordedAt } =
      [("status", some (quotedBytes ToolCallStatus.failed.text)),
        ("resultDelivery", some (jsonBytes (.obj delivery.members))), ("resultWithheld", some 5),
        ("result", toolCall.result.map shownResultBytes), ("error", some (quotedBytes error)),
        ("updatedAt",
          some (quotedBytes (if resultClassified toolCall then releasedAt else recordedAt)))] := by
      simp [outcomeSizes, CheckedReport.terminalToolCall, legacyOutcomeForReport,
        ReportExecutionGrantOutcomeInput.succeededResult, status, given, delivered, jsonBytes]
    rw [terminal, size, statuses.1, bytes, terminalSizes]
    simp only [failed, if_true]
  · rename_i succeeded
    have terminal : outcomeSizes { report.terminalToolCall toolCall recordedAt with
        resultWithheld := some false
        updatedAt := if resultClassified toolCall then releasedAt else recordedAt } =
      [("status", some (quotedBytes ToolCallStatus.executed.text)),
        ("resultDelivery", some (jsonBytes (.obj delivery.members))), ("resultWithheld", some 5),
        ("result", some (shownResultBytes (resultWithOutcome toolCall.result members))),
        ("error", none),
        ("updatedAt",
          some (quotedBytes (if resultClassified toolCall then releasedAt else recordedAt)))] := by
      simp [outcomeSizes, CheckedReport.terminalToolCall, legacyOutcomeForReport,
        ReportExecutionGrantOutcomeInput.succeededResult, reported, shown, delivered, jsonBytes]
    rw [terminal, size, statuses.2.1, terminalSizes]
    simp only [if_neg succeeded]
    rfl

theorem jsonBytes_answeredToolCall {result : Json} {report : CheckedReport}
    (reports : ReportsResult result report) (toolCall : ToolCallRecord) (dispatched : Bool)
    (recordedAt releasedAt : String) :
    jsonBytes (reportedToolCall
        (answeredToolCall report toolCall dispatched recordedAt releasedAt)).json =
      toolCallBytes result toolCall dispatched recordedAt releasedAt := by
  obtain ⟨delivery, delivered, visible, _⟩ := reports.delivery
  rw [jsonBytes_reportedToolCall, answeredToolCall, withoutMembers_released, toolCallBytes]
  split
  · rw [requiresContentExposureBeforeDelivery, delivered, Option.any_some, visible, Bool.true_and]
  · rw [outcomeSizes_released reports]
    rfl

theorem response_bytes {result : Json} {report : CheckedReport} {auth : AuthContext}
    {state : ReportingServer} {records : ReportedRecords} {recorded : RecordedOutcome}
    (reports : ReportsResult result report)
    (answers : AnswersFrom state records report auth recorded) :
    (outcomeResponse records.grant recorded).utf8ByteSize =
      responseBytes result auth state records := by
  rw [outcomeResponse, utf8ByteSize_text, outcomeAnswer, jsonBytes_obj_some, membersBytes_eq_sized,
    responseBytes, answers.receipt, answers.toolCall]
  simp only [List.map_cons, List.map_nil, Option.map_some, Option.map_map,
    jsonBytes_answeredToolCall reports]
  have receipts : jsonBytes ∘ (fun receipt => (redactReceiptSignature receipt).json) ∘
      answeredReceipt report auth (records.recordedAt state.calls.server.clock) =
        receiptBytes auth (records.recordedAt state.calls.server.clock) result :=
    funext (jsonBytes_answeredReceipt reports auth _)
  rw [receipts]
  rfl

end

end ActionProxy.Wrapper
