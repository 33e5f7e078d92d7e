import ActionProxy.Contracts.ExecutionAttempt
import ActionProxy.Security.InfluenceScope

/-!
The report of an external execution: the checks on a report, and the outcome of the
attempt, the outcome of the receipt and the terminal tool call that are built of it.
-/

namespace ActionProxy

open JsonText

inductive ReportedStatus where
  | cancelled | failed | succeeded | timedOut | unknownOutcome
  deriving DecidableEq

/-- The bounded evidence of a result that was shown to a model. -/
structure ResultDeliveryMetadataV1 where
  byteCount : Nat
  canonicalResultHash : String
  modelVisible : Bool
  version : String
  deriving DecidableEq

def ResultDeliveryMetadataV1.members (delivery : ResultDeliveryMetadataV1) : JsonObject :=
  [("byteCount", some (.num (JsonNumber.ofInt delivery.byteCount))),
    ("canonicalResultHash", some (.str delivery.canonicalResultHash)),
    ("modelVisible", some (.bool delivery.modelVisible)),
    ("version", some (.str delivery.version))]

structure ReportExecutionGrantOutcomeInput where
  error : Option String
  remediation : Option JsonObject
  result : Option JsonObject
  resultDelivery : Option ResultDeliveryMetadataV1
  status : ReportedStatus

/-- What a report says in the terms of a receipt. -/
structure LegacyOutcome where
  error : Option String
  errorClass : Option String
  errorCode : Option String
  remediation : Option JsonObject
  result : Option JsonObject
  status : ReceiptOutcomeStatus

def attemptStateForReport : ReportedStatus → ExecutionAttemptState
  | .succeeded => .succeeded
  | .failed => .failedAfterDispatch
  | .cancelled => .cancelled
  | .timedOut => .timedOut
  | .unknownOutcome => .unknownOutcome

def staticMcpTransportOutcomeError (status : ReportedStatus) : String :=
  if status = .timedOut then "Downstream MCP transport timed out after dispatch."
  else if status = .cancelled then "Downstream MCP execution was cancelled after dispatch."
  else "Downstream MCP transport failed after dispatch."

/-- `{ ok: true }`. -/
def okResult : JsonObject := [("ok", some (.bool true))]

/-- The result of an execution that is reported as succeeded. -/
def ReportExecutionGrantOutcomeInput.succeededResult (input : ReportExecutionGrantOutcomeInput) :
    Option JsonObject :=
  if input.status = .succeeded then some (input.result.getD okResult) else none

/-- The remediation of an execution that is reported as succeeded. -/
def ReportExecutionGrantOutcomeInput.succeededRemediation
    (input : ReportExecutionGrantOutcomeInput) : Option JsonObject :=
  if input.status = .succeeded then input.remediation else none

/-- The code and the message of a report that gives no error. -/
def reportDefaults : ReportedStatus → String × String
  | .cancelled => ("execution_cancelled", "External execution was cancelled.")
  | .failed => ("external_execution_error", "External execution failed.")
  | .timedOut => ("execution_timeout", "External execution timed out.")
  | .unknownOutcome => ("unknown_execution_outcome", "External execution outcome is unknown.")
  | .succeeded => ("", "")

def legacyOutcomeForReport (input : ReportExecutionGrantOutcomeInput) : LegacyOutcome :=
  if input.status = .succeeded then
    { error := none
      errorClass := none
      errorCode := none
      remediation := input.remediation
      result := some (input.result.getD okResult)
      status := .succeeded }
  else
    { error := some (input.error.getD (reportDefaults input.status).2)
      errorClass := some (reportDefaults input.status).1
      errorCode := some (reportDefaults input.status).1
      remediation := none
      result := none
      status := .failed }

def requiresContentExposureBeforeDelivery (toolCall : ToolCallRecord)
    (delivery : Option ResultDeliveryMetadataV1) : Bool :=
  delivery.any ResultDeliveryMetadataV1.modelVisible && resultClassified toolCall

section

variable [Runtime]

/-! ### Checks on a report -/

def validateResultDelivery (input : ReportExecutionGrantOutcomeInput) :
    Except ServiceError (Option ResultDeliveryMetadataV1) :=
  match input.resultDelivery, input.result with
  | none, _ => .ok none
  | some _, none =>
      .error (.forbidden "Result-delivery evidence requires the exact downstream result.")
  | some delivery, some result =>
      if delivery.byteCount ≠ (canonicalJsonStringify (.obj result)).utf8ByteSize ∨
          delivery.canonicalResultHash ≠ hashCanonicalJson (.obj result) then
        .error (.forbidden
          "Result-delivery evidence does not match the exact downstream result.")
      else .ok (some delivery)

omit [Runtime] in
/-- Whether the transport and not the tool is reported. -/
def ReportedStatus.ofTransport (status : ReportedStatus) : Bool :=
  status == .cancelled || status == .timedOut || status == .unknownOutcome

/-- A report that passed its checks, with the error a classified transport outcome is given
and the delivery evidence. -/
structure CheckedReport where
  input : ReportExecutionGrantOutcomeInput
  resultDelivery : Option ResultDeliveryMetadataV1

/-- The checks on a report; `classified` says that an adapter reports a classified result. -/
def checkReport (classified : Bool) (input : ReportExecutionGrantOutcomeInput) :
    Except ServiceError CheckedReport :=
  if classified && input.status.ofTransport &&
      (input.result.isSome || input.resultDelivery.isSome) then
    .error (.forbidden "MCP transport outcomes cannot include model-visible child content.")
  else
    let input :=
      if classified && input.status.ofTransport then
        { input with error := some (staticMcpTransportOutcomeError input.status) }
      else input
    if classified && input.status == .failed && input.result.isNone then
      .error (.forbidden ("A classified MCP error result requires the exact child result and " ++
        "delivery evidence."))
    else
      match validateResultDelivery input with
      | .error error => .error error
      | .ok resultDelivery =>
          if classified && (input.status == .succeeded || input.result.isSome) &&
              !resultDelivery.any ResultDeliveryMetadataV1.modelVisible then
            .error (.forbidden ("Classified MCP outcomes require model-visible bounded " ++
              "result-delivery evidence."))
          else .ok { input := input, resultDelivery := resultDelivery }

theorem checkReport_succeeded {classified : Bool} {input : ReportExecutionGrantOutcomeInput}
    {delivery : ResultDeliveryMetadataV1} (succeeded : input.status = .succeeded)
    (valid : validateResultDelivery input = .ok (some delivery))
    (visible : delivery.modelVisible = true) :
    checkReport classified input = .ok { input := input, resultDelivery := some delivery } := by
  simp [checkReport, succeeded, ReportedStatus.ofTransport, valid, visible]

theorem checkReport_ok {classified : Bool} {input : ReportExecutionGrantOutcomeInput}
    {report : CheckedReport} (checked : checkReport classified input = .ok report) :
    report.input.status = input.status ∧ report.input.result = input.result := by
  have sent : report.input =
      if classified && input.status.ofTransport then
        { input with error := some (staticMcpTransportOutcomeError input.status) }
      else input := by
    unfold checkReport at checked
    split at checked
    · cases checked
    extract_lets sent at checked
    split at checked
    · cases checked
    split at checked
    · cases checked
    split at checked
    · cases checked
    cases checked
    rfl
  rw [sent]
  split <;> exact ⟨rfl, rfl⟩

/-! ### Comparisons with what is recorded -/

def objectOrNull (value : Option JsonObject) : Json := (value.map .obj).getD .null

def sameLegacyOutcome (existing : ActionReceiptOutcome) (input : LegacyOutcome) : Bool :=
  existing.status == input.status &&
  existing.error == (if input.status = .failed then input.error else none) &&
  stableStringify (objectOrNull existing.remediation) ==
    stableStringify (objectOrNull
      (if input.status = .succeeded then input.remediation else none)) &&
  stableStringify (objectOrNull existing.result) ==
    stableStringify (objectOrNull
      (if input.status = .succeeded then some (input.result.getD okResult) else none))

/-- The outcome of a receipt is another one than the report's. -/
def outcomeConflicts (existing : Option ActionReceiptOutcome) (report : CheckedReport) : Bool :=
  existing.any fun existing =>
    !sameLegacyOutcome existing (legacyOutcomeForReport report.input) ||
      stableStringify (objectOrNull existing.resultDelivery) !=
        stableStringify
          (objectOrNull (report.resultDelivery.map ResultDeliveryMetadataV1.members))

omit [Runtime] in
def sameAttemptOutcome (attempt : ExecutionAttemptRecordV1)
    (candidate : ExecutionAttemptOutcomeV1) : Bool :=
  attempt.state == candidate.status &&
  attempt.outcome.any fun outcome =>
    outcome.status == candidate.status &&
    outcome.known == candidate.known &&
    outcome.errorClass == candidate.errorClass &&
    outcome.errorCode == candidate.errorCode &&
    outcome.errorMessage == candidate.errorMessage &&
    outcome.remediationHash == candidate.remediationHash &&
    outcome.resultDeliveryHash == candidate.resultDeliveryHash &&
    outcome.resultHash == candidate.resultHash &&
    outcome.retryDisposition == candidate.retryDisposition

/-! ### Candidates -/

/-- `normalizedOutcome`. -/
def CheckedReport.attemptOutcome (report : CheckedReport) (now : String) :
    ExecutionAttemptOutcomeV1 :=
  let legacy := legacyOutcomeForReport report.input
  executionAttemptOutcome (attemptStateForReport report.input.status) now
    { errorClass := legacy.errorClass
      errorCode := legacy.errorCode
      errorMessage := legacy.error
      remediation := report.input.succeededRemediation
      result :=
        if report.input.status = .succeeded then some (report.input.result.getD okResult)
        else report.input.result
      resultDelivery := report.resultDelivery.map ResultDeliveryMetadataV1.members }

/-- `candidateReceiptOutcome`. -/
def CheckedReport.receiptOutcome (report : CheckedReport) (auth : AuthContext) (now : String) :
    ActionReceiptOutcome :=
  let legacy := legacyOutcomeForReport report.input
  { auth := some auth
    error := if legacy.status = .failed then legacy.error else none
    recordedAt := now
    recordedBy := auth.email.getD auth.principalId
    remediation := report.input.succeededRemediation
    result := report.input.succeededResult
    resultDelivery := report.resultDelivery.map ResultDeliveryMetadataV1.members
    status := legacy.status }

omit [Runtime] in
/-- The result of a tool call with the reported outcome in it. -/
def resultWithOutcome (stored : Option Json) (outcome : JsonObject) : Json :=
  let kept : JsonObject :=
    match stored with
    | some (.obj members) => withoutMembers ["externalExecutionOutcome"] members
    | _ => []
  .obj (kept ++ [("externalExecutionOutcome", some (.obj outcome))])

omit [Runtime] in
/-- `terminalToolCall`. -/
def CheckedReport.terminalToolCall (report : CheckedReport) (toolCall : ToolCallRecord)
    (now : String) : ToolCallRecord :=
  let legacy := legacyOutcomeForReport report.input
  { toolCall with
    error := if legacy.status = .failed then legacy.error else none
    resultDelivery := report.resultDelivery.map ResultDeliveryMetadataV1.members
    resultWithheld := some (requiresContentExposureBeforeDelivery toolCall report.resultDelivery)
    result :=
      match report.input.succeededResult with
      | some outcome => some (resultWithOutcome toolCall.result outcome)
      | none => toolCall.result
    status := if report.input.status = .succeeded then .executed else .failed
    updatedAt := now }

end

end ActionProxy
