import ActionProxy.Storage.ExternalOutcomes

/-!
Execution attempts as a service builds them: the reservation of a tool call, bound
to what authorized it, and the outcome an attempt ends with.
-/

namespace ActionProxy

open JsonText

def localExecutorId : String := "actionproxy.local-tool-registry"

def externalExecutorId : String := "actionproxy.external-runner"

structure BuildExecutionAttemptInput where
  approval : Option ApprovalRecord
  executionMode : ActionExecutionMode
  id : String
  inputHash : String
  now : String
  receipt : Option ActionReceiptRecord
  reservationOwner : String
  toolCall : ToolCallRecord

structure ExecutionAttemptOutcomeInput where
  errorClass : Option String
  errorCode : Option String
  errorMessage : Option String
  remediation : Option JsonObject
  result : Option JsonObject
  resultDelivery : Option JsonObject

section

variable [Runtime]

def buildExecutionAttempt (input : BuildExecutionAttemptInput) : ExecutionAttemptRecordV1 :=
  let toolCall := input.toolCall
  let authorization := input.approval.bind ApprovalRecord.authorization
  { attemptNumber := 1
    binding :=
      { actionEnvelopeHash := toolCall.actionEnvelopeHash
        approvalAuthorizationHash := authorization.map ApprovalAuthorizationV1.authorizationHash
        approvalAuthorizationNonce := authorization.map ApprovalAuthorizationV1.nonce
        approvalId :=
          input.approval.map ApprovalRecord.id <|> input.receipt.bind ActionReceiptRecord.approvalId
        canonicalActionRequestHash := toolCall.canonicalActionRequestHash
        canonicalActionRequestVersion := toolCall.canonicalActionRequestVersion
        canonicalDecisionInputHash := toolCall.canonicalDecisionInputHash
        contentInfluenceBindingHash := contentInfluenceBindingHash toolCall.contentInfluence
        decisionId := tracedDecisionText toolCall "decisionId"
        decisionVersion := tracedDecisionText toolCall "version"
        influenceScopeId := toolCall.influenceScopeId
        policyVersionHash := toolCall.policyVersionHash
        receiptHash := input.receipt.map ActionReceiptRecord.receiptHash
        receiptId := input.receipt.map ActionReceiptRecord.id
        resultSourceHash := some (hashOrNull toolCall.resultSource) }
    completedAt := none
    dispatchedAt := none
    executionMode := input.executionMode
    executorId :=
      if input.executionMode = .externalGrant then externalExecutorId else localExecutorId
    grantId := none
    id := input.id
    inputHash := input.inputHash
    outcome := none
    providerIdempotency := "none"
    reservedAt := input.now
    reservationOwner := input.reservationOwner
    retryPolicy := "never_automatic"
    state := .reserved
    toolCallId := toolCall.id
    updatedAt := input.now
    version := executionAttemptVersion
    workspaceId := toolCall.workspace }

def executionAttemptOutcome (status : ExecutionAttemptState) (recordedAt : String)
    (input : ExecutionAttemptOutcomeInput) : ExecutionAttemptOutcomeV1 :=
  let uncertain := status == .timedOut || status == .unknownOutcome
  { known := !uncertain
    errorClass := input.errorClass
    errorCode := input.errorCode
    errorMessage := input.errorMessage
    remediationHash := hashOptional (input.remediation.map .obj)
    recordedAt := recordedAt
    resultDeliveryHash := hashOptional (input.resultDelivery.map .obj)
    resultHash := hashOptional (input.result.map .obj)
    retryDisposition :=
      if uncertain then .manualReconciliationRequired
      else if status = .failedBeforeDispatch then .explicitNewAttemptRequired
      else .none
    status := status }

end

end ActionProxy
