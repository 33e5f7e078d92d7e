import ActionProxy.Contracts.ExecutionAttempt

/-!
Execution authorizations: what an attempt, its tool call and its approval have to
agree on to be executed, and the short-lived token that carries the agreement to
the executor. A token lives in the process that issued it and is consumed once.
-/

namespace ActionProxy

open JsonText

inductive ExecutionAuthorizationErrorCode where
  | bindingMismatch | expired | invalid | replayed
  deriving DecidableEq

def ExecutionAuthorizationErrorCode.text : ExecutionAuthorizationErrorCode → String
  | .bindingMismatch => "execution_authorization_binding_mismatch"
  | .expired => "execution_authorization_expired"
  | .invalid => "execution_authorization_invalid"
  | .replayed => "execution_authorization_replayed"

structure ExecutionAuthorizationError where
  code : ExecutionAuthorizationErrorCode
  message : String
  deriving DecidableEq

def bindingError (message : String) : ExecutionAuthorizationError :=
  { code := .bindingMismatch, message := message }

/-! ### Bindings -/

structure AuthorizedAction where
  actionEnvelopeHash : String
  inputHash : String
  toolName : String

structure AuthorizedApproval where
  approvalId : Option String
  authorizationHash : Option String
  authorizationNonce : Option String
  receiptHash : Option String
  receiptId : Option String

structure AuthorizedContentInfluence where
  bindingHash : Option String
  influenceScopeId : Option String
  resultSourceHash : String

structure AuthorizedDecision where
  decisionId : Option String
  decisionInputHash : Option String
  outcome : PolicyDecision
  version : Option String

structure AuthorizedExecution where
  attemptId : String
  attemptNumber : Int
  grantId : Option String
  mode : ActionExecutionMode

structure AuthorizedPolicy where
  digest : Option String
  evaluatorVersion : Option String
  providerId : Option String
  providerVersion : Option String
  version : Option String
  versionHash : String

structure AuthorizedRequest where
  canonicalActionRequestHash : Option String
  canonicalActionRequestVersion : Option String
  toolCallId : String

structure ExecutionAuthorizationBindingV1 where
  action : AuthorizedAction
  approval : AuthorizedApproval
  contentInfluence : AuthorizedContentInfluence
  decision : AuthorizedDecision
  execution : AuthorizedExecution
  executorId : String
  policy : AuthorizedPolicy
  request : AuthorizedRequest
  workspaceId : String

def ExecutionAuthorizationBindingV1.json (binding : ExecutionAuthorizationBindingV1) : Json :=
  .obj [
    ("action", some (.obj [
      ("actionEnvelopeHash", some (.str binding.action.actionEnvelopeHash)),
      ("inputHash", some (.str binding.action.inputHash)),
      ("toolName", some (.str binding.action.toolName))])),
    ("approval", some (.obj [
      ("approvalId", nullable binding.approval.approvalId),
      ("authorizationHash", nullable binding.approval.authorizationHash),
      ("authorizationNonce", nullable binding.approval.authorizationNonce),
      ("receiptHash", nullable binding.approval.receiptHash),
      ("receiptId", nullable binding.approval.receiptId)])),
    ("contentInfluence", some (.obj [
      ("bindingHash", nullable binding.contentInfluence.bindingHash),
      ("influenceScopeId", nullable binding.contentInfluence.influenceScopeId),
      ("resultSourceHash", some (.str binding.contentInfluence.resultSourceHash))])),
    ("decision", some (.obj [
      ("decisionId", nullable binding.decision.decisionId),
      ("decisionInputHash", nullable binding.decision.decisionInputHash),
      ("outcome", some (.str binding.decision.outcome.text)),
      ("version", nullable binding.decision.version)])),
    ("execution", some (.obj [
      ("attemptId", some (.str binding.execution.attemptId)),
      ("attemptNumber", some (.num (JsonNumber.ofInt binding.execution.attemptNumber))),
      ("grantId", nullable binding.execution.grantId),
      ("mode", some (.str binding.execution.mode.text))])),
    ("executor", some (.obj [("id", some (.str binding.executorId))])),
    ("policy", some (.obj [
      ("digest", nullable binding.policy.digest),
      ("evaluatorVersion", nullable binding.policy.evaluatorVersion),
      ("providerId", nullable binding.policy.providerId),
      ("providerVersion", nullable binding.policy.providerVersion),
      ("version", nullable binding.policy.version),
      ("versionHash", some (.str binding.policy.versionHash))])),
    ("request", some (.obj [
      ("canonicalActionRequestHash", nullable binding.request.canonicalActionRequestHash),
      ("canonicalActionRequestVersion", nullable binding.request.canonicalActionRequestVersion),
      ("toolCallId", some (.str binding.request.toolCallId))])),
    ("tenant", some (.obj [("workspaceId", some (.str binding.workspaceId))]))]

/-! ### The decision of a tool call -/

/-- The identity of the traced decision, with what it leaves out as null. -/
structure AuthorizedDecisionIdentity where
  decisionId : Option String
  evaluatorVersion : Option String
  policyDigest : Option String
  policyVersion : Option String
  providerId : Option String
  providerVersion : Option String
  version : Option String

def noDecisionIdentity : AuthorizedDecisionIdentity :=
  { decisionId := none
    evaluatorVersion := none
    policyDigest := none
    policyVersion := none
    providerId := none
    providerVersion := none
    version := none }

/-- `stringOrNull` of a member. -/
def memberText? (value : Option Json) (name : String) : Option String :=
  nonEmpty ((value.bind (field? · name)).bind asString?)

def authorizedDecisionIdentity (toolCall : ToolCallRecord) : AuthorizedDecisionIdentity :=
  let candidate := toolCall.decisionTrace.bind (fun trace => member? trace "decisionV1")
  if memberText? candidate "version" = some "actionproxy.decision.v1" then
    let policy := candidate.bind (field? · "policy")
    let provider := policy.bind (field? · "provider")
    { decisionId := memberText? candidate "decisionId"
      evaluatorVersion := memberText? candidate "evaluatorVersion"
      policyDigest := memberText? policy "digest"
      policyVersion := memberText? policy "version"
      providerId := memberText? provider "id"
      providerVersion := memberText? provider "version"
      version := some "actionproxy.decision.v1" }
  else noDecisionIdentity

/-- The tool call as it was when its approval was published. -/
def originalToolCall (approval : ApprovalRecord) (toolCall : ToolCallRecord) : ToolCallRecord :=
  { toolCall with
    actionEnvelopeHash := approval.originalEnvelopeHash
    input := approval.originalInput
    inputHash := approval.originalInputHash
    status := .pendingApproval }

section

variable [Runtime]

/-- `toolCall.inputHash ?? hashJson(toolCall.input)`. -/
def ToolCallRecord.hashOfInput (toolCall : ToolCallRecord) : String :=
  toolCall.inputHash.getD (hashJson (.obj toolCall.input))

/-- The checks on the attempt and the tool call alone. -/
def attemptBindingChecks (attempt : ExecutionAttemptRecordV1) (toolCall : ToolCallRecord) :
    List (Bool × String) :=
  let binding := attempt.binding
  let influence := validContentInfluenceBindingHash toolCall.contentInfluence
  [(attempt.state != .reserved && attempt.state != .dispatched,
      "Execution attempt must be reserved or dispatched for authorization."),
    (attempt.workspaceId != toolCall.workspace,
      "Execution attempt tenant does not match the tool call."),
    (attempt.toolCallId != toolCall.id, "Execution attempt does not match the tool call."),
    (attempt.inputHash != toolCall.hashOfInput,
      "Execution attempt input does not match the tool call."),
    ((nonEmpty toolCall.actionEnvelopeHash).isNone ||
      binding.actionEnvelopeHash != toolCall.actionEnvelopeHash,
      "Execution attempt action envelope does not match the tool call."),
    ((nonEmpty toolCall.policyVersionHash).isNone ||
      binding.policyVersionHash != toolCall.policyVersionHash,
      "Execution attempt policy does not match the tool call."),
    (toolCall.decision.isNone, "Execution authorization requires a deterministic decision outcome."),
    (binding.canonicalActionRequestHash != toolCall.canonicalActionRequestHash,
      "Execution attempt canonical request does not match the tool call."),
    (binding.canonicalActionRequestVersion != toolCall.canonicalActionRequestVersion,
      "Execution attempt canonical request version does not match the tool call."),
    (binding.canonicalDecisionInputHash != toolCall.canonicalDecisionInputHash,
      "Execution attempt decision input does not match the tool call."),
    (toolCall.contentInfluence.isSome && influence.isNone,
      "Tool-call content-influence evidence is invalid."),
    (binding.contentInfluenceBindingHash != influence,
      "Execution attempt content-influence evidence does not match the tool call."),
    (binding.influenceScopeId != toolCall.influenceScopeId,
      "Execution attempt influence scope does not match the tool call."),
    (binding.resultSourceHash != some (hashOrNull toolCall.resultSource),
      "Execution attempt result-source classification does not match the tool call."),
    (attempt.providerIdempotency != "none" || attempt.retryPolicy != "never_automatic",
      "Execution attempt declares unsupported retry or provider-idempotency behavior."),
    ((attempt.executionMode == .localMock && attempt.executorId != localExecutorId) ||
      (attempt.executionMode == .externalGrant && attempt.executorId != externalExecutorId),
      "Execution attempt executor does not match its execution mode."),
    (attempt.executionMode == .externalGrant && (nonEmpty attempt.grantId).isNone,
      "External execution authorization requires a bound grant."),
    (attempt.executionMode == .localMock && attempt.grantId.isSome,
      "Local execution authorization cannot bind an external grant.")]

/-- `assertApprovalBinding`. -/
def approvalBindingFailure (now : Int) (approval : Option ApprovalRecord)
    (attempt : ExecutionAttemptRecordV1) (toolCall : ToolCallRecord) : Option String :=
  let binding := attempt.binding
  match nonEmpty binding.approvalId with
  | none =>
      firstFailure [
        (approval.isSome, "Unexpected approval supplied for an unapproved execution."),
        ((nonEmpty binding.approvalAuthorizationHash).isSome ||
          (nonEmpty binding.approvalAuthorizationNonce).isSome,
          "Unapproved execution carries approval authorization state.")]
  | some approvalId =>
      match approval with
      | none => some "Approval-bound execution requires the current approval record."
      | some approval =>
          firstFailure [
            (approval.id != approvalId || approval.toolCallId != toolCall.id,
              "Approval does not match the execution attempt."),
            (approval.workspace != attempt.workspaceId,
              "Approval tenant does not match the execution attempt."),
            (approval.status != .approved ||
              approval.authorizationConsumedReason != some .approved,
              "Approval is not in an executable terminal state."),
            ((nonEmpty approval.authorizationConsumedAt).isNone || approval.authorization.isNone,
              "Approval authorization has not been consumed.")] <|>
          approval.authorization.bind fun authorization =>
            firstFailure [
              (!isValidApprovalAuthorization authorization,
                "Approval authorization integrity is invalid."),
              (approvalAuthorizationExpired authorization now,
                "Approval authorization has expired."),
              (some authorization.authorizationHash != binding.approvalAuthorizationHash,
                "Approval authorization hash does not match the execution attempt."),
              (some authorization.nonce != binding.approvalAuthorizationNonce,
                "Approval authorization nonce does not match the execution attempt."),
              ((approval.approvedInputHash <|> approval.originalInputHash) !=
                some toolCall.hashOfInput,
                "Approved input does not match the execution attempt.")] <|>
            (approvalAuthorizationMismatch authorization approval
              (originalToolCall approval toolCall)).map fun mismatch =>
                "Approval authorization is no longer current: " ++ mismatch ++ "."

def decisionBindingChecks (attempt : ExecutionAttemptRecordV1) (toolCall : ToolCallRecord) :
    List (Bool × String) :=
  let decision := authorizedDecisionIdentity toolCall
  [(attempt.binding.decisionId != decision.decisionId,
      "Execution attempt decision identity does not match the tool call."),
    (attempt.binding.decisionVersion != decision.version,
      "Execution attempt decision version does not match the tool call.")]

def buildExecutionAuthorizationBinding (now : Int) (approval : Option ApprovalRecord)
    (attempt : ExecutionAttemptRecordV1) (toolCall : ToolCallRecord) :
    Except ExecutionAuthorizationError ExecutionAuthorizationBindingV1 :=
  match firstFailure (attemptBindingChecks attempt toolCall) <|>
      approvalBindingFailure now approval attempt toolCall <|>
      firstFailure (decisionBindingChecks attempt toolCall), toolCall.decision with
  | some message, _ => .error (bindingError message)
  | none, none => .error (bindingError
      "Execution authorization requires a deterministic decision outcome.")
  | none, some outcome =>
      let decision := authorizedDecisionIdentity toolCall
      .ok
        { action :=
            { actionEnvelopeHash := toolCall.actionEnvelopeHash.getD ""
              inputHash := toolCall.hashOfInput
              toolName := toolCall.toolName }
          approval :=
            { approvalId := attempt.binding.approvalId
              authorizationHash := attempt.binding.approvalAuthorizationHash
              authorizationNonce := attempt.binding.approvalAuthorizationNonce
              receiptHash := attempt.binding.receiptHash
              receiptId := attempt.binding.receiptId }
          contentInfluence :=
            { bindingHash := validContentInfluenceBindingHash toolCall.contentInfluence
              influenceScopeId := toolCall.influenceScopeId
              resultSourceHash := hashOrNull toolCall.resultSource }
          decision :=
            { decisionId := decision.decisionId
              decisionInputHash := attempt.binding.canonicalDecisionInputHash
              outcome := outcome
              version := decision.version }
          execution :=
            { attemptId := attempt.id
              attemptNumber := attempt.attemptNumber
              grantId := attempt.grantId
              mode := attempt.executionMode }
          executorId := attempt.executorId
          policy :=
            { digest := decision.policyDigest
              evaluatorVersion := decision.evaluatorVersion
              providerId := decision.providerId
              providerVersion := decision.providerVersion
              version := decision.policyVersion
              versionHash := toolCall.policyVersionHash.getD "" }
          request :=
            { canonicalActionRequestHash := toolCall.canonicalActionRequestHash
              canonicalActionRequestVersion := toolCall.canonicalActionRequestVersion
              toolCallId := toolCall.id }
          workspaceId := toolCall.workspace }

end

/-! ### Tokens -/

def defaultExecutionAuthorizationTtlMs : Int := 60000

def conservativeExecutorCapabilities : Json :=
  let unsupported : Json := .obj [("supported", some (.bool false))]
  .obj [
    ("automaticRetry", some unsupported),
    ("cancellation", some unsupported),
    ("credentialCustody", some (.obj [
      ("acceptsRawCredentials", some (.bool false)),
      ("mode", some (.str "executor_boundary_only"))])),
    ("providerIdempotency", some unsupported),
    ("reconciliation", some unsupported),
    ("timeout", some (.obj [("enforced", some (.bool false)), ("timeoutMs", some .null)])),
    ("version", some (.str "actionproxy.executor-capabilities.v1"))]

structure ExecutionAuthorizationProjectionV1 where
  binding : ExecutionAuthorizationBindingV1
  capabilities : Json
  expiresAt : String
  issuedAt : String

/-- What the issuing authority keeps of a token. -/
structure IssuedAuthorization where
  consumed : Bool
  projection : ExecutionAuthorizationProjectionV1

section

variable [Runtime]

def sameCanonicalValue (left right : Json) : Bool :=
  canonicalJsonStringify left == canonicalJsonStringify right

/-- `none` when the token has no time to live or a time cannot be shown. -/
def issueAuthorization (now : Int) (binding : ExecutionAuthorizationBindingV1)
    (ttlMs : Option Int) : Option IssuedAuthorization := do
  let ttlMs ← ttlMs
  guard (0 < ttlMs)
  let issuedAt ← IsoTime.toISOString now
  let expiresAt ← IsoTime.toISOString (now + ttlMs)
  return {
    consumed := false
    projection :=
      { binding := binding
        capabilities := conservativeExecutorCapabilities
        expiresAt := expiresAt
        issuedAt := issuedAt } }

def consumeAuthorization (now : Int) (authorization : IssuedAuthorization)
    (expected : ExecutionAuthorizationBindingV1) :
    Except ExecutionAuthorizationError (ExecutionAuthorizationProjectionV1 × IssuedAuthorization) :=
  if authorization.consumed then
    .error
      { code := .replayed, message := "Execution authorization has already been consumed." }
  else if (dateParse authorization.projection.expiresAt).any (fun expiry => decide (expiry ≤ now))
  then
    .error { code := .expired, message := "Execution authorization has expired." }
  else if !sameCanonicalValue authorization.projection.binding.json expected.json then
    .error
      { code := .bindingMismatch
        message := "Execution authorization does not match the current execution binding." }
  else .ok (authorization.projection, { authorization with consumed := true })

end

end ActionProxy
