import ActionProxy.Routes.ToolCalls
import ActionProxy.Services.GrantConsumption
import ActionProxy.Services.ToolExecution

/-!
Authorizing a tool call for an external runner: the receipt of the decision, the attempt
that is reserved for it, the grant that is issued and bound, and the tool call that
carries both. Each call of the store and each audit event is a step of its own.
-/

namespace ActionProxy

open JsonText Interleaving

/-- `ExecutionGrantService` as the gate uses it. -/
structure GrantIssuer where
  secret : String
  ttlSeconds : Int

structure ActionProxyConfig extends LocalConfig where
  executionGrants : Option GrantIssuer

namespace MemoryStore

def createActionReceipt (store : MemoryStore) (record : ActionReceiptRecord) : MemoryStore :=
  { store with actionReceipts := store.actionReceipts.set record.id record }

end MemoryStore

/-! ### Receipts -/

def actionReceiptKeyId : String := "actionproxy-local-hmac-v1"

def defaultReceiptSecret : String := "local-dev-execution-grant-secret"

/-- What the receipt of a decision is prepared from. -/
structure ReceiptInput where
  actor : String
  approval : Option ApprovalRecord
  auth : Option AuthContext
  decisionKind : ReceiptDecisionKind
  input : JsonObject
  reviewHash : Option String
  toolCall : ToolCallRecord

section

variable [Runtime]

/-- A member of an envelope that is there in every envelope. -/
def ActionEnvelope.member (envelope : ActionEnvelope) (name : String) : Json :=
  (member? envelope.body name).getD .null

def ReceiptInput.unsigned (input : ReceiptInput) (config : GateConfig) (now id : String) :
    ActionReceiptRecord :=
  let originalEnvelope := actionEnvelopeForToolCall input.toolCall
  let approvedEnvelope := actionEnvelopeForInput originalEnvelope input.input
  { approvalId := input.approval.map ApprovalRecord.id
    approvedEnvelopeHash := approvedEnvelope.envelopeHash
    approvedInputHash := approvedEnvelope.inputHash
    createdAt := now
    decisionActor := input.actor
    decisionAuth := input.auth
    decisionKind := input.decisionKind
    executionMode := approvedEnvelope.executionMode
    expiresAt := none
    id := id
    issuedAt := now
    keyId := actionReceiptKeyId
    operation := approvedEnvelope.member "operation"
    originalEnvelopeHash :=
      (input.approval.bind ApprovalRecord.originalEnvelopeHash).getD originalEnvelope.envelopeHash
    originalInputHash :=
      (input.approval.bind ApprovalRecord.originalInputHash).getD originalEnvelope.inputHash
    outcome := none
    policyDecision := input.toolCall.decision
    policyReason := input.toolCall.policyReason
    policyRisk := input.toolCall.risk
    policyVersionHash := input.toolCall.policyVersionHash
    policyVersionId := input.toolCall.policyVersionId
    protocol := (asString? (approvedEnvelope.member "protocol")).getD ""
    receiptHash := ""
    reviewHash := input.reviewHash
    signature := ""
    signatureAlg := "HMAC-SHA256"
    source := approvedEnvelope.member "source"
    toolCallId := input.toolCall.id
    toolName := input.toolCall.toolName
    version := "actionproxy.receipt.v1"
    workspaceId :=
      ((input.toolCall.workspaceId <|> input.auth.map AuthContext.workspaceId) <|>
        config.workspaceId).getD "default" }

/-- `prepareActionReceipt`, for the time of the call and the identifier it draws. -/
def prepareActionReceipt (config : GateConfig) (input : ReceiptInput) (now id : String) :
    ActionReceiptRecord :=
  signReceipt (config.receiptSigningSecret.getD defaultReceiptSecret)
    (input.unsigned config now ("receipt_" ++ id))

variable [RandomSource]

def createActionReceipt (config : ActionProxyConfig) (input : ReceiptInput) :
    LocalCall ActionReceiptRecord := do
  let now ← LocalCall.gate Gate.now
  let id ← LocalCall.gate Gate.randomUUID
  let receipt := prepareActionReceipt config.toGateConfig input now.text id
  LocalCall.onStore fun _ store => ((), store.createActionReceipt receipt)
  LocalCall.audit "receipt.created"
  pure receipt

/-! ### Grants -/

/-- The times of a grant; there is no text for a time past the last date. -/
def grantTimes (now : Instant) (ttlSeconds : Int) : Except GateError (String × String) :=
  match IsoTime.toISOString (now.millis + ttlSeconds * 1000) with
  | none => .error (.named "RangeError" "Invalid time value")
  | some expiresAt => .ok (now.text, expiresAt)

def unboundGrant : ServiceError :=
  .conflict "Execution grant is not bound to a current reserved execution attempt."

/-- Whether a binding left the attempt with the grant. -/
def boundTo (grantId : String) (binding : AttemptResult) : Bool :=
  binding.outcome == .bound ||
    (binding.outcome == .alreadyBound &&
      binding.attempt.bind ExecutionAttemptRecordV1.grantId == some grantId)

/-- `createGrant`; the nonce is drawn like an identifier. -/
def createGrant (issuer : GrantIssuer) (ttlSeconds : Option Int)
    (input : PrepareExecutionGrantInput) : LocalCall ExecutionGrantRecord := do
  let now ← LocalCall.gate Gate.now
  let (createdAt, expiresAt) ← Prog.ofExcept (grantTimes now (ttlSeconds.getD issuer.ttlSeconds))
  let id ← LocalCall.gate Gate.randomUUID
  let nonce ← LocalCall.gate Gate.randomUUID
  let signed := prepareGrant issuer.secret
    { createdAt := createdAt
      expiresAt := expiresAt
      id := "grant_" ++ id
      nonce := nonce } input
  let _ ← LocalCall.onStore fun _ store => store.createExecutionGrant signed
  let attempt ← LocalCall.readStore fun store =>
    store.getExecutionAttemptByToolCallId signed.workspaceId signed.toolCallId
  match attempt.filter fun attempt =>
      attempt.state == .reserved && attemptMatchesGrant attempt signed false with
  | none => LocalCall.fail unboundGrant
  | some attempt => do
      let binding ← LocalCall.onStore fun _ store =>
        store.bindExecutionAttemptGrantAtomically
          { attemptId := attempt.id
            grantId := signed.id
            reservationOwner := attempt.reservationOwner
            updatedAt := signed.createdAt
            workspaceId := signed.workspaceId }
      if boundTo signed.id binding then do
        LocalCall.audit "execution_grant.created"
        pure signed
      else
        LocalCall.fail (.conflict "Execution grant could not bind its reserved execution attempt.")

/-- The grant, where the composition issues any. -/
def issueGrant (config : ActionProxyConfig) (ttlSeconds : Option Int)
    (input : PrepareExecutionGrantInput) : LocalCall (Option ExecutionGrantRecord) :=
  match config.executionGrants with
  | none => pure none
  | some issuer => do
      let grant ← createGrant issuer ttlSeconds input
      pure (some grant)

/-! ### The authorization -/

/-- `reserveExecutionAttempt` for an external runner. -/
def reserveExternalAttempt (execution : ToolCallExecution) (toolCall : ToolCallRecord) :
    LocalCall ExecutionAttemptRecordV1 := do
  let now ← LocalCall.gate Gate.now
  let id ← LocalCall.gate Gate.randomUUID
  let owner ← LocalCall.gate Gate.randomUUID
  let attempt := buildExecutionAttempt
    { approval := execution.approval
      executionMode := .externalGrant
      id := attemptName id
      inputHash := toolCall.hashOfInput
      now := now.text
      receipt := execution.receipt
      reservationOwner := "reservation_" ++ owner
      toolCall := toolCall }
  let reservation ← LocalCall.onStore fun clock store =>
    store.reserveExecutionAttemptAtomically clock.millis attempt
      (execution.approval.bind ApprovalRecord.authorization)
  match reservation.outcome, reservation.attempt with
  | .reserved, some attempt => do
      LocalCall.audit "execution.attempt_reserved"
      pure attempt
  | outcome, _ =>
      LocalCall.fail (.conflict ("Execution attempt could not be reserved: " ++ outcome.text))

/-- What an authorized tool call shows for its result. -/
def authorizationResult (receipt : Option ActionReceiptRecord) (grant : ExecutionGrantRecord) :
    JsonObject :=
  [("ok", some (.bool true)),
    ("externalExecution", some (.bool true)),
    ("note", some (.str "Execution authorized for an external tool runner.")),
    ("receipt", receipt.map ActionReceiptRecord.json),
    ("grant", some grant.json)]

def missingGrantMessage : String :=
  "External execution authorization failed because no execution grant was issued."

/-- From the issued grant on. -/
def authorizeGranted (execution : ToolCallExecution) (baseToolCall : ToolCallRecord)
    (attempt : ExecutionAttemptRecordV1) (grant : ExecutionGrantRecord) :
    LocalCall ToolCallRecord := do
  let updatedAt ← LocalCall.gate Gate.now
  let binding ← LocalCall.onStore fun _ store =>
    store.bindExecutionAttemptGrantAtomically
      { attemptId := attempt.id
        grantId := grant.id
        reservationOwner := attempt.reservationOwner
        updatedAt := updatedAt.text
        workspaceId := attempt.workspaceId }
  if (binding.outcome == .bound || binding.outcome == .alreadyBound) &&
      binding.attempt.bind ExecutionAttemptRecordV1.grantId == some grant.id then do
    let now ← LocalCall.gate Gate.now
    let updated := authorizedToolCall execution.toolCall
      (actionEnvelopeForToolCall execution.toolCall) execution.input
      (authorizationResult execution.receipt grant) now.text
    LocalCall.onStore fun _ store => ((), store.updateToolCall updated)
    LocalCall.audit "tool_call.authorized"
    pure updated
  else
    refuseToolCall execution baseToolCall attempt "execution_preflight"
      "execution_grant_binding_failed"
      ("Execution attempt could not be bound to its grant: " ++ binding.outcome.text)

def authorizeExternalExecution (config : ActionProxyConfig) (execution : ToolCallExecution)
    (ttlSeconds : Option Int) : LocalCall ToolCallRecord := do
  let revalidation ← LocalCall.gate
    (finalPolicyRevalidation config.toGateConfig execution.toolCall execution.input)
  match revalidation.failure with
  | some message => failToolCall execution execution.toolCall message
  | none => do
      let baseToolCall := toolCallForInput execution.toolCall execution.input
      let attempt ← reserveExternalAttempt execution baseToolCall
      match ← (issueGrant config ttlSeconds
          { actor := execution.actor
            auth := execution.auth
            receipt := execution.receipt
            toolCall := baseToolCall }).attempt with
      | .error error =>
          refuseToolCall execution baseToolCall attempt error.name
            "execution_grant_creation_failed" error.message
      | .ok none =>
          refuseToolCall execution baseToolCall attempt "execution_preflight"
            "execution_grant_missing" missingGrantMessage
      | .ok (some grant) => authorizeGranted execution baseToolCall attempt grant

/-- The execution of what a decision released, in the mode of its envelope. -/
def releaseExecution (config : ActionProxyConfig) (execution : ToolCallExecution)
    (mode : ActionExecutionMode) (ttlSeconds : Option Int) : LocalCall ToolCallRecord :=
  match mode with
  | .externalGrant => authorizeExternalExecution config execution ttlSeconds
  | .localMock => executeToolCall config.toLocalConfig execution

end

end ActionProxy
