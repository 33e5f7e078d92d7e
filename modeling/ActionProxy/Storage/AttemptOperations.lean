import ActionProxy.Storage.MemoryStore

/-!
The operations of the store on execution attempts, grants and receipts. A text
that counts as absent when it is empty is read through `nonEmpty`, as the
truth value of the source reads it.
-/

namespace ActionProxy

open JsonText

def executionAttemptVersion : String := "actionproxy.execution-attempt.v1"

def ExecutionAttemptOutcomeV1.json (outcome : ExecutionAttemptOutcomeV1) : Json :=
  .obj [
    ("certainty", some (.str (if outcome.known then "known" else "unknown"))),
    ("errorClass", nullable outcome.errorClass),
    ("errorCode", nullable outcome.errorCode),
    ("errorMessage", nullable outcome.errorMessage),
    ("remediationHash", nullable outcome.remediationHash),
    ("recordedAt", some (.str outcome.recordedAt)),
    ("resultDeliveryHash", nullable outcome.resultDeliveryHash),
    ("resultHash", nullable outcome.resultHash),
    ("retryDisposition", some (.str outcome.retryDisposition.text)),
    ("status", some (.str outcome.status.text))]

/-- A text member of the decision in the trace of a tool call. -/
def tracedDecisionText (toolCall : ToolCallRecord) (name : String) : Option String := do
  let trace ← toolCall.decisionTrace
  let decision ← member? trace "decisionV1"
  (field? decision name).bind asString?

namespace MemoryStore

/-! ### Binding of a new attempt -/

def attemptIsFresh (record : ExecutionAttemptRecordV1) : Bool :=
  record.version == executionAttemptVersion &&
  record.attemptNumber == 1 &&
  record.state == .reserved &&
  record.outcome.isNone &&
  record.dispatchedAt.isNone &&
  record.completedAt.isNone &&
  record.grantId.isNone &&
  record.id != "" &&
  record.reservationOwner != "" &&
  record.providerIdempotency == "none" &&
  record.retryPolicy == "never_automatic" &&
  !(record.executionMode == .localMock &&
    record.executorId != "actionproxy.local-tool-registry") &&
  !(record.executionMode == .externalGrant && record.executorId != "actionproxy.external-runner")

section

variable [Runtime]

def executionAttemptGovernanceBindingMatches (record : ExecutionAttemptRecordV1)
    (toolCall : ToolCallRecord) : Bool :=
  record.binding.contentInfluenceBindingHash ==
    contentInfluenceBindingHash toolCall.contentInfluence &&
  record.binding.influenceScopeId == toolCall.influenceScopeId &&
  record.binding.resultSourceHash == some (hashJson (toolCall.resultSource.getD .null))

def attemptMatchesToolCall (record : ExecutionAttemptRecordV1) (toolCall : ToolCallRecord) : Bool :=
  record.binding.canonicalActionRequestHash == toolCall.canonicalActionRequestHash &&
  record.binding.canonicalActionRequestVersion == toolCall.canonicalActionRequestVersion &&
  record.binding.canonicalDecisionInputHash == toolCall.canonicalDecisionInputHash &&
  record.binding.decisionId == tracedDecisionText toolCall "decisionId" &&
  record.binding.decisionVersion == tracedDecisionText toolCall "version" &&
  record.binding.policyVersionHash == toolCall.policyVersionHash &&
  executionAttemptGovernanceBindingMatches record toolCall

/-- The approval an attempt names, or the approved one of its tool call when it
names none. -/
def boundApproval (store : MemoryStore) (record : ExecutionAttemptRecordV1) :
    Option ApprovalRecord :=
  match nonEmpty record.binding.approvalId with
  | some approvalId => store.approvals.get? approvalId
  | none => store.approvals.values.find? fun candidate =>
      candidate.toolCallId == record.toolCallId && candidate.status == .approved

/-- The approval and the authorization the caller supplies both stand, and the
attempt repeats what was approved. -/
def approvalPermitsAttempt (now : Int) (record : ExecutionAttemptRecordV1)
    (approval : ApprovalRecord) (supplied : ApprovalAuthorizationV1) : Bool :=
  match approval.authorization with
  | none => false
  | some authorization =>
      approval.status == .approved &&
      approval.authorizationConsumedReason == some .approved &&
      (nonEmpty approval.authorizationConsumedAt).isSome &&
      isValidApprovalAuthorization authorization &&
      isValidApprovalAuthorization supplied &&
      !approvalAuthorizationExpired authorization now &&
      !approvalAuthorizationExpired supplied now &&
      authorization.authorizationHash == supplied.authorizationHash &&
      approval.toolCallId == record.toolCallId &&
      approval.workspace == record.workspaceId &&
      approval.approvedInputHash == some record.inputHash &&
      approval.approvedEnvelopeHash == record.binding.actionEnvelopeHash &&
      record.binding.approvalAuthorizationHash == some authorization.authorizationHash &&
      record.binding.approvalAuthorizationNonce == some authorization.nonce

def attemptMatchesApproval (store : MemoryStore) (now : Int) (record : ExecutionAttemptRecordV1)
    (approvalAuthorization : Option ApprovalAuthorizationV1) : Bool :=
  if record.binding.approvalId.isSome then
    match store.boundApproval record, approvalAuthorization with
    | some approval, some supplied => approvalPermitsAttempt now record approval supplied
    | _, _ => false
  else
    record.binding.approvalAuthorizationHash.isNone &&
      record.binding.approvalAuthorizationNonce.isNone

def attemptMatchesReceipt (store : MemoryStore) (record : ExecutionAttemptRecordV1)
    (toolCall : ToolCallRecord) : Bool :=
  match record.binding.receiptId with
  | some receiptId =>
      match store.actionReceipts.get? receiptId with
      | none => false
      | some receipt =>
          receipt.toolCallId == record.toolCallId &&
          receipt.workspaceId == record.workspaceId &&
          some receipt.receiptHash == record.binding.receiptHash &&
          some receipt.approvedEnvelopeHash == record.binding.actionEnvelopeHash &&
          receipt.approvedInputHash == record.inputHash &&
          receipt.approvalId == record.binding.approvalId
  | none =>
      record.binding.receiptHash.isNone &&
        record.binding.actionEnvelopeHash == toolCall.actionEnvelopeHash &&
        some record.inputHash == toolCall.inputHash

def executionAttemptBindingMatches (store : MemoryStore) (now : Int)
    (record : ExecutionAttemptRecordV1) (toolCall : ToolCallRecord)
    (approvalAuthorization : Option ApprovalAuthorizationV1) : Bool :=
  attemptIsFresh record &&
  attemptMatchesToolCall record toolCall &&
  store.attemptMatchesApproval now record approvalAuthorization &&
  store.attemptMatchesReceipt record toolCall

/-! ### Attempts -/

def setExecutionAttempt (store : MemoryStore) (attempt : ExecutionAttemptRecordV1) : MemoryStore :=
  { store with executionAttempts := store.executionAttempts.set attempt.id attempt }

/-- The store with a new attempt, listed under its tool call. -/
def addExecutionAttempt (store : MemoryStore) (record : ExecutionAttemptRecordV1) : MemoryStore :=
  { store with
    executionAttempts := store.executionAttempts.set record.id record
    executionAttemptByToolCall :=
      store.executionAttemptByToolCall.set (record.workspaceId, record.toolCallId) record.id }

def reserveExecutionAttemptAtomically (store : MemoryStore) (now : Int)
    (record : ExecutionAttemptRecordV1) (approvalAuthorization : Option ApprovalAuthorizationV1) :
    AttemptResult × MemoryStore :=
  match store.toolCalls.get? record.toolCallId with
  | none => ({ attempt := none, outcome := .notFound }, store)
  | some toolCall =>
      if toolCall.workspace ≠ record.workspaceId then
        ({ attempt := none, outcome := .notFound }, store)
      else if !store.executionAttemptBindingMatches now record toolCall approvalAuthorization then
        ({ attempt := none, outcome := .bindingMismatch }, store)
      else
        match nonEmpty (store.executionAttemptByToolCall.get?
            (record.workspaceId, record.toolCallId)) with
        | some existingId =>
            ({ attempt := store.executionAttempts.get? existingId, outcome := .existing }, store)
        | none =>
            match store.executionAttempts.get? record.id with
            | some attempt => ({ attempt := some attempt, outcome := .bindingMismatch }, store)
            | none =>
                ({ attempt := some record, outcome := .reserved }, store.addExecutionAttempt record)

def getExecutionAttemptByToolCallId (store : MemoryStore) (workspaceId toolCallId : String) :
    Option ExecutionAttemptRecordV1 :=
  (nonEmpty (store.executionAttemptByToolCall.get? (workspaceId, toolCallId))).bind
    store.executionAttempts.get?

end

def executionAttemptTransitionIsValid (input : AtomicExecutionAttemptTransitionInput) : Bool :=
  if input.expectedState = .reserved then
    if input.nextState = .dispatched then input.outcome.isNone
    else
      input.nextState == .failedBeforeDispatch &&
        input.outcome.map ExecutionAttemptOutcomeV1.status == some input.nextState
  else
    input.nextState != .reserved && input.nextState != .dispatched &&
      input.nextState != .failedBeforeDispatch &&
      input.outcome.map ExecutionAttemptOutcomeV1.status == some input.nextState

def executionAttemptTransitionIsReplay [Runtime] (current : ExecutionAttemptRecordV1)
    (input : AtomicExecutionAttemptTransitionInput) : Bool :=
  if current.state ≠ input.nextState then false
  else if current.state = .dispatched then
    input.outcome.isNone && current.dispatchedAt == some input.transitionedAt
  else if !current.state.isTerminal then false
  else
    match current.outcome, input.outcome with
    | some stored, some supplied =>
        current.completedAt == some input.transitionedAt &&
          hashJson stored.json == hashJson supplied.json
    | _, _ => false

def dispatchedAttempt (current : ExecutionAttemptRecordV1) (dispatchedAt : String) :
    ExecutionAttemptRecordV1 :=
  { current with
    dispatchedAt := some dispatchedAt
    state := .dispatched
    updatedAt := dispatchedAt }

def transitionedExecutionAttempt (current : ExecutionAttemptRecordV1)
    (input : AtomicExecutionAttemptTransitionInput) : ExecutionAttemptRecordV1 :=
  if input.nextState = .dispatched then dispatchedAttempt current input.transitionedAt
  else
    { current with
      completedAt := some input.transitionedAt
      outcome := input.outcome
      state := input.nextState
      updatedAt := input.transitionedAt }

def transitionExecutionAttemptAtomically [Runtime] (store : MemoryStore)
    (input : AtomicExecutionAttemptTransitionInput) : AttemptResult × MemoryStore :=
  match store.executionAttempts.get? input.attemptId with
  | none => ({ attempt := none, outcome := .notFound }, store)
  | some current =>
      if current.workspaceId ≠ input.workspaceId then
        ({ attempt := none, outcome := .notFound }, store)
      else if current.reservationOwner ≠ input.reservationOwner then
        ({ attempt := some current, outcome := .ownerMismatch }, store)
      else if executionAttemptTransitionIsReplay current input then
        ({ attempt := some current, outcome := .replay }, store)
      else if current.state.isTerminal then
        ({ attempt := some current, outcome := .alreadyTerminal }, store)
      else if !store.contentExposureRevisionMatches input.workspaceId
          input.contentExposureRevision then
        ({ attempt := some current, outcome := .contentInfluenceMismatch }, store)
      else if current.state ≠ input.expectedState || !executionAttemptTransitionIsValid input then
        ({ attempt := some current, outcome := .stateMismatch }, store)
      else
        let updated := transitionedExecutionAttempt current input
        ({ attempt := some updated, outcome := .transitioned }, store.setExecutionAttempt updated)

def boundAttempt (current : ExecutionAttemptRecordV1)
    (input : AtomicExecutionAttemptGrantBindingInput) : ExecutionAttemptRecordV1 :=
  { current with grantId := some input.grantId, updatedAt := input.updatedAt }

def bindExecutionAttemptGrantAtomically (store : MemoryStore)
    (input : AtomicExecutionAttemptGrantBindingInput) : AttemptResult × MemoryStore :=
  match store.executionAttempts.get? input.attemptId with
  | none => ({ attempt := none, outcome := .notFound }, store)
  | some current =>
      if current.workspaceId ≠ input.workspaceId then
        ({ attempt := none, outcome := .notFound }, store)
      else if current.reservationOwner ≠ input.reservationOwner then
        ({ attempt := some current, outcome := .ownerMismatch }, store)
      else if current.state ≠ .reserved then
        ({ attempt := some current, outcome := .stateMismatch }, store)
      else if (nonEmpty current.grantId).isSome then
        ({ attempt := some current, outcome := .alreadyBound }, store)
      else
        let updated := boundAttempt current input
        ({ attempt := some updated, outcome := .bound }, store.setExecutionAttempt updated)

/-! ### Grants -/

def setExecutionGrant (store : MemoryStore) (grant : ExecutionGrantRecord) : MemoryStore :=
  { store with executionGrants := store.executionGrants.set grant.id grant }

def createExecutionGrant (store : MemoryStore) (record : ExecutionGrantRecord) :
    ExecutionGrantRecord × MemoryStore :=
  (record, store.setExecutionGrant record)

def consumedGrant (grant : ExecutionGrantRecord) (consumedAt : String) : ExecutionGrantRecord :=
  { grant with consumedAt := some consumedAt }

def consumeExecutionGrantAndDispatchAttemptAtomically (store : MemoryStore)
    (input : AtomicGrantDispatchInput) : DispatchResult × MemoryStore :=
  match store.executionAttempts.get? input.attemptId with
  | none => ({ attempt := none, grant := none, outcome := .attemptNotFound }, store)
  | some attempt =>
      if attempt.workspaceId ≠ input.workspaceId then
        ({ attempt := none, grant := none, outcome := .attemptNotFound }, store)
      else
        match store.executionGrants.get? input.grantId with
        | none => ({ attempt := some attempt, grant := none, outcome := .grantNotFound }, store)
        | some grant =>
            if grant.workspaceId ≠ input.workspaceId then
              ({ attempt := some attempt, grant := none, outcome := .grantNotFound }, store)
            else if (nonEmpty grant.consumedAt).isSome then
              ({ attempt := some attempt, grant := some grant, outcome := .grantAlreadyConsumed },
                store)
            else if attempt.state ≠ .reserved then
              ({ attempt := some attempt, grant := some grant, outcome := .attemptStateMismatch },
                store)
            else if attempt.reservationOwner != input.reservationOwner ||
                attempt.grantId != some input.grantId ||
                attempt.toolCallId != input.toolCallId ||
                grant.toolCallId != input.toolCallId then
              ({ attempt := some attempt, grant := some grant, outcome := .bindingMismatch }, store)
            else if !store.contentExposureRevisionMatches input.workspaceId
                input.contentExposureRevision then
              ({ attempt := some attempt, grant := some grant,
                 outcome := .contentInfluenceMismatch }, store)
            else
              let consumed := consumedGrant grant input.dispatchedAt
              let dispatched := dispatchedAttempt attempt input.dispatchedAt
              ({ attempt := some dispatched, grant := some consumed, outcome := .dispatched },
                (store.setExecutionGrant consumed).setExecutionAttempt dispatched)

/-! ### Receipts -/

def recordActionReceiptOutcomeAtomically (store : MemoryStore) (receiptId : String)
    (outcome : ActionReceiptOutcome) : ReceiptResult × MemoryStore :=
  match store.actionReceipts.get? receiptId with
  | none => ({ receipt := none, outcome := .notFound }, store)
  | some current =>
      if current.outcome.isSome then
        ({ receipt := some current, outcome := .existing }, store)
      else
        let receipt := { current with outcome := some outcome }
        ({ receipt := some receipt, outcome := .recorded },
          { store with actionReceipts := store.actionReceipts.set receipt.id receipt })

end MemoryStore

end ActionProxy
