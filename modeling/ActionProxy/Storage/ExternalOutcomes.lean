import ActionProxy.Policy.EvaluatePolicy
import ActionProxy.Storage.RecordJson

/-!
The three operations that write an external execution in one step: its
authorization is published, its outcome is recorded, or an outcome the attempt
already has is adopted. Each checks the records it is given against each other
and against the stored ones before its first write; a failed integrity check of
the input alone is a thrown error.
-/

namespace ActionProxy

open JsonText

/-! ### Inputs and answers -/

structure AtomicApprovedExternalAuthorizationPublicationInput where
  approvalId : String
  attempt : ExecutionAttemptRecordV1
  grant : ExecutionGrantRecord
  receipt : ActionReceiptRecord
  toolCall : ToolCallRecord

structure AtomicKnownExternalExecutionOutcomeAdoptionInput where
  attemptId : String
  receipt : ActionReceiptRecord
  toolCall : ToolCallRecord
  workspaceId : String

structure AtomicKnownExternalExecutionOutcomeRecordingInput where
  attemptId : String
  attemptOutcome : ExecutionAttemptOutcomeV1
  receiptOutcome : ActionReceiptOutcome
  reservationOwner : String
  toolCall : ToolCallRecord
  workspaceId : String

inductive ExternalOutcome where
  | created | adopted | recorded | replay | notFound | ownerMismatch | bindingMismatch | conflict
  | stateMismatch | reconciliationRequired
  deriving DecidableEq

/-- The operation wrote the records. -/
def ExternalOutcome.isSuccess : ExternalOutcome → Bool
  | .created | .adopted | .recorded => true
  | _ => false

structure ExternalResult where
  approval : Option ApprovalRecord
  attempt : Option ExecutionAttemptRecordV1
  grant : Option ExecutionGrantRecord
  outcome : ExternalOutcome
  receipt : Option ActionReceiptRecord
  toolCall : Option ToolCallRecord

/-- The stored records an operation works on. -/
structure ExternalRecords where
  attempt : ExecutionAttemptRecordV1
  grant : ExecutionGrantRecord
  receipt : ActionReceiptRecord
  toolCall : ToolCallRecord

def ExternalRecords.result (records : ExternalRecords) (outcome : ExternalOutcome) :
    ExternalResult :=
  { approval := none
    attempt := some records.attempt
    grant := some records.grant
    outcome := outcome
    receipt := some records.receipt
    toolCall := some records.toolCall }

/-! ### Integrity checks -/

/-- The names of the checks that found a mismatch. -/
def mismatchNames (checks : List (Bool × String)) : List String :=
  (checks.filter Prod.fst).map Prod.snd

def integrityError (operation : String) (mismatches : List String) : String :=
  operation ++ " failed its integrity check: " ++ ", ".intercalate mismatches ++ "."

/-- What the digest says of a value that is undefined. -/
def undefinedDigestError : String :=
  "The \"data\" argument must be of type string or an instance of Buffer, TypedArray, or " ++
    "DataView. Received undefined"

/-- A member of the result of a tool call. -/
def resultMember (toolCall : ToolCallRecord) (name : String) : Option Json :=
  toolCall.result.bind (field? · name)

/-- A text in an object in the result of a tool call. -/
def resultText (toolCall : ToolCallRecord) (name key : String) : Option String :=
  ((resultMember toolCall name).bind (field? · key)).bind asString?

/-- `left === right` where a missing text is undefined on the left and null on
the right. -/
def sameText (left right : Option String) : Bool := left.isSome && left == right

section

variable [Runtime]

/-- The hash of a value, an error when it is undefined. -/
def hashDefined : Option Json → Except String String
  | some value => .ok (hashJson value)
  | none => .error undefinedDigestError

def hashOptional (value : Option Json) : Option String := value.map hashJson

def hashOrNull (value : Option Json) : String := hashJson (value.getD .null)

def toolCallInputHashFails (toolCall : ToolCallRecord) : Bool :=
  (nonEmpty toolCall.inputHash).isNone ||
    toolCall.inputHash != some (hashJson (.obj toolCall.input))

/-! ### Publication -/

def publicationChecks (input : AtomicApprovedExternalAuthorizationPublicationInput) :
    List (Bool × String) :=
  let attempt := input.attempt
  let grant := input.grant
  let receipt := input.receipt
  let toolCall := input.toolCall
  let workspaceId := toolCall.workspace
  [(input.approvalId == "", "approval_id"),
    (toolCall.status != .authorized, "tool_call_status"),
    (toolCall.decision != some .requireApproval, "policy_decision"),
    (toolCall.actionEnvelope.map ActionEnvelope.executionMode != some .externalGrant,
      "action_execution_mode"),
    (toolCallInputHashFails toolCall, "tool_call_input_hash"),
    (receipt.decisionKind != .humanApproval, "receipt_decision_kind"),
    (receipt.executionMode != .externalGrant, "receipt_execution_mode"),
    (receipt.outcome.isSome, "receipt_outcome"),
    (receipt.approvalId != some input.approvalId, "receipt_approval"),
    (receipt.workspaceId != workspaceId, "receipt_workspace"),
    (receipt.toolCallId != toolCall.id, "receipt_tool_call"),
    (receipt.toolName != toolCall.toolName, "receipt_tool_name"),
    (some receipt.approvedInputHash != toolCall.inputHash, "receipt_input_hash"),
    (some receipt.approvedEnvelopeHash != toolCall.actionEnvelopeHash, "receipt_envelope_hash"),
    (grant.workspaceId != workspaceId, "grant_workspace"),
    (grant.toolCallId != toolCall.id, "grant_tool_call"),
    (grant.toolName != toolCall.toolName, "grant_tool_name"),
    (some grant.inputHash != toolCall.inputHash, "grant_input_hash"),
    (grant.approvedInputHash != some receipt.approvedInputHash, "grant_approved_input_hash"),
    (grant.approvedEnvelopeHash != some receipt.approvedEnvelopeHash,
      "grant_approved_envelope_hash"),
    (grant.policyVersionHash != receipt.policyVersionHash, "grant_policy_version"),
    (grant.receiptId != some receipt.id, "grant_receipt_id"),
    (grant.receiptHash != some receipt.receiptHash, "grant_receipt_hash"),
    (grant.consumedAt.isSome, "grant_consumed"),
    (attempt.version != executionAttemptVersion, "attempt_version"),
    (attempt.attemptNumber != 1, "attempt_number"),
    (attempt.state != .reserved, "attempt_state"),
    (attempt.executionMode != .externalGrant, "attempt_execution_mode"),
    (attempt.executorId != "actionproxy.external-runner", "attempt_executor"),
    (attempt.providerIdempotency != "none", "provider_idempotency"),
    (attempt.retryPolicy != "never_automatic", "retry_policy"),
    (attempt.outcome.isSome || attempt.dispatchedAt.isSome || attempt.completedAt.isSome,
      "attempt_outcome"),
    (attempt.workspaceId != workspaceId, "attempt_workspace"),
    (attempt.toolCallId != toolCall.id, "attempt_tool_call"),
    (some attempt.inputHash != toolCall.inputHash, "attempt_input_hash"),
    (attempt.grantId != some grant.id, "attempt_grant"),
    (attempt.binding.approvalId != some input.approvalId, "attempt_approval"),
    (attempt.binding.receiptId != some receipt.id, "attempt_receipt_id"),
    (attempt.binding.receiptHash != some receipt.receiptHash, "attempt_receipt_hash"),
    (attempt.binding.actionEnvelopeHash != toolCall.actionEnvelopeHash, "attempt_envelope_hash"),
    (attempt.binding.canonicalActionRequestHash != toolCall.canonicalActionRequestHash,
      "attempt_canonical_request_hash"),
    (attempt.binding.canonicalActionRequestVersion != toolCall.canonicalActionRequestVersion,
      "attempt_canonical_request_version"),
    (attempt.binding.canonicalDecisionInputHash != toolCall.canonicalDecisionInputHash,
      "attempt_decision_input_hash"),
    (attempt.binding.policyVersionHash != toolCall.policyVersionHash, "attempt_policy_version"),
    (booleanContext (resultMember toolCall "externalExecution") != some true,
      "tool_call_result_mode"),
    (resultText toolCall "grant" "id" != some grant.id, "tool_call_result_grant"),
    (resultText toolCall "receipt" "id" != some receipt.id ||
      resultText toolCall "receipt" "receiptHash" != some receipt.receiptHash,
      "tool_call_result_receipt")]

def approvedExternalAuthorizationMatchesCurrent
    (input : AtomicApprovedExternalAuthorizationPublicationInput) (approval : ApprovalRecord)
    (currentToolCall : ToolCallRecord) : Bool :=
  let attempt := input.attempt
  let receipt := input.receipt
  let toolCall := input.toolCall
  approval.id == input.approvalId &&
  approval.workspace == toolCall.workspace &&
  approval.toolCallId == toolCall.id &&
  approval.status == .approved &&
  approval.authorizationConsumedReason == some .approved &&
  approval.authorizationConsumedAt.isSome &&
  approval.authorization.any (fun authorization =>
    approval.approvedInputHash == some receipt.approvedInputHash &&
    approval.approvedEnvelopeHash == some receipt.approvedEnvelopeHash &&
    approval.originalInputHash == some receipt.originalInputHash &&
    approval.originalEnvelopeHash == some receipt.originalEnvelopeHash &&
    approval.reviewHash == receipt.reviewHash &&
    attempt.binding.approvalAuthorizationHash == some authorization.authorizationHash &&
    attempt.binding.approvalAuthorizationNonce == some authorization.nonce) &&
  attempt.binding.decisionId == tracedDecisionText toolCall "decisionId" &&
  attempt.binding.decisionVersion == tracedDecisionText toolCall "version" &&
  currentToolCall.id == toolCall.id &&
  currentToolCall.workspace == toolCall.workspace &&
  currentToolCall.status == .pendingApproval &&
  currentToolCall.toolName == toolCall.toolName &&
  currentToolCall.decision == toolCall.decision &&
  currentToolCall.policyVersionHash == toolCall.policyVersionHash &&
  hashJson (toolCallImmutablePublicationSemantics currentToolCall) ==
    hashJson (toolCallImmutablePublicationSemantics toolCall)

def sameApprovedExternalAuthorizationPublication
    (input : AtomicApprovedExternalAuthorizationPublicationInput)
    (attempt : Option ExecutionAttemptRecordV1) (grant : Option ExecutionGrantRecord)
    (receipt : Option ActionReceiptRecord) (toolCall : ToolCallRecord) : Bool :=
  attempt.any (fun attempt => hashJson attempt.json == hashJson input.attempt.json) &&
  grant.any (fun grant => hashJson grant.json == hashJson input.grant.json) &&
  receipt.any (fun receipt => hashJson receipt.json == hashJson input.receipt.json) &&
  hashJson toolCall.json == hashJson input.toolCall.json

/-! ### Adoption -/

def adoptionChecks (input : AtomicKnownExternalExecutionOutcomeAdoptionInput) :
    List (Bool × String) :=
  [(input.attemptId == "", "attempt_id"),
    (input.receipt.outcome.isNone, "receipt_outcome"),
    (input.receipt.workspaceId != input.workspaceId, "receipt_workspace"),
    (input.receipt.toolCallId != input.toolCall.id, "receipt_tool_call"),
    (input.toolCall.workspace != input.workspaceId, "tool_call_workspace"),
    (input.toolCall.status != .executed && input.toolCall.status != .failed, "tool_call_status")]

/-- Whether an attempt in the state may or may not have reached its effect. -/
def ExecutionAttemptState.undecided (state : ExecutionAttemptState) : Bool :=
  state == .dispatched || state == .timedOut || state == .unknownOutcome

/-- `none` when the outcome of the attempt can be adopted. -/
def externalOutcomeAdoptionState (attempt : ExecutionAttemptRecordV1) : Option ExternalOutcome :=
  if attempt.state.undecided then some .reconciliationRequired
  else if attempt.state = .reserved then some .stateMismatch
  else if attempt.outcome.any (fun outcome => outcome.known && outcome.status == attempt.state) then
    none
  else some .stateMismatch

def externalExecutionOutcome (toolCall : ToolCallRecord) : Option Json :=
  resultMember toolCall "externalExecutionOutcome"

/-- The bindings that the outcome of an attempt is adopted under. -/
def adoptionBindingsMatch (input : AtomicKnownExternalExecutionOutcomeAdoptionInput)
    (current : ExternalRecords) : Bool :=
  let attempt := current.attempt
  let grant := current.grant
  let receipt := current.receipt
  let toolCall := current.toolCall
  attempt.id == input.attemptId &&
  attempt.workspaceId == input.workspaceId &&
  attempt.toolCallId == input.toolCall.id &&
  attempt.executionMode == .externalGrant &&
  attempt.executorId == "actionproxy.external-runner" &&
  attempt.grantId == some grant.id &&
  grant.workspaceId == input.workspaceId &&
  grant.toolCallId == input.toolCall.id &&
  grant.consumedAt.isSome &&
  grant.inputHash == attempt.inputHash &&
  grant.receiptId == some receipt.id &&
  grant.receiptHash == some receipt.receiptHash &&
  attempt.binding.receiptId == some receipt.id &&
  attempt.binding.receiptHash == some receipt.receiptHash &&
  attempt.binding.actionEnvelopeHash == grant.approvedEnvelopeHash &&
  receipt.id == input.receipt.id &&
  receipt.toolCallId == input.toolCall.id &&
  receipt.workspaceId == input.workspaceId &&
  hashJson (.obj receipt.membersWithoutOutcome) ==
    hashJson (.obj input.receipt.membersWithoutOutcome) &&
  toolCall.workspace == input.workspaceId &&
  toolCall.id == input.toolCall.id &&
  toolCall.status == .authorized &&
  toolCall.inputHash == some attempt.inputHash &&
  sameText toolCall.actionEnvelopeHash attempt.binding.actionEnvelopeHash &&
  hashJson (toolCallImmutableOutcomeSemantics toolCall) ==
    hashJson (toolCallImmutableOutcomeSemantics input.toolCall)

/-- The receipt and the tool call of the input repeat the outcome of the attempt. -/
def adoptionOutcomeMatches (input : AtomicKnownExternalExecutionOutcomeAdoptionInput)
    (outcome : ExecutionAttemptOutcomeV1) (candidate : ActionReceiptOutcome) (succeeded : Bool)
    (toolCall : ToolCallRecord) : Bool :=
  candidate.recordedAt == outcome.recordedAt &&
  candidate.status == (if succeeded then .succeeded else .failed) &&
  outcome.resultDeliveryHash == hashOptional (candidate.resultDelivery.map .obj) &&
  outcome.remediationHash ==
    hashOptional (if succeeded then candidate.remediation.map .obj else none) &&
  (!succeeded || outcome.resultHash == hashOptional (candidate.result.map .obj)) &&
  (succeeded || candidate.error == outcome.errorMessage) &&
  input.toolCall.status == (if succeeded then .executed else .failed) &&
  input.toolCall.error == (if succeeded then toolCall.error else candidate.error) &&
  hashOrNull (input.toolCall.resultDelivery.map .obj) ==
    hashOrNull (candidate.resultDelivery.map .obj)

def knownExternalOutcomeMatchesCurrent
    (input : AtomicKnownExternalExecutionOutcomeAdoptionInput) (current : ExternalRecords) :
    Except String Bool :=
  match input.receipt.outcome, current.attempt.outcome with
  | some candidate, some outcome =>
      let succeeded := current.attempt.state == .succeeded
      if (externalOutcomeAdoptionState current.attempt).isSome then .ok false
      else if !(adoptionBindingsMatch input current &&
          adoptionOutcomeMatches input outcome candidate succeeded current.toolCall) then .ok false
      else if succeeded then do
        let reported ← hashDefined (externalExecutionOutcome input.toolCall)
        let received ← hashDefined (candidate.result.map .obj)
        .ok (reported == received)
      else .ok (hashOrNull input.toolCall.result == hashOrNull current.toolCall.result)
  | _, _ => .ok false

def receiptOutcomeHash (receipt : ActionReceiptRecord) : String :=
  hashOrNull (receipt.outcome.map ActionReceiptOutcome.json)

/-- The stored result may be released where the supplied one is withheld. -/
def resultWithheldCompatible (stored supplied : ToolCallRecord) : Bool :=
  stored.resultWithheld == supplied.resultWithheld ||
    (supplied.resultWithheld == some true && stored.resultWithheld == some false)

def sameTerminalToolCallProjection (supplied stored : ToolCallRecord) : Bool :=
  stored.status == supplied.status &&
  stored.error == supplied.error &&
  hashOrNull stored.result == hashOrNull supplied.result &&
  hashOrNull (stored.resultDelivery.map .obj) == hashOrNull (supplied.resultDelivery.map .obj) &&
  resultWithheldCompatible stored supplied

def sameKnownExternalOutcomeProjection
    (input : AtomicKnownExternalExecutionOutcomeAdoptionInput) (receipt : ActionReceiptRecord)
    (toolCall : ToolCallRecord) : Bool :=
  receiptOutcomeHash receipt == receiptOutcomeHash input.receipt &&
    sameTerminalToolCallProjection input.toolCall toolCall

def outcomeProjectionCanBeAdopted
    (input : AtomicKnownExternalExecutionOutcomeAdoptionInput) (receipt : ActionReceiptRecord)
    (toolCall : ToolCallRecord) : Bool :=
  (receipt.outcome.isNone || receiptOutcomeHash receipt == receiptOutcomeHash input.receipt) &&
    (toolCall.status == .authorized ||
      sameKnownExternalOutcomeProjection input
        (if receipt.outcome.isSome then receipt else input.receipt) toolCall)

/-! ### Recording -/

/-- Whether the reported result and the received one differ, where there is one. -/
def recordedResultDiffers (input : AtomicKnownExternalExecutionOutcomeRecordingInput) :
    Except String Bool :=
  if input.attemptOutcome.status = .succeeded then do
    let reported ← hashDefined (externalExecutionOutcome input.toolCall)
    let received ← hashDefined (input.receiptOutcome.result.map .obj)
    .ok (reported != received)
  else .ok false

def recordingChecks (input : AtomicKnownExternalExecutionOutcomeRecordingInput)
    (resultDiffers : Bool) : List (Bool × String) :=
  let outcome := input.attemptOutcome
  let candidate := input.receiptOutcome
  let toolCall := input.toolCall
  let succeeded := outcome.status == .succeeded
  let failed := outcome.status == .failedAfterDispatch
  let prepared := toolCall.actionEnvelope.bind ActionEnvelope.preparedAction
  let preparedText := fun name => nonEmpty (prepared.bind fun prepared =>
    (member? prepared name).bind asString?)
  [(input.attemptId == "", "attempt_id"),
    (input.reservationOwner == "", "reservation_owner"),
    (!outcome.known, "attempt_certainty"),
    (!succeeded && !failed, "attempt_status"),
    (outcome.retryDisposition != .none, "retry_disposition"),
    (candidate.status != (if succeeded then .succeeded else .failed), "receipt_status"),
    (candidate.recordedAt != outcome.recordedAt, "receipt_recorded_at"),
    (toolCall.status != (if succeeded then .executed else .failed), "tool_call_status"),
    (toolCall.updatedAt != outcome.recordedAt, "tool_call_updated_at"),
    (toolCall.workspace != input.workspaceId, "tool_call_workspace"),
    (toolCallInputHashFails toolCall, "tool_call_input_hash"),
    ((preparedText "intentId").isNone || (preparedText "intentHash").isNone, "prepared_action"),
    (outcome.resultDeliveryHash != hashOptional (candidate.resultDelivery.map .obj),
      "result_delivery_hash"),
    (outcome.remediationHash != hashOptional (candidate.remediation.map .obj),
      "remediation_hash"),
    (outcome.resultHash != hashOptional (candidate.result.map .obj), "result_hash"),
    (outcome.errorMessage != candidate.error, "error_message"),
    (succeeded && candidate.error.isSome, "success_error"),
    (failed && candidate.result.isSome, "failure_result"),
    (failed && candidate.remediation.isSome, "failure_remediation"),
    (toolCall.error != (if succeeded then none else candidate.error), "tool_call_error"),
    (hashOrNull (toolCall.resultDelivery.map .obj) !=
      hashOrNull (candidate.resultDelivery.map .obj), "tool_call_result_delivery"),
    (resultDiffers, "tool_call_result")]

def knownExternalOutcomeRecordingBindingsMatch
    (input : AtomicKnownExternalExecutionOutcomeRecordingInput) (current : ExternalRecords) :
    Bool :=
  let attempt := current.attempt
  let grant := current.grant
  let receipt := current.receipt
  let toolCall := current.toolCall
  attempt.id == input.attemptId &&
  attempt.workspaceId == input.workspaceId &&
  attempt.toolCallId == input.toolCall.id &&
  attempt.reservationOwner == input.reservationOwner &&
  attempt.executionMode == .externalGrant &&
  attempt.executorId == "actionproxy.external-runner" &&
  attempt.providerIdempotency == "none" &&
  attempt.retryPolicy == "never_automatic" &&
  attempt.grantId == some grant.id &&
  grant.workspaceId == input.workspaceId &&
  grant.toolCallId == input.toolCall.id &&
  grant.toolName == input.toolCall.toolName &&
  grant.consumedAt.isSome &&
  grant.inputHash == attempt.inputHash &&
  grant.approvedInputHash == some receipt.approvedInputHash &&
  grant.approvedEnvelopeHash == some receipt.approvedEnvelopeHash &&
  grant.receiptId == some receipt.id &&
  grant.receiptHash == some receipt.receiptHash &&
  attempt.binding.receiptId == some receipt.id &&
  attempt.binding.receiptHash == some receipt.receiptHash &&
  attempt.binding.actionEnvelopeHash == grant.approvedEnvelopeHash &&
  receipt.workspaceId == input.workspaceId &&
  receipt.toolCallId == input.toolCall.id &&
  receipt.toolName == input.toolCall.toolName &&
  receipt.executionMode == .externalGrant &&
  receipt.approvedInputHash == attempt.inputHash &&
  some receipt.approvedEnvelopeHash == attempt.binding.actionEnvelopeHash &&
  toolCall.workspace == input.workspaceId &&
  toolCall.id == input.toolCall.id &&
  toolCall.toolName == input.toolCall.toolName &&
  toolCall.inputHash == some attempt.inputHash &&
  sameText toolCall.actionEnvelopeHash attempt.binding.actionEnvelopeHash &&
  (match toolCall.actionEnvelope.bind ActionEnvelope.preparedAction,
      input.toolCall.actionEnvelope.bind ActionEnvelope.preparedAction with
    | some prepared, some candidate => hashJson (.obj prepared) == hashJson (.obj candidate)
    | _, _ => false) &&
  hashJson (toolCallImmutableOutcomeSemantics toolCall) ==
    hashJson (toolCallImmutableOutcomeSemantics input.toolCall)

def knownExternalOutcomeRecordingMatchesCurrent
    (input : AtomicKnownExternalExecutionOutcomeRecordingInput) (current : ExternalRecords) :
    Bool :=
  knownExternalOutcomeRecordingBindingsMatch input current &&
  current.toolCall.status == .authorized &&
  current.receipt.outcome.isNone

def sameRecordedKnownExternalOutcomeProjection
    (input : AtomicKnownExternalExecutionOutcomeRecordingInput)
    (attempt : ExecutionAttemptRecordV1) (receipt : ActionReceiptRecord)
    (toolCall : ToolCallRecord) : Bool :=
  attempt.state == input.attemptOutcome.status &&
  hashOrNull (attempt.outcome.map ExecutionAttemptOutcomeV1.json) ==
    hashJson input.attemptOutcome.json &&
  receiptOutcomeHash receipt == hashJson input.receiptOutcome.json &&
  sameTerminalToolCallProjection input.toolCall toolCall

def knownExternalOutcomeRecordingConflictDisposition (attempt : ExecutionAttemptRecordV1) :
    ExternalOutcome :=
  if attempt.state.undecided then .reconciliationRequired
  else if attempt.state = .reserved || attempt.state = .cancelled ||
      attempt.state = .failedBeforeDispatch then .stateMismatch
  else .conflict

/-! ### The operations -/

namespace MemoryStore

/-- The store with a published authorization, listed under its tool call. -/
def publish (store : MemoryStore) (input : AtomicApprovedExternalAuthorizationPublicationInput)
    (toolCallId : String) : MemoryStore :=
  { store with
    actionReceipts := store.actionReceipts.set input.receipt.id input.receipt
    executionGrants := store.executionGrants.set input.grant.id input.grant
    executionAttempts := store.executionAttempts.set input.attempt.id input.attempt
    executionAttemptByToolCall := store.executionAttemptByToolCall.set
      (input.toolCall.workspace, toolCallId) input.attempt.id
    toolCalls := store.toolCalls.set input.toolCall.id input.toolCall }

def publishApprovedExternalAuthorizationAtomically (store : MemoryStore)
    (input : AtomicApprovedExternalAuthorizationPublicationInput) :
    Except String ExternalResult × MemoryStore :=
  let workspaceId := input.toolCall.workspace
  let stored := store.toolCalls.get? input.toolCall.id
  let answer := fun (approval : Option ApprovalRecord) (outcome : ExternalOutcome) =>
    ExternalResult.mk approval none none outcome none stored
  if mismatchNames (publicationChecks input) ≠ [] then
    (.error (integrityError "Approved external authorization publication"
      (mismatchNames (publicationChecks input))), store)
  else
    match store.approvals.get? input.approvalId, stored with
    | some approval, some toolCall =>
        if toolCall.workspace ≠ workspaceId then (.ok (answer (some approval) .notFound), store)
        else
          let attempt := store.getExecutionAttemptByToolCallId workspaceId toolCall.id
          let receipt := store.actionReceipts.values.find? fun candidate =>
            candidate.workspaceId == workspaceId && candidate.toolCallId == toolCall.id
          let grant := store.executionGrants.values.find? fun candidate =>
            candidate.workspaceId == workspaceId && candidate.toolCallId == toolCall.id
          if attempt.isSome || receipt.isSome || grant.isSome ||
              toolCall.status == .authorized then
            let outcome :=
              if sameApprovedExternalAuthorizationPublication input attempt grant receipt toolCall
              then .replay else .conflict
            (.ok ⟨some approval, attempt, grant, outcome, receipt, some toolCall⟩, store)
          else if approval.status ≠ .approved || toolCall.status ≠ .pendingApproval then
            (.ok (answer (some approval) .stateMismatch), store)
          else if !approvedExternalAuthorizationMatchesCurrent input approval toolCall then
            (.ok (answer (some approval) .bindingMismatch), store)
          else if (store.executionAttempts.get? input.attempt.id).isSome ||
              (store.executionGrants.get? input.grant.id).isSome ||
              (store.actionReceipts.get? input.receipt.id).isSome then
            (.ok (answer (some approval) .conflict), store)
          else
            (.ok ⟨some approval, some input.attempt, some input.grant, .created,
              some input.receipt, some input.toolCall⟩, store.publish input toolCall.id)
    | approval, _ => (.ok (answer approval .notFound), store)

def adopt (store : MemoryStore) (receipt : ActionReceiptRecord) (toolCall : ToolCallRecord) :
    MemoryStore :=
  { store with
    actionReceipts := store.actionReceipts.set receipt.id receipt
    toolCalls := store.toolCalls.set toolCall.id toolCall }

/-- The grant an attempt names. -/
def attemptGrant (store : MemoryStore) (attempt : ExecutionAttemptRecordV1) :
    Option ExecutionGrantRecord :=
  (nonEmpty attempt.grantId).bind store.executionGrants.get?

def adoptKnownExternalExecutionOutcomeAtomically (store : MemoryStore)
    (input : AtomicKnownExternalExecutionOutcomeAdoptionInput) :
    Except String ExternalResult × MemoryStore :=
  if mismatchNames (adoptionChecks input) ≠ [] then
    (.error (integrityError "Known external execution outcome adoption"
      (mismatchNames (adoptionChecks input))), store)
  else
    let attempt := store.executionAttempts.get? input.attemptId
    let toolCall := store.toolCalls.get? input.toolCall.id
    let receipt := store.actionReceipts.get? input.receipt.id
    let grant := attempt.bind store.attemptGrant
    match attempt, toolCall, receipt, grant with
    | some attempt, some toolCall, some receipt, some grant =>
        let current : ExternalRecords := ⟨attempt, grant, receipt, toolCall⟩
        match externalOutcomeAdoptionState attempt with
        | some outcome => (.ok (current.result outcome), store)
        | none =>
            if sameKnownExternalOutcomeProjection input receipt toolCall then
              (.ok (current.result .replay), store)
            else
              match knownExternalOutcomeMatchesCurrent input current with
              | .error thrown => (.error thrown, store)
              | .ok false => (.ok (current.result .bindingMismatch), store)
              | .ok true =>
                  if !outcomeProjectionCanBeAdopted input receipt toolCall then
                    (.ok (current.result .conflict), store)
                  else
                    let adopted : ExternalRecords :=
                      { current with
                        receipt := if receipt.outcome.isSome then receipt else input.receipt
                        toolCall :=
                          if toolCall.status = .authorized then input.toolCall else toolCall }
                    (.ok (adopted.result .adopted), store.adopt adopted.receipt adopted.toolCall)
    | attempt, toolCall, receipt, grant =>
        (.ok ⟨none, attempt, grant, .notFound, receipt, toolCall⟩, store)

def completedAttempt (current : ExecutionAttemptRecordV1) (outcome : ExecutionAttemptOutcomeV1) :
    ExecutionAttemptRecordV1 :=
  { current with
    completedAt := some outcome.recordedAt
    outcome := some outcome
    state := outcome.status
    updatedAt := outcome.recordedAt }

/-- The store with the attempt, the receipt and the tool call of the records. -/
def complete (store : MemoryStore) (records : ExternalRecords) : MemoryStore :=
  { store with
    executionAttempts := store.executionAttempts.set records.attempt.id records.attempt
    actionReceipts := store.actionReceipts.set records.receipt.id records.receipt
    toolCalls := store.toolCalls.set records.toolCall.id records.toolCall }

def recordKnownExternalExecutionOutcomeAtomically (store : MemoryStore)
    (input : AtomicKnownExternalExecutionOutcomeRecordingInput) :
    Except String ExternalResult × MemoryStore :=
  match recordedResultDiffers input with
  | .error thrown => (.error thrown, store)
  | .ok resultDiffers =>
      if mismatchNames (recordingChecks input resultDiffers) ≠ [] then
        (.error (integrityError "Known external execution outcome recording"
          (mismatchNames (recordingChecks input resultDiffers))), store)
      else
        match store.executionAttempts.get? input.attemptId with
        | none => (.ok ⟨none, none, none, .notFound, none, none⟩, store)
        | some attempt =>
            if attempt.workspaceId ≠ input.workspaceId then
              (.ok ⟨none, none, none, .notFound, none, none⟩, store)
            else
              match store.toolCalls.get? attempt.toolCallId,
                  (nonEmpty attempt.binding.receiptId).bind store.actionReceipts.get?,
                  store.attemptGrant attempt with
              | some toolCall, some receipt, some grant =>
                  let current : ExternalRecords := ⟨attempt, grant, receipt, toolCall⟩
                  let disposition := knownExternalOutcomeRecordingConflictDisposition attempt
                  if attempt.reservationOwner ≠ input.reservationOwner then
                    (.ok (current.result .ownerMismatch), store)
                  else if !knownExternalOutcomeRecordingBindingsMatch input current then
                    (.ok (current.result .bindingMismatch), store)
                  else if sameRecordedKnownExternalOutcomeProjection input attempt receipt
                      toolCall then
                    (.ok (current.result .replay), store)
                  else if !knownExternalOutcomeRecordingMatchesCurrent input current then
                    (.ok (current.result disposition), store)
                  else if attempt.state ≠ .dispatched then
                    (.ok (current.result disposition), store)
                  else
                    let completed : ExternalRecords :=
                      { current with
                        attempt := completedAttempt attempt input.attemptOutcome
                        receipt := { receipt with outcome := some input.receiptOutcome }
                        toolCall := input.toolCall }
                    (.ok (completed.result .recorded), store.complete completed)
              | toolCall, receipt, grant =>
                  (.ok ⟨none, some attempt, grant, .notFound, receipt, toolCall⟩, store)

end MemoryStore

end

end ActionProxy
