import ActionProxy.Contracts.ApprovalAuthorization
import ActionProxy.Contracts.ContentInfluence
import ActionProxy.Foundation.KeyedTable

/-!
The in-memory store. Each operation is one synchronous step: it takes the
store and, where it reads the clock, the time of the call, and gives its answer
and the store after it.
-/

namespace ActionProxy

open JsonText

/-- The exposures of a scope by source call, the first of them in time order, and
how many were recorded. -/
structure ContentExposureScope where
  orderedPrefix : List ContentExposureRecord
  records : KeyedTable String ContentExposureRecord
  revision : Int

structure MemoryStore where
  toolCalls : KeyedTable String ToolCallRecord
  contentExposureScopes : KeyedTable (String × String) ContentExposureScope
  approvals : KeyedTable String ApprovalRecord
  executionGrants : KeyedTable String ExecutionGrantRecord
  executionAttempts : KeyedTable String ExecutionAttemptRecordV1
  executionAttemptByToolCall : KeyedTable (String × String) String
  actionReceipts : KeyedTable String ActionReceiptRecord

/-! ### Inputs and answers -/

structure ApprovalAuthorizationGuard where
  activePolicyVersionHash : String
  authorization : ApprovalAuthorizationV1
  originalInput : JsonObject

structure AtomicApprovalDecisionInput where
  approvalId : String
  authorization : ApprovalAuthorizationGuard
  approvedEnvelopeHash : String
  approvedInputHash : String
  decision : ApprovalDecisionRecord
  editedInput : Option JsonObject
  note : Option String
  reviewHash : String
  updatedAt : String
  contentExposureRevision : Option ContentExposureRevisionGuard

structure AtomicApprovalRejectionInput where
  approvalId : String
  authorization : Option ApprovalAuthorizationGuard
  reason : Option String
  rejectedBy : String
  updatedAt : String

structure AtomicApprovalCancellationInput where
  approvalId : String
  authorization : Option ApprovalAuthorizationGuard
  cancelledBy : String
  reason : Option String
  updatedAt : String

structure AtomicApprovalExpiryInput where
  approvalId : String
  authorization : ApprovalAuthorizationV1
  expiredAt : String

/-- The outcomes of the four approval transitions. -/
inductive ApprovalOutcome where
  | notFound | replayed | alreadyFinal | contentInfluenceMismatch | authorizationMismatch
  | expired | duplicate | recorded | finalized | rejected | cancelled
  deriving DecidableEq

/-- The transition was made: a decision was recorded or the approval became final. -/
def ApprovalOutcome.isSuccess : ApprovalOutcome → Bool
  | .recorded | .finalized | .rejected | .cancelled => true
  | _ => false

structure ApprovalResult where
  approval : Option ApprovalRecord
  outcome : ApprovalOutcome

structure AtomicExecutionAttemptTransitionInput where
  attemptId : String
  expectedState : ExecutionAttemptState
  /-- `expectedState` is one of the two states that are left. -/
  open_expected : expectedState.isTerminal = false
  nextState : ExecutionAttemptState
  outcome : Option ExecutionAttemptOutcomeV1
  reservationOwner : String
  transitionedAt : String
  workspaceId : String
  contentExposureRevision : Option ContentExposureRevisionGuard

structure AtomicExecutionAttemptGrantBindingInput where
  attemptId : String
  grantId : String
  reservationOwner : String
  updatedAt : String
  workspaceId : String

structure AtomicGrantDispatchInput where
  attemptId : String
  dispatchedAt : String
  grantId : String
  reservationOwner : String
  toolCallId : String
  workspaceId : String
  contentExposureRevision : Option ContentExposureRevisionGuard

inductive AttemptOutcome where
  | notFound | bindingMismatch | existing | reserved | alreadyTerminal | contentInfluenceMismatch
  | ownerMismatch | replay | stateMismatch | transitioned | alreadyBound | bound
  deriving DecidableEq

structure AttemptResult where
  attempt : Option ExecutionAttemptRecordV1
  outcome : AttemptOutcome

inductive DispatchOutcome where
  | attemptNotFound | attemptStateMismatch | bindingMismatch | contentInfluenceMismatch
  | dispatched | grantAlreadyConsumed | grantNotFound
  deriving DecidableEq

structure DispatchResult where
  attempt : Option ExecutionAttemptRecordV1
  grant : Option ExecutionGrantRecord
  outcome : DispatchOutcome

inductive ReceiptOutcomeAnswer where
  | existing | notFound | recorded
  deriving DecidableEq

structure ReceiptResult where
  receipt : Option ActionReceiptRecord
  outcome : ReceiptOutcomeAnswer

namespace MemoryStore

/-- `expected` matches when it is absent or names the scope's current revision. -/
def contentExposureRevisionMatches (store : MemoryStore) (workspaceId : String)
    (expected : Option ContentExposureRevisionGuard) : Bool :=
  match expected with
  | none => true
  | some expected =>
      ((store.contentExposureScopes.get? (workspaceId, expected.influenceScopeId)).map
        ContentExposureScope.revision).getD 0 == expected.revision

/-! ### Approval helpers -/

def hasApprovalDecision (decisions : List ApprovalDecisionRecord)
    (candidate : ApprovalDecisionRecord) : Bool :=
  decisions.any fun decision =>
    decision.actor == candidate.actor ||
      (candidate.auth.isSome &&
        decision.auth.map AuthContext.principalId == candidate.auth.map AuthContext.principalId)

/-- What every decision under an authorization repeats of it. -/
def decisionBoundTo (authorization : ApprovalAuthorizationV1) (decision : ApprovalDecisionRecord) :
    Bool :=
  decision.authorizationVersion == some authorization.version &&
  decision.authorizationHash == some authorization.authorizationHash &&
  decision.authorizationNonce == some authorization.nonce &&
  decision.decisionId == authorization.binding.decision.decisionId &&
  decision.reviewHash == some authorization.binding.action.reviewHash

def decisionMatchesAuthorization (input : AtomicApprovalDecisionInput)
    (authorization : ApprovalAuthorizationV1) : Bool :=
  !(decide (1 < authorization.binding.requirements.requiredApprovals) &&
    (input.editedInput.isSome || input.decision.editedInput.isSome ||
      input.decision.inputDecision != some .original)) &&
  decisionBoundTo authorization input.decision &&
  input.reviewHash == authorization.binding.action.reviewHash &&
  input.decision.approvedInputHash == some input.approvedInputHash &&
  input.decision.approvedEnvelopeHash == some input.approvedEnvelopeHash

def priorDecisionsMatchAuthorization (decisions : List ApprovalDecisionRecord)
    (authorization : ApprovalAuthorizationV1) (approvedInputHash : Option String)
    (approvedEnvelopeHash : Option String) : Bool :=
  decisions.all fun decision =>
    decisionBoundTo authorization decision &&
      (approvedInputHash.isNone || decision.approvedInputHash == approvedInputHash) &&
      (approvedEnvelopeHash.isNone || decision.approvedEnvelopeHash == approvedEnvelopeHash)

def expireApproval (approval : ApprovalRecord) (expiredAt : String) : ApprovalRecord :=
  { approval with
    authorizationConsumedAt := some expiredAt
    authorizationConsumedReason := some .expired
    expiredAt := some expiredAt
    finalizedAt := some expiredAt
    status := .expired
    updatedAt := expiredAt }

section

variable [Runtime]

/-- Two usable authorizations with one JSON text; records of one type list
their members in one order. -/
def sameAuthorization (stored : Option ApprovalAuthorizationV1)
    (supplied : ApprovalAuthorizationV1) : Bool :=
  match stored with
  | none => false
  | some stored =>
      isValidApprovalAuthorization stored && isValidApprovalAuthorization supplied &&
        decide (stored = supplied)

/-- An authorization that was consumed, by the same authorization. -/
def isReplay (current : ApprovalRecord) (authorization : ApprovalAuthorizationV1) : Bool :=
  (nonEmpty current.authorizationConsumedAt).isSome &&
    sameAuthorization current.authorization authorization

def approvalAuthorizationFailure (store : MemoryStore) (approval : ApprovalRecord)
    (supplied : ApprovalAuthorizationGuard) : Option ApprovalOutcome :=
  if (nonEmpty approval.authorizationConsumedAt).isSome then some .replayed
  else if !sameAuthorization approval.authorization supplied.authorization then
    some .authorizationMismatch
  else
    match store.toolCalls.get? approval.toolCallId with
    | none => some .authorizationMismatch
    | some toolCall =>
        if some supplied.activePolicyVersionHash != toolCall.policyVersionHash ||
            supplied.activePolicyVersionHash !=
              supplied.authorization.binding.policy.legacyVersionHash ||
            hashJson (.obj supplied.originalInput) !=
              supplied.authorization.binding.action.originalInputHash ||
            hashJson (.obj supplied.originalInput) != hashJson (.obj approval.originalInput) ||
            (approvalAuthorizationMismatch supplied.authorization approval toolCall).isSome ||
            !priorDecisionsMatchAuthorization approval.recorded supplied.authorization none none
        then some .authorizationMismatch
        else none

/-! ### Approval transitions -/

def setApproval (store : MemoryStore) (approval : ApprovalRecord) : MemoryStore :=
  { store with approvals := store.approvals.set approval.id approval }

/-- The decision brings the approval to its quorum. -/
def reachesQuorum (input : AtomicApprovalDecisionInput) (current : ApprovalRecord) : Bool :=
  decide (current.quorum ≤ ((current.recorded ++ [input.decision]).length : Int))

/-- The approval with one more decision, final when that reaches the quorum. -/
def decidedApproval (input : AtomicApprovalDecisionInput) (current : ApprovalRecord) :
    ApprovalRecord :=
  let finalized := reachesQuorum input current
  { current with
    approvedBy := if finalized then some input.decision.actor else current.approvedBy
    approvedEnvelopeHash :=
      if finalized then some input.approvedEnvelopeHash else current.approvedEnvelopeHash
    approvedInputHash :=
      if finalized then some input.approvedInputHash else current.approvedInputHash
    decisions := some (current.recorded ++ [input.decision])
    editedInput := input.editedInput <|> current.editedInput
    note := input.note
    reviewHash := some input.reviewHash
    status := if finalized then .approved else .pending
    updatedAt := input.updatedAt
    authorizationConsumedAt :=
      if finalized then some input.updatedAt else current.authorizationConsumedAt
    authorizationConsumedReason :=
      if finalized then some .approved else current.authorizationConsumedReason
    finalizedAt := if finalized then some input.updatedAt else current.finalizedAt }

def recordApprovalDecisionAtomically (store : MemoryStore) (now : Int)
    (input : AtomicApprovalDecisionInput) : ApprovalResult × MemoryStore :=
  match store.approvals.get? input.approvalId with
  | none => ({ approval := none, outcome := .notFound }, store)
  | some current =>
      if isReplay current input.authorization.authorization then
        ({ approval := some current, outcome := .replayed }, store)
      else if current.status ≠ .pending then
        ({ approval := some current, outcome := .alreadyFinal }, store)
      else if !store.contentExposureRevisionMatches current.workspace
          input.contentExposureRevision then
        ({ approval := some current, outcome := .contentInfluenceMismatch }, store)
      else
        match store.approvalAuthorizationFailure current input.authorization with
        | some failure => ({ approval := some current, outcome := failure }, store)
        | none =>
            match current.authorization with
            | none => ({ approval := some current, outcome := .authorizationMismatch }, store)
            | some authorization =>
                if approvalAuthorizationExpired authorization now then
                  let expired := expireApproval current authorization.expiresAt
                  ({ approval := some expired, outcome := .expired }, store.setApproval expired)
                else if !decisionMatchesAuthorization input authorization then
                  ({ approval := some current, outcome := .authorizationMismatch }, store)
                else if !priorDecisionsMatchAuthorization current.recorded authorization
                    (some input.approvedInputHash) (some input.approvedEnvelopeHash) then
                  ({ approval := some current, outcome := .authorizationMismatch }, store)
                else if hasApprovalDecision current.recorded input.decision then
                  ({ approval := some current, outcome := .duplicate }, store)
                else
                  let approval := decidedApproval input current
                  ({ approval := some approval,
                     outcome := if reachesQuorum input current then .finalized else .recorded },
                    store.setApproval approval)

/-- The checks that rejection and cancellation share, and the transition they end in. -/
def finishApproval (store : MemoryStore) (now : Int) (approvalId : String)
    (supplied : Option ApprovalAuthorizationGuard) (outcome : ApprovalOutcome)
    (finish : ApprovalRecord → ApprovalRecord) : ApprovalResult × MemoryStore :=
  match store.approvals.get? approvalId with
  | none => ({ approval := none, outcome := .notFound }, store)
  | some current =>
      let finished : ApprovalResult × MemoryStore :=
        ({ approval := some (finish current), outcome := outcome },
          store.setApproval (finish current))
      if supplied.any (fun supplied => isReplay current supplied.authorization) then
        ({ approval := some current, outcome := .replayed }, store)
      else if current.status ≠ .pending then
        ({ approval := some current, outcome := .alreadyFinal }, store)
      else
        match current.authorization, supplied with
        | none, _ => finished
        | some _, none => ({ approval := some current, outcome := .authorizationMismatch }, store)
        | some authorization, some supplied =>
            match store.approvalAuthorizationFailure current supplied with
            | some failure => ({ approval := some current, outcome := failure }, store)
            | none =>
                if approvalAuthorizationExpired authorization now then
                  let expired := expireApproval current authorization.expiresAt
                  ({ approval := some expired, outcome := .expired }, store.setApproval expired)
                else finished

def rejectedApproval (input : AtomicApprovalRejectionInput) (current : ApprovalRecord) :
    ApprovalRecord :=
  { current with
    authorizationConsumedAt := current.authorization.map (fun _ => input.updatedAt)
    authorizationConsumedReason := current.authorization.map (fun _ => .rejected)
    finalizedAt := some input.updatedAt
    rejectedBy := some input.rejectedBy
    rejectionReason := input.reason
    status := .rejected
    updatedAt := input.updatedAt }

def rejectApprovalAtomically (store : MemoryStore) (now : Int)
    (input : AtomicApprovalRejectionInput) : ApprovalResult × MemoryStore :=
  store.finishApproval now input.approvalId input.authorization .rejected (rejectedApproval input)

def cancelledApproval (input : AtomicApprovalCancellationInput) (current : ApprovalRecord) :
    ApprovalRecord :=
  { current with
    authorizationConsumedAt := current.authorization.map (fun _ => input.updatedAt)
    authorizationConsumedReason := current.authorization.map (fun _ => .cancelled)
    cancelledAt := some input.updatedAt
    cancelledBy := some input.cancelledBy
    cancellationReason := input.reason
    finalizedAt := some input.updatedAt
    status := .cancelled
    updatedAt := input.updatedAt }

def cancelApprovalAtomically (store : MemoryStore) (now : Int)
    (input : AtomicApprovalCancellationInput) : ApprovalResult × MemoryStore :=
  store.finishApproval now input.approvalId input.authorization .cancelled
    (cancelledApproval input)

def expireApprovalAtomically (store : MemoryStore) (now : Int)
    (input : AtomicApprovalExpiryInput) : ApprovalResult × MemoryStore :=
  match store.approvals.get? input.approvalId with
  | none => ({ approval := none, outcome := .notFound }, store)
  | some current =>
      if current.status ≠ .pending then
        ({ approval := some current, outcome := .alreadyFinal }, store)
      else if !sameAuthorization current.authorization input.authorization then
        ({ approval := some current, outcome := .authorizationMismatch }, store)
      else if !current.authorization.any (fun authorization =>
          approvalAuthorizationExpired authorization now) then
        ({ approval := some current, outcome := .authorizationMismatch }, store)
      else
        let expired := expireApproval current input.expiredAt
        ({ approval := some expired, outcome := .expired }, store.setApproval expired)

end

end MemoryStore

end ActionProxy
