import ActionProxy.Security.Crypto

/-!
The records of the server. A value that the modelled code only stores, passes on
or hashes (an action envelope's parts, a remediation descriptor, a tool result)
is its JSON value; every field a modelled function reads is typed as in the
source. Timestamps are texts and an optional field is an option.
-/

namespace ActionProxy

open JsonText

/-! ### Enumerations -/

inductive PolicyDecision where
  | allow | requireApproval | deny
  deriving DecidableEq

def PolicyDecision.text : PolicyDecision → String
  | .allow => "allow"
  | .requireApproval => "require_approval"
  | .deny => "deny"

theorem PolicyDecision.text_injective : Function.Injective PolicyDecision.text := by
  intro left right same
  cases left <;> cases right <;> first | rfl | exact absurd same (by decide)

inductive ToolCallStatus where
  | submitted | authorized | executed | pendingApproval | blocked | rejected | failed
  deriving DecidableEq

def ToolCallStatus.text : ToolCallStatus → String
  | .submitted => "submitted"
  | .authorized => "authorized"
  | .executed => "executed"
  | .pendingApproval => "pending_approval"
  | .blocked => "blocked"
  | .rejected => "rejected"
  | .failed => "failed"

inductive ApprovalStatus where
  | pending | approved | cancelled | expired | rejected | superseded
  deriving DecidableEq

/-- Why an authorization was consumed; each reason is the final status it goes with. -/
inductive ConsumedReason where
  | approved | cancelled | expired | rejected | superseded
  deriving DecidableEq

def ConsumedReason.status : ConsumedReason → ApprovalStatus
  | .approved => .approved
  | .cancelled => .cancelled
  | .expired => .expired
  | .rejected => .rejected
  | .superseded => .superseded

inductive PrincipalType where
  | localUser | serviceAccount | slack | telegram | user
  deriving DecidableEq

def PrincipalType.text : PrincipalType → String
  | .localUser => "local"
  | .serviceAccount => "service_account"
  | .slack => "slack"
  | .telegram => "telegram"
  | .user => "user"

inductive AuthProvider where
  | apiKey | none | oidcJwt | slack | telegram | tunnelSingleUser
  deriving DecidableEq

def AuthProvider.text : AuthProvider → String
  | .apiKey => "api_key"
  | .none => "none"
  | .oidcJwt => "oidc_jwt"
  | .slack => "slack"
  | .telegram => "telegram"
  | .tunnelSingleUser => "tunnel_single_user"

inductive InputDecision where
  | edited | original
  deriving DecidableEq

inductive ApprovalDecisionSource where
  | actionproxy | slack | system | telegram
  deriving DecidableEq

inductive ActionExecutionMode where
  | externalGrant | localMock
  deriving DecidableEq

inductive ReceiptDecisionKind where
  | humanApproval | policyAllow
  deriving DecidableEq

def ReceiptDecisionKind.text : ReceiptDecisionKind → String
  | .humanApproval => "human_approval"
  | .policyAllow => "policy_allow"

inductive ReceiptOutcomeStatus where
  | failed | succeeded
  deriving DecidableEq

def ReceiptOutcomeStatus.text : ReceiptOutcomeStatus → String
  | .failed => "failed"
  | .succeeded => "succeeded"

inductive ExecutionAttemptState where
  | reserved | dispatched | succeeded | failedBeforeDispatch | failedAfterDispatch | timedOut
  | cancelled | unknownOutcome
  deriving DecidableEq

def ExecutionAttemptState.text : ExecutionAttemptState → String
  | .reserved => "reserved"
  | .dispatched => "dispatched"
  | .succeeded => "succeeded"
  | .failedBeforeDispatch => "failed_before_dispatch"
  | .failedAfterDispatch => "failed_after_dispatch"
  | .timedOut => "timed_out"
  | .cancelled => "cancelled"
  | .unknownOutcome => "unknown_outcome"

/-- `executionAttemptIsTerminal`. -/
def ExecutionAttemptState.isTerminal (state : ExecutionAttemptState) : Bool :=
  state != .reserved && state != .dispatched

inductive ExecutionRetryDisposition where
  | none | explicitNewAttemptRequired | manualReconciliationRequired
  deriving DecidableEq

def ExecutionRetryDisposition.text : ExecutionRetryDisposition → String
  | .none => "none"
  | .explicitNewAttemptRequired => "explicit_new_attempt_required"
  | .manualReconciliationRequired => "manual_reconciliation_required"

/-- The errors the services throw, each with its message. -/
inductive ServiceError where
  | conflict (message : String)
  | forbidden (message : String)
  | notFound (message : String)
  | other (message : String)
  deriving DecidableEq

/-! ### Principals -/

structure AuthContext where
  principalId : String
  principalType : PrincipalType
  displayName : String
  email : Option String
  groups : List String
  scopes : List String
  authProvider : AuthProvider
  clientId : Option String
  workspaceId : String
  deriving DecidableEq

/-! ### Approval authorizations -/

structure AuthorizationAction where
  originalEnvelopeHash : String
  originalInputHash : String
  reviewHash : String
  deriving DecidableEq

structure AuthorizationApproval where
  approvalId : String
  requestedBy : String
  requestedByPrincipalId : Option String
  tenantId : String
  toolCallId : String
  deriving DecidableEq

structure AuthorizationDecision where
  decisionId : Option String
  outcome : PolicyDecision
  version : Option String
  deriving DecidableEq

structure AuthorizationPolicy where
  digest : Option String
  evaluatorVersion : Option String
  legacyVersionHash : String
  legacyVersionId : Option String
  providerId : Option String
  providerVersion : Option String
  version : Option String
  deriving DecidableEq

structure AuthorizationRequest where
  decisionInputHash : Option String
  requestHash : Option String
  version : Option String
  deriving DecidableEq

structure AuthorizationRequirements where
  eligibleGroups : List String
  eligibleUsers : Option (List String)
  requiredApprovals : Int
  separationOfDuties : Bool
  deriving DecidableEq

structure ApprovalAuthorizationBinding where
  action : AuthorizationAction
  approval : AuthorizationApproval
  decision : AuthorizationDecision
  policy : AuthorizationPolicy
  request : AuthorizationRequest
  requirements : AuthorizationRequirements
  deriving DecidableEq

structure ApprovalAuthorizationV1 where
  authorizationHash : String
  binding : ApprovalAuthorizationBinding
  expiresAt : String
  issuedAt : String
  nonce : String
  version : String
  deriving DecidableEq

/-! ### Content influence -/

inductive ApprovalMode where
  | never | required | deny
  deriving DecidableEq

def ApprovalMode.text : ApprovalMode → String
  | .never => "never"
  | .required => "required"
  | .deny => "deny"

inductive ContentIntegrity where
  | organizationManaged | verifiedPublisher | authenticatedExternal | publicUntrusted | unknown
  deriving DecidableEq

def ContentIntegrity.text : ContentIntegrity → String
  | .organizationManaged => "organization_managed"
  | .verifiedPublisher => "verified_publisher"
  | .authenticatedExternal => "authenticated_external"
  | .publicUntrusted => "public_untrusted"
  | .unknown => "unknown"

/-- A content integrity, or `none` when nothing was observed. -/
abbrev ContentInfluenceSource := Option ContentIntegrity

def influenceSourceText (source : ContentInfluenceSource) : String :=
  source.elim "none" ContentIntegrity.text

/-- A guard narrows the base policy: `otherwise` is `required` or `deny`. -/
structure PolicyInfluenceGuard where
  allowFrom : List ContentInfluenceSource
  otherwise : ApprovalMode
  narrows : otherwise ≠ .never

structure ContentInfluenceScope where
  id : Option String
  verified : Bool
  deriving DecidableEq

structure ContentInfluencePolicy where
  versionHash : String
  versionId : Option String
  deriving DecidableEq

structure ContentInfluenceSourceReference where
  integrity : ContentIntegrity
  sourceId : Option String
  sourceToolCallId : String
  deriving DecidableEq

/-- Evidence of the content a decision was made under. -/
structure ContentInfluenceEvidenceV1 where
  baseDecision : PolicyDecision
  bindingHash : String
  effectiveDecision : PolicyDecision
  evaluatedAt : String
  exposureRevision : Int
  exposureSnapshotHash : String
  influenceScope : ContentInfluenceScope
  observedSources : List ContentInfluenceSource
  policy : ContentInfluencePolicy
  selectedRule : PolicyInfluenceGuard
  sourceCount : Nat
  sourceCountIsLowerBound : Bool
  sourceReferences : List ContentInfluenceSourceReference
  version : String

structure ContentExposureRecord where
  influenceScopeId : String
  integrity : ContentIntegrity
  observedAt : String
  policyVersionHash : String
  sourceId : Option String
  sourceToolCallId : String
  workspaceId : String
  deriving DecidableEq

structure ContentExposureRevisionGuard where
  influenceScopeId : String
  revision : Int
  deriving DecidableEq

/-! ### Action envelopes -/

/-- An action envelope; `body` holds the members the modelled code only hashes. -/
structure ActionEnvelope where
  envelopeHash : String
  executionMode : ActionExecutionMode
  input : JsonObject
  inputHash : String
  preparedAction : Option JsonObject
  body : JsonObject

/-! ### Tool calls -/

structure ToolCallRecord where
  id : String
  workspaceId : Option String
  toolName : String
  input : JsonObject
  inputHash : Option String
  actionEnvelope : Option ActionEnvelope
  actionEnvelopeHash : Option String
  canonicalActionRequestHash : Option String
  canonicalActionRequestVersion : Option String
  canonicalDecisionInputHash : Option String
  canonicalPolicyContext : Option JsonObject
  contentInfluence : Option ContentInfluenceEvidenceV1
  influenceScopeId : Option String
  requestedBy : String
  requestedByAuth : Option AuthContext
  agentId : String
  reason : String
  metadata : JsonObject
  status : ToolCallStatus
  decision : Option PolicyDecision
  authorizationDecision : Option PolicyDecision
  authorizationReason : Option String
  decisionTrace : Option JsonObject
  policyReason : Option String
  policyVersionId : Option String
  policyVersionHash : Option String
  resultDelivery : Option JsonObject
  resultSource : Option Json
  resultWithheld : Option Bool
  risk : Option String
  result : Option Json
  error : Option String
  createdAt : String
  updatedAt : String

/-- The workspace a record belongs to, `default` when it names none. -/
def ToolCallRecord.workspace (toolCall : ToolCallRecord) : String :=
  toolCall.workspaceId.getD "default"

/-! ### Approvals -/

structure ApprovalDecisionRecord where
  actor : String
  auth : Option AuthContext
  authorizationHash : Option String
  authorizationNonce : Option String
  authorizationVersion : Option String
  approvedEnvelopeHash : Option String
  approvedInputHash : Option String
  decisionId : Option String
  decidedAt : String
  editedInput : Option JsonObject
  inputDecision : Option InputDecision
  note : Option String
  reviewHash : Option String
  source : Option ApprovalDecisionSource

structure ApprovalRecord where
  id : String
  workspaceId : Option String
  toolCallId : String
  status : ApprovalStatus
  requestedBy : String
  requestedByAuth : Option AuthContext
  authorization : Option ApprovalAuthorizationV1
  authorizationConsumedAt : Option String
  authorizationConsumedReason : Option ConsumedReason
  approvedBy : Option String
  cancelledAt : Option String
  cancelledBy : Option String
  cancellationReason : Option String
  expiredAt : Option String
  finalizedAt : Option String
  rejectedBy : Option String
  note : Option String
  rejectionReason : Option String
  originalInput : JsonObject
  originalEnvelopeHash : Option String
  originalInputHash : Option String
  editedInput : Option JsonObject
  approvedEnvelopeHash : Option String
  approvedInputHash : Option String
  reviewHash : Option String
  approverUsers : Option (List String)
  approverGroups : Option (List String)
  requiredApprovals : Option Int
  separationOfDuties : Option Bool
  supersededAt : Option String
  supersededByApprovalId : Option String
  decisions : Option (List ApprovalDecisionRecord)
  createdAt : String
  updatedAt : String

def ApprovalRecord.workspace (approval : ApprovalRecord) : String :=
  approval.workspaceId.getD "default"

/-- `decisions ?? []`. -/
def ApprovalRecord.recorded (approval : ApprovalRecord) : List ApprovalDecisionRecord :=
  approval.decisions.getD []

/-- `Math.max(1, requiredApprovals ?? 1)`. -/
def ApprovalRecord.quorum (approval : ApprovalRecord) : Int :=
  max 1 (approval.requiredApprovals.getD 1)

/-! ### Execution -/

structure ExecutionGrantRecord where
  id : String
  workspaceId : String
  toolCallId : String
  toolName : String
  inputHash : String
  approvedEnvelopeHash : Option String
  approvedInputHash : Option String
  policyVersionHash : Option String
  receiptHash : Option String
  receiptId : Option String
  actor : String
  auth : Option AuthContext
  expiresAt : String
  nonce : String
  signature : String
  consumedAt : Option String
  createdAt : String

structure ActionReceiptOutcome where
  auth : Option AuthContext
  error : Option String
  recordedAt : String
  recordedBy : String
  remediation : Option JsonObject
  result : Option JsonObject
  resultDelivery : Option JsonObject
  status : ReceiptOutcomeStatus

structure ActionReceiptRecord where
  approvalId : Option String
  approvedEnvelopeHash : String
  approvedInputHash : String
  createdAt : String
  decisionActor : String
  decisionAuth : Option AuthContext
  decisionKind : ReceiptDecisionKind
  executionMode : ActionExecutionMode
  expiresAt : Option String
  id : String
  issuedAt : String
  keyId : String
  operation : Json
  originalEnvelopeHash : String
  originalInputHash : String
  outcome : Option ActionReceiptOutcome
  policyDecision : Option PolicyDecision
  policyReason : Option String
  policyRisk : Option String
  policyVersionHash : Option String
  policyVersionId : Option String
  protocol : String
  receiptHash : String
  reviewHash : Option String
  signature : String
  signatureAlg : String
  source : Json
  toolCallId : String
  toolName : String
  version : String
  workspaceId : String

structure ExecutionAttemptBindingV1 where
  actionEnvelopeHash : Option String
  approvalAuthorizationHash : Option String
  approvalAuthorizationNonce : Option String
  approvalId : Option String
  canonicalActionRequestHash : Option String
  canonicalActionRequestVersion : Option String
  canonicalDecisionInputHash : Option String
  contentInfluenceBindingHash : Option String
  decisionId : Option String
  decisionVersion : Option String
  influenceScopeId : Option String
  policyVersionHash : Option String
  receiptHash : Option String
  receiptId : Option String
  resultSourceHash : Option String
  deriving DecidableEq

structure ExecutionAttemptOutcomeV1 where
  /-- Whether the certainty is `known`. -/
  known : Bool
  errorClass : Option String
  errorCode : Option String
  errorMessage : Option String
  remediationHash : Option String
  recordedAt : String
  resultDeliveryHash : Option String
  resultHash : Option String
  retryDisposition : ExecutionRetryDisposition
  status : ExecutionAttemptState
  deriving DecidableEq

structure ExecutionAttemptRecordV1 where
  attemptNumber : Int
  binding : ExecutionAttemptBindingV1
  completedAt : Option String
  dispatchedAt : Option String
  executionMode : ActionExecutionMode
  executorId : String
  grantId : Option String
  id : String
  inputHash : String
  outcome : Option ExecutionAttemptOutcomeV1
  providerIdempotency : String
  reservedAt : String
  reservationOwner : String
  retryPolicy : String
  state : ExecutionAttemptState
  toolCallId : String
  updatedAt : String
  version : String
  workspaceId : String
  deriving DecidableEq

end ActionProxy
