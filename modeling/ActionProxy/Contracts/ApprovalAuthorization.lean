import ActionProxy.Contracts.ActionRequest

/-!
The authorization an approval is published with: what it binds, when it is
valid, and when an approval and its tool call still agree with it.
-/

namespace ActionProxy

open JsonText

def approvalAuthorizationVersion : String := "actionproxy.approval-authorization.v1"

/-! ### The decision of a tool call -/

structure DecisionIdentity where
  decisionId : String
  decisionInputHash : String
  evaluatorVersion : Option String
  digest : Option String
  providerId : String
  providerVersion : Option String
  policyVersion : Option String
  version : String
  deriving DecidableEq

/-- The canonical decision in a tool call's trace, when it is complete. -/
def decisionIdentity (toolCall : ToolCallRecord) : Option DecisionIdentity := do
  let trace ← toolCall.decisionTrace
  let candidate ← member? trace "decisionV1"
  let version ← (field? candidate "version").bind asString?
  guard (version = "actionproxy.decision.v1")
  let decisionId ← nonEmpty ((field? candidate "decisionId").bind asString?)
  let decisionInputHash ← nonEmpty ((field? candidate "decisionInputHash").bind asString?)
  let policy ← field? candidate "policy"
  let provider ← field? policy "provider"
  let providerId ← nonEmpty ((field? provider "id").bind asString?)
  return {
    decisionId := decisionId
    decisionInputHash := decisionInputHash
    evaluatorVersion := (field? candidate "evaluatorVersion").bind asString?
    digest := (field? policy "digest").bind asString?
    providerId := providerId
    providerVersion := (field? provider "version").bind asString?
    policyVersion := (field? policy "version").bind asString?
    version := version }

/-! ### Hash and validity -/

def bindingJson (binding : ApprovalAuthorizationBinding) : Json :=
  .obj [
    ("action", some (.obj [
      ("originalEnvelopeHash", some (.str binding.action.originalEnvelopeHash)),
      ("originalInputHash", some (.str binding.action.originalInputHash)),
      ("reviewHash", some (.str binding.action.reviewHash))])),
    ("approval", some (.obj [
      ("approvalId", some (.str binding.approval.approvalId)),
      ("requestedBy", some (.str binding.approval.requestedBy)),
      ("requestedByPrincipalId", nullable binding.approval.requestedByPrincipalId),
      ("tenantId", some (.str binding.approval.tenantId)),
      ("toolCallId", some (.str binding.approval.toolCallId))])),
    ("decision", some (.obj [
      ("decisionId", nullable binding.decision.decisionId),
      ("outcome", some (.str binding.decision.outcome.text)),
      ("version", nullable binding.decision.version)])),
    ("policy", some (.obj [
      ("digest", nullable binding.policy.digest),
      ("evaluatorVersion", nullable binding.policy.evaluatorVersion),
      ("legacyVersionHash", some (.str binding.policy.legacyVersionHash)),
      ("legacyVersionId", nullable binding.policy.legacyVersionId),
      ("providerId", nullable binding.policy.providerId),
      ("providerVersion", nullable binding.policy.providerVersion),
      ("version", nullable binding.policy.version)])),
    ("request", some (.obj [
      ("decisionInputHash", nullable binding.request.decisionInputHash),
      ("requestHash", nullable binding.request.requestHash),
      ("version", nullable binding.request.version)])),
    ("requirements", some (.obj [
      ("eligibleGroups", some (.arr (binding.requirements.eligibleGroups.map .str))),
      ("eligibleUsers", some (binding.requirements.eligibleUsers.elim .null
        (fun users => .arr (users.map .str)))),
      ("requiredApprovals", some (.num (JsonNumber.ofInt binding.requirements.requiredApprovals))),
      ("separationOfDuties", some (.bool binding.requirements.separationOfDuties))]))]

/-- The hashed part of an authorization: everything but its hash. -/
def ApprovalAuthorizationV1.withoutHash (authorization : ApprovalAuthorizationV1) : Json :=
  .obj [
    ("binding", some (bindingJson authorization.binding)),
    ("expiresAt", some (.str authorization.expiresAt)),
    ("issuedAt", some (.str authorization.issuedAt)),
    ("nonce", some (.str authorization.nonce)),
    ("version", some (.str authorization.version))]

/-- The reason of the first failing check. -/
def firstFailure : List (Bool × String) → Option String
  | [] => none
  | (failed, reason) :: rest => if failed then some reason else firstFailure rest

theorem firstFailure_eq_none_iff {checks : List (Bool × String)} :
    firstFailure checks = none ↔ ∀ check ∈ checks, check.1 = false := by
  induction checks with
  | nil => simp [firstFailure]
  | cons check rest ih =>
      obtain ⟨failed, reason⟩ := check
      cases failed <;> simp [firstFailure, ih]

section

variable [Runtime]

/-- The checks on an authorization of any origin; the typed fields carry the
checks of their kinds. -/
def isValidApprovalAuthorization (authorization : ApprovalAuthorizationV1) : Bool :=
  authorization.version == approvalAuthorizationVersion &&
  authorization.authorizationHash != "" &&
  authorization.nonce != "" &&
  authorization.issuedAt != "" &&
  authorization.expiresAt != "" &&
  (dateParse authorization.issuedAt).isSome &&
  (dateParse authorization.expiresAt).isSome &&
  authorization.binding.action.originalEnvelopeHash != "" &&
  authorization.binding.action.originalInputHash != "" &&
  authorization.binding.action.reviewHash != "" &&
  authorization.binding.approval.approvalId != "" &&
  authorization.binding.approval.requestedBy != "" &&
  authorization.binding.approval.tenantId != "" &&
  authorization.binding.approval.toolCallId != "" &&
  authorization.binding.policy.legacyVersionHash != "" &&
  decide (1 ≤ authorization.binding.requirements.requiredApprovals) &&
  hashCanonicalJson authorization.withoutHash == authorization.authorizationHash

/-- `Date.parse(expiresAt) <= now`; a text that is no date compares as false. -/
def approvalAuthorizationExpired (authorization : ApprovalAuthorizationV1) (now : Int) : Bool :=
  match dateParse authorization.expiresAt with
  | none => false
  | some expiry => decide (expiry ≤ now)

/-! ### Agreement with the stored records -/

def approvalAuthorizationMismatch (authorization : ApprovalAuthorizationV1)
    (approval : ApprovalRecord) (toolCall : ToolCallRecord) : Option String :=
  let binding := authorization.binding
  let decision := decisionIdentity toolCall
  let users := approval.approverUsers.map sortedUnique
  let groups := sortedUnique (approval.approverGroups.getD [])
  firstFailure [
    (!isValidApprovalAuthorization authorization, "authorization_hash_mismatch"),
    (binding.approval.approvalId != approval.id, "approval_id_mismatch"),
    (binding.approval.toolCallId != approval.toolCallId ||
      binding.approval.toolCallId != toolCall.id, "tool_call_id_mismatch"),
    (binding.approval.tenantId != approval.workspace, "approval_tenant_mismatch"),
    (binding.approval.tenantId != toolCall.workspace, "tool_call_tenant_mismatch"),
    (binding.approval.requestedBy != approval.requestedBy, "requester_mismatch"),
    (binding.approval.requestedBy != toolCall.requestedBy, "tool_call_requester_mismatch"),
    (binding.approval.requestedByPrincipalId !=
      approval.requestedByAuth.map AuthContext.principalId, "requester_principal_mismatch"),
    (some binding.action.originalInputHash != approval.originalInputHash,
      "original_input_hash_mismatch"),
    (some binding.action.originalInputHash != toolCall.inputHash,
      "tool_call_input_hash_mismatch"),
    (some binding.action.originalEnvelopeHash != approval.originalEnvelopeHash,
      "original_envelope_hash_mismatch"),
    (some binding.action.originalEnvelopeHash != toolCall.actionEnvelopeHash,
      "tool_call_envelope_hash_mismatch"),
    (some binding.action.reviewHash != approval.reviewHash, "review_hash_mismatch"),
    (binding.request.requestHash != toolCall.canonicalActionRequestHash, "request_hash_mismatch"),
    (binding.request.version != toolCall.canonicalActionRequestVersion,
      "request_version_mismatch"),
    (binding.request.decisionInputHash !=
      (toolCall.canonicalDecisionInputHash <|> decision.map DecisionIdentity.decisionInputHash),
      "decision_input_hash_mismatch"),
    (binding.decision.version != decision.map DecisionIdentity.version,
      "decision_version_mismatch"),
    (binding.decision.decisionId != decision.map DecisionIdentity.decisionId,
      "decision_id_mismatch"),
    (some binding.decision.outcome != toolCall.decision, "decision_outcome_mismatch"),
    (some binding.policy.legacyVersionHash != toolCall.policyVersionHash, "policy_hash_mismatch"),
    (binding.policy.legacyVersionId != toolCall.policyVersionId, "policy_version_id_mismatch"),
    (binding.policy.digest != decision.bind DecisionIdentity.digest, "policy_digest_mismatch"),
    (binding.policy.version != decision.bind DecisionIdentity.policyVersion,
      "policy_version_mismatch"),
    (binding.policy.providerId != decision.map DecisionIdentity.providerId,
      "policy_provider_mismatch"),
    (binding.policy.providerVersion != decision.bind DecisionIdentity.providerVersion,
      "policy_provider_version_mismatch"),
    (binding.policy.evaluatorVersion != decision.bind DecisionIdentity.evaluatorVersion,
      "evaluator_version_mismatch"),
    (binding.requirements.eligibleGroups != groups, "eligible_groups_mismatch"),
    (binding.requirements.eligibleUsers != users, "eligible_users_mismatch"),
    (binding.requirements.requiredApprovals != approval.quorum, "quorum_mismatch"),
    (binding.requirements.separationOfDuties != approval.separationOfDuties.getD false,
      "separation_of_duties_mismatch"),
    (toolCall.status != .pendingApproval, "tool_call_status_mismatch")]

/-- Every comparison of an authorization with an approval and its tool call. -/
structure BindingAgrees (authorization : ApprovalAuthorizationV1) (approval : ApprovalRecord)
    (toolCall : ToolCallRecord) : Prop where
  valid : isValidApprovalAuthorization authorization = true
  approvalId : authorization.binding.approval.approvalId = approval.id
  approvalToolCall : authorization.binding.approval.toolCallId = approval.toolCallId
  toolCallId : authorization.binding.approval.toolCallId = toolCall.id
  approvalTenant : authorization.binding.approval.tenantId = approval.workspace
  toolCallTenant : authorization.binding.approval.tenantId = toolCall.workspace
  requestedBy : authorization.binding.approval.requestedBy = approval.requestedBy
  toolCallRequestedBy : authorization.binding.approval.requestedBy = toolCall.requestedBy
  requestedByPrincipal : authorization.binding.approval.requestedByPrincipalId =
    approval.requestedByAuth.map AuthContext.principalId
  originalInput : some authorization.binding.action.originalInputHash = approval.originalInputHash
  toolCallInput : some authorization.binding.action.originalInputHash = toolCall.inputHash
  originalEnvelope : some authorization.binding.action.originalEnvelopeHash =
    approval.originalEnvelopeHash
  toolCallEnvelope : some authorization.binding.action.originalEnvelopeHash =
    toolCall.actionEnvelopeHash
  review : some authorization.binding.action.reviewHash = approval.reviewHash
  requestHash : authorization.binding.request.requestHash = toolCall.canonicalActionRequestHash
  requestVersion : authorization.binding.request.version = toolCall.canonicalActionRequestVersion
  decisionInput : authorization.binding.request.decisionInputHash =
    (toolCall.canonicalDecisionInputHash <|>
      (decisionIdentity toolCall).map DecisionIdentity.decisionInputHash)
  decisionVersion : authorization.binding.decision.version =
    (decisionIdentity toolCall).map DecisionIdentity.version
  decisionId : authorization.binding.decision.decisionId =
    (decisionIdentity toolCall).map DecisionIdentity.decisionId
  outcome : some authorization.binding.decision.outcome = toolCall.decision
  policyHash : some authorization.binding.policy.legacyVersionHash = toolCall.policyVersionHash
  policyVersionId : authorization.binding.policy.legacyVersionId = toolCall.policyVersionId
  policyDigest : authorization.binding.policy.digest =
    (decisionIdentity toolCall).bind DecisionIdentity.digest
  policyVersion : authorization.binding.policy.version =
    (decisionIdentity toolCall).bind DecisionIdentity.policyVersion
  provider : authorization.binding.policy.providerId =
    (decisionIdentity toolCall).map DecisionIdentity.providerId
  providerVersion : authorization.binding.policy.providerVersion =
    (decisionIdentity toolCall).bind DecisionIdentity.providerVersion
  evaluator : authorization.binding.policy.evaluatorVersion =
    (decisionIdentity toolCall).bind DecisionIdentity.evaluatorVersion
  groups : authorization.binding.requirements.eligibleGroups =
    sortedUnique (approval.approverGroups.getD [])
  users : authorization.binding.requirements.eligibleUsers =
    approval.approverUsers.map sortedUnique
  quorum : authorization.binding.requirements.requiredApprovals = approval.quorum
  separation : authorization.binding.requirements.separationOfDuties =
    approval.separationOfDuties.getD false
  status : toolCall.status = .pendingApproval

theorem bindingAgrees_of_no_mismatch {authorization : ApprovalAuthorizationV1}
    {approval : ApprovalRecord} {toolCall : ToolCallRecord}
    (clean : approvalAuthorizationMismatch authorization approval toolCall = none) :
    BindingAgrees authorization approval toolCall := by
  have checks := firstFailure_eq_none_iff.mp clean
  simp only [List.forall_mem_cons, Bool.not_eq_false', bne_eq_false_iff_eq,
    Bool.or_eq_false_iff] at checks
  obtain ⟨valid, approvalId, ⟨approvalToolCall, toolCallId⟩, approvalTenant, toolCallTenant,
    requestedBy, toolCallRequestedBy, requestedByPrincipal, originalInput, toolCallInput,
    originalEnvelope, toolCallEnvelope, review, requestHash, requestVersion, decisionInput,
    decisionVersion, decisionId, outcome, policyHash, policyVersionId, policyDigest, policyVersion,
    provider, providerVersion, evaluator, groups, users, quorum, separation, status, _⟩ := checks
  exact
    { valid := valid
      approvalId := approvalId
      approvalToolCall := approvalToolCall
      toolCallId := toolCallId
      approvalTenant := approvalTenant
      toolCallTenant := toolCallTenant
      requestedBy := requestedBy
      toolCallRequestedBy := toolCallRequestedBy
      requestedByPrincipal := requestedByPrincipal
      originalInput := originalInput
      toolCallInput := toolCallInput
      originalEnvelope := originalEnvelope
      toolCallEnvelope := toolCallEnvelope
      review := review
      requestHash := requestHash
      requestVersion := requestVersion
      decisionInput := decisionInput
      decisionVersion := decisionVersion
      decisionId := decisionId
      outcome := outcome
      policyHash := policyHash
      policyVersionId := policyVersionId
      policyDigest := policyDigest
      policyVersion := policyVersion
      provider := provider
      providerVersion := providerVersion
      evaluator := evaluator
      groups := groups
      users := users
      quorum := quorum
      separation := separation
      status := status }

theorem BindingAgrees.no_mismatch {authorization : ApprovalAuthorizationV1}
    {approval : ApprovalRecord} {toolCall : ToolCallRecord}
    (agrees : BindingAgrees authorization approval toolCall) :
    approvalAuthorizationMismatch authorization approval toolCall = none := by
  refine firstFailure_eq_none_iff.mpr ?_
  simp only [List.forall_mem_cons, Bool.not_eq_false', bne_eq_false_iff_eq,
    Bool.or_eq_false_iff]
  exact ⟨agrees.valid, agrees.approvalId, ⟨agrees.approvalToolCall, agrees.toolCallId⟩,
    agrees.approvalTenant, agrees.toolCallTenant, agrees.requestedBy, agrees.toolCallRequestedBy,
    agrees.requestedByPrincipal, agrees.originalInput, agrees.toolCallInput,
    agrees.originalEnvelope, agrees.toolCallEnvelope, agrees.review, agrees.requestHash,
    agrees.requestVersion, agrees.decisionInput, agrees.decisionVersion, agrees.decisionId,
    agrees.outcome, agrees.policyHash, agrees.policyVersionId, agrees.policyDigest,
    agrees.policyVersion, agrees.provider, agrees.providerVersion, agrees.evaluator,
    agrees.groups, agrees.users, agrees.quorum, agrees.separation, agrees.status, nofun⟩

/-- What an approval and its tool call share with the authorization when no
mismatch is reported, as far as later results need it. -/
structure AuthorizationAgrees (authorization : ApprovalAuthorizationV1)
    (approval : ApprovalRecord) (toolCall : ToolCallRecord) : Prop where
  valid : isValidApprovalAuthorization authorization = true
  approvalId : authorization.binding.approval.approvalId = approval.id
  approvalToolCall : authorization.binding.approval.toolCallId = approval.toolCallId
  toolCallId : authorization.binding.approval.toolCallId = toolCall.id
  approvalTenant : authorization.binding.approval.tenantId = approval.workspace
  toolCallTenant : authorization.binding.approval.tenantId = toolCall.workspace
  requestedBy : authorization.binding.approval.requestedBy = approval.requestedBy
  requestedByPrincipal : authorization.binding.approval.requestedByPrincipalId =
    approval.requestedByAuth.map AuthContext.principalId
  outcome : some authorization.binding.decision.outcome = toolCall.decision
  groups : authorization.binding.requirements.eligibleGroups =
    sortedUnique (approval.approverGroups.getD [])
  users : authorization.binding.requirements.eligibleUsers =
    approval.approverUsers.map sortedUnique
  quorum : authorization.binding.requirements.requiredApprovals = approval.quorum
  separation : authorization.binding.requirements.separationOfDuties =
    approval.separationOfDuties.getD false
  status : toolCall.status = .pendingApproval

theorem authorizationAgrees_of_no_mismatch {authorization : ApprovalAuthorizationV1}
    {approval : ApprovalRecord} {toolCall : ToolCallRecord}
    (clean : approvalAuthorizationMismatch authorization approval toolCall = none) :
    AuthorizationAgrees authorization approval toolCall := by
  have agrees := bindingAgrees_of_no_mismatch clean
  exact
    { valid := agrees.valid
      approvalId := agrees.approvalId
      approvalToolCall := agrees.approvalToolCall
      toolCallId := agrees.toolCallId
      approvalTenant := agrees.approvalTenant
      toolCallTenant := agrees.toolCallTenant
      requestedBy := agrees.requestedBy
      requestedByPrincipal := agrees.requestedByPrincipal
      outcome := agrees.outcome
      groups := agrees.groups
      users := agrees.users
      quorum := agrees.quorum
      separation := agrees.separation
      status := agrees.status }

/-! ### Publication -/

structure BuildApprovalAuthorizationInput where
  approvalId : String
  approverGroups : Option (List String)
  approverUsers : Option (List String)
  expiresAt : String
  issuedAt : String
  nonce : String
  originalEnvelopeHash : String
  originalInputHash : String
  requestedBy : String
  requestedByPrincipalId : Option String
  requiredApprovals : Option Int
  reviewHash : String
  separationOfDuties : Option Bool
  toolCall : ToolCallRecord

def BuildApprovalAuthorizationInput.binding (input : BuildApprovalAuthorizationInput)
    (policyVersionHash : String) : ApprovalAuthorizationBinding :=
  let toolCall := input.toolCall
  let decision := decisionIdentity toolCall
  { action :=
      { originalEnvelopeHash := input.originalEnvelopeHash
        originalInputHash := input.originalInputHash
        reviewHash := input.reviewHash }
    approval :=
      { approvalId := input.approvalId
        requestedBy := input.requestedBy
        requestedByPrincipalId := input.requestedByPrincipalId
        tenantId := toolCall.workspace
        toolCallId := toolCall.id }
    decision :=
      { decisionId := decision.map DecisionIdentity.decisionId
        outcome := toolCall.decision.getD .requireApproval
        version := decision.map DecisionIdentity.version }
    policy :=
      { digest := decision.bind DecisionIdentity.digest
        evaluatorVersion := decision.bind DecisionIdentity.evaluatorVersion
        legacyVersionHash := policyVersionHash
        legacyVersionId := toolCall.policyVersionId
        providerId := decision.map DecisionIdentity.providerId
        providerVersion := decision.bind DecisionIdentity.providerVersion
        version := decision.bind DecisionIdentity.policyVersion }
    request :=
      { decisionInputHash :=
          toolCall.canonicalDecisionInputHash <|> decision.map DecisionIdentity.decisionInputHash
        requestHash := toolCall.canonicalActionRequestHash
        version := toolCall.canonicalActionRequestVersion }
    requirements :=
      { eligibleGroups := sortedUnique (input.approverGroups.getD [])
        eligibleUsers := input.approverUsers.map sortedUnique
        requiredApprovals := max 1 (input.requiredApprovals.getD 1)
        separationOfDuties := input.separationOfDuties.getD false } }

def buildApprovalAuthorization (input : BuildApprovalAuthorizationInput) :
    Except String ApprovalAuthorizationV1 :=
  match nonEmpty input.toolCall.policyVersionHash, dateParse input.issuedAt,
      dateParse input.expiresAt with
  | none, _, _ => .error "Approval authorization requires an immutable policy version hash."
  | some _, none, _ => .error "Approval authorization issuedAt must be an ISO timestamp."
  | some _, some _, none => .error "Approval authorization expiresAt must be an ISO timestamp."
  | some policyVersionHash, some issuedAt, some expiresAt =>
      if expiresAt ≤ issuedAt then
        .error "Approval authorization expiry must be later than issuance."
      else
        let unsigned : ApprovalAuthorizationV1 :=
          { authorizationHash := ""
            binding := input.binding policyVersionHash
            expiresAt := input.expiresAt
            issuedAt := input.issuedAt
            nonce := input.nonce
            version := approvalAuthorizationVersion }
        .ok { unsigned with authorizationHash := hashCanonicalJson unsigned.withoutHash }

end

end ActionProxy
