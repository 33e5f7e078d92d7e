import ActionProxy.Security.ActionEnvelope
import ActionProxy.Storage.AttemptOperations

/-!
The records of the store as JSON, for the operations that compare them by hash,
and what equal hashes of two of them say.
-/

namespace ActionProxy

open JsonText

def AuthContext.json (auth : AuthContext) : Json :=
  .obj [
    ("principalId", some (.str auth.principalId)),
    ("principalType", some (.str auth.principalType.text)),
    ("displayName", some (.str auth.displayName)),
    ("email", auth.email.map .str),
    ("groups", some (.arr (auth.groups.map .str))),
    ("scopes", some (.arr (auth.scopes.map .str))),
    ("authProvider", some (.str auth.authProvider.text)),
    ("clientId", auth.clientId.map .str),
    ("workspaceId", some (.str auth.workspaceId))]

def ActionEnvelope.json (envelope : ActionEnvelope) : Json :=
  .obj (
    ("envelopeHash", some (.str envelope.envelopeHash)) ::
    ("executionMode", some (.str envelope.executionMode.text)) ::
    ("input", some (.obj envelope.input)) ::
    ("inputHash", some (.str envelope.inputHash)) ::
    ("preparedAction", envelope.preparedAction.map .obj) ::
    envelope.body)

def ContentInfluenceEvidenceV1.json (evidence : ContentInfluenceEvidenceV1) : Json :=
  .obj [
    ("baseDecision", some (.str evidence.baseDecision.text)),
    ("bindingHash", some (.str evidence.bindingHash)),
    ("effectiveDecision", some (.str evidence.effectiveDecision.text)),
    ("evaluatedAt", some (.str evidence.evaluatedAt)),
    ("exposureRevision", some (.num (JsonNumber.ofInt evidence.exposureRevision))),
    ("exposureSnapshotHash", some (.str evidence.exposureSnapshotHash)),
    ("influenceScope", some (.obj [
      ("id", evidence.influenceScope.id.map .str),
      ("verified", some (.bool evidence.influenceScope.verified))])),
    ("observedSources",
      some (.arr (evidence.observedSources.map (fun source => .str (influenceSourceText source))))),
    ("policy", some (.obj [
      ("versionHash", some (.str evidence.policy.versionHash)),
      ("versionId", evidence.policy.versionId.map .str)])),
    ("selectedRule", some (.obj [
      ("allowFrom", some (.arr (evidence.selectedRule.allowFrom.map
        (fun source => .str (influenceSourceText source))))),
      ("otherwise", some (.str evidence.selectedRule.otherwise.text))])),
    ("sourceCount", some (.num (JsonNumber.ofInt evidence.sourceCount))),
    ("sourceCountIsLowerBound", some (.bool evidence.sourceCountIsLowerBound)),
    ("sourceReferences",
      some (.arr (evidence.sourceReferences.map ContentInfluenceSourceReference.json))),
    ("version", some (.str evidence.version))]

def ToolCallRecord.members (toolCall : ToolCallRecord) : JsonObject :=
  [("id", some (.str toolCall.id)),
    ("workspaceId", toolCall.workspaceId.map .str),
    ("toolName", some (.str toolCall.toolName)),
    ("input", some (.obj toolCall.input)),
    ("inputHash", toolCall.inputHash.map .str),
    ("actionEnvelope", toolCall.actionEnvelope.map ActionEnvelope.json),
    ("actionEnvelopeHash", toolCall.actionEnvelopeHash.map .str),
    ("canonicalActionRequestHash", toolCall.canonicalActionRequestHash.map .str),
    ("canonicalActionRequestVersion", toolCall.canonicalActionRequestVersion.map .str),
    ("canonicalDecisionInputHash", toolCall.canonicalDecisionInputHash.map .str),
    ("canonicalPolicyContext", toolCall.canonicalPolicyContext.map .obj),
    ("contentInfluence", toolCall.contentInfluence.map ContentInfluenceEvidenceV1.json),
    ("influenceScopeId", toolCall.influenceScopeId.map .str),
    ("requestedBy", some (.str toolCall.requestedBy)),
    ("requestedByAuth", toolCall.requestedByAuth.map AuthContext.json),
    ("agentId", some (.str toolCall.agentId)),
    ("reason", some (.str toolCall.reason)),
    ("metadata", some (.obj toolCall.metadata)),
    ("status", some (.str toolCall.status.text)),
    ("decision", toolCall.decision.map (fun decision => .str decision.text)),
    ("authorizationDecision",
      toolCall.authorizationDecision.map (fun decision => .str decision.text)),
    ("authorizationReason", toolCall.authorizationReason.map .str),
    ("decisionTrace", toolCall.decisionTrace.map .obj),
    ("policyReason", toolCall.policyReason.map .str),
    ("policyVersionId", toolCall.policyVersionId.map .str),
    ("policyVersionHash", toolCall.policyVersionHash.map .str),
    ("resultDelivery", toolCall.resultDelivery.map .obj),
    ("resultSource", toolCall.resultSource),
    ("resultWithheld", toolCall.resultWithheld.map .bool),
    ("risk", toolCall.risk.map .str),
    ("result", toolCall.result),
    ("error", toolCall.error.map .str),
    ("createdAt", some (.str toolCall.createdAt)),
    ("updatedAt", some (.str toolCall.updatedAt))]

def ToolCallRecord.json (toolCall : ToolCallRecord) : Json := .obj toolCall.members

def ExecutionGrantRecord.json (grant : ExecutionGrantRecord) : Json :=
  .obj [
    ("id", some (.str grant.id)),
    ("workspaceId", some (.str grant.workspaceId)),
    ("toolCallId", some (.str grant.toolCallId)),
    ("toolName", some (.str grant.toolName)),
    ("inputHash", some (.str grant.inputHash)),
    ("approvedEnvelopeHash", grant.approvedEnvelopeHash.map .str),
    ("approvedInputHash", grant.approvedInputHash.map .str),
    ("policyVersionHash", grant.policyVersionHash.map .str),
    ("receiptHash", grant.receiptHash.map .str),
    ("receiptId", grant.receiptId.map .str),
    ("actor", some (.str grant.actor)),
    ("auth", grant.auth.map AuthContext.json),
    ("expiresAt", some (.str grant.expiresAt)),
    ("nonce", some (.str grant.nonce)),
    ("signature", some (.str grant.signature)),
    ("consumedAt", grant.consumedAt.map .str),
    ("createdAt", some (.str grant.createdAt))]

def ActionReceiptOutcome.members (outcome : ActionReceiptOutcome) : JsonObject :=
  [("auth", outcome.auth.map AuthContext.json),
    ("error", outcome.error.map .str),
    ("recordedAt", some (.str outcome.recordedAt)),
    ("recordedBy", some (.str outcome.recordedBy)),
    ("remediation", outcome.remediation.map .obj),
    ("result", outcome.result.map .obj),
    ("resultDelivery", outcome.resultDelivery.map .obj),
    ("status", some (.str outcome.status.text))]

def ActionReceiptOutcome.json (outcome : ActionReceiptOutcome) : Json := .obj outcome.members

/-- `receiptWithoutOutcome`. -/
def ActionReceiptRecord.membersWithoutOutcome (receipt : ActionReceiptRecord) : JsonObject :=
  [("approvalId", receipt.approvalId.map .str),
    ("approvedEnvelopeHash", some (.str receipt.approvedEnvelopeHash)),
    ("approvedInputHash", some (.str receipt.approvedInputHash)),
    ("createdAt", some (.str receipt.createdAt)),
    ("decisionActor", some (.str receipt.decisionActor)),
    ("decisionAuth", receipt.decisionAuth.map AuthContext.json),
    ("decisionKind", some (.str receipt.decisionKind.text)),
    ("executionMode", some (.str receipt.executionMode.text)),
    ("expiresAt", receipt.expiresAt.map .str),
    ("id", some (.str receipt.id)),
    ("issuedAt", some (.str receipt.issuedAt)),
    ("keyId", some (.str receipt.keyId)),
    ("operation", some receipt.operation),
    ("originalEnvelopeHash", some (.str receipt.originalEnvelopeHash)),
    ("originalInputHash", some (.str receipt.originalInputHash)),
    ("policyDecision", receipt.policyDecision.map (fun decision => .str decision.text)),
    ("policyReason", receipt.policyReason.map .str),
    ("policyRisk", receipt.policyRisk.map .str),
    ("policyVersionHash", receipt.policyVersionHash.map .str),
    ("policyVersionId", receipt.policyVersionId.map .str),
    ("protocol", some (.str receipt.protocol)),
    ("receiptHash", some (.str receipt.receiptHash)),
    ("reviewHash", receipt.reviewHash.map .str),
    ("signature", some (.str receipt.signature)),
    ("signatureAlg", some (.str receipt.signatureAlg)),
    ("source", some receipt.source),
    ("toolCallId", some (.str receipt.toolCallId)),
    ("toolName", some (.str receipt.toolName)),
    ("version", some (.str receipt.version)),
    ("workspaceId", some (.str receipt.workspaceId))]

def ActionReceiptRecord.json (receipt : ActionReceiptRecord) : Json :=
  .obj (("outcome", receipt.outcome.map ActionReceiptOutcome.json) :: receipt.membersWithoutOutcome)

def ExecutionAttemptBindingV1.json (binding : ExecutionAttemptBindingV1) : Json :=
  .obj [
    ("actionEnvelopeHash", nullable binding.actionEnvelopeHash),
    ("approvalAuthorizationHash", nullable binding.approvalAuthorizationHash),
    ("approvalAuthorizationNonce", nullable binding.approvalAuthorizationNonce),
    ("approvalId", nullable binding.approvalId),
    ("canonicalActionRequestHash", nullable binding.canonicalActionRequestHash),
    ("canonicalActionRequestVersion", nullable binding.canonicalActionRequestVersion),
    ("canonicalDecisionInputHash", nullable binding.canonicalDecisionInputHash),
    ("contentInfluenceBindingHash", nullable binding.contentInfluenceBindingHash),
    ("decisionId", nullable binding.decisionId),
    ("decisionVersion", nullable binding.decisionVersion),
    ("influenceScopeId", nullable binding.influenceScopeId),
    ("policyVersionHash", nullable binding.policyVersionHash),
    ("receiptHash", nullable binding.receiptHash),
    ("receiptId", nullable binding.receiptId),
    ("resultSourceHash", binding.resultSourceHash.map .str)]

def ExecutionAttemptRecordV1.json (attempt : ExecutionAttemptRecordV1) : Json :=
  .obj [
    ("attemptNumber", some (.num (JsonNumber.ofInt attempt.attemptNumber))),
    ("binding", some attempt.binding.json),
    ("completedAt", attempt.completedAt.map .str),
    ("dispatchedAt", attempt.dispatchedAt.map .str),
    ("executionMode", some (.str attempt.executionMode.text)),
    ("executorId", some (.str attempt.executorId)),
    ("grantId", attempt.grantId.map .str),
    ("id", some (.str attempt.id)),
    ("inputHash", some (.str attempt.inputHash)),
    ("outcome", attempt.outcome.map ExecutionAttemptOutcomeV1.json),
    ("providerIdempotency", some (.str attempt.providerIdempotency)),
    ("reservedAt", some (.str attempt.reservedAt)),
    ("reservationOwner", some (.str attempt.reservationOwner)),
    ("retryPolicy", some (.str attempt.retryPolicy)),
    ("state", some (.str attempt.state.text)),
    ("toolCallId", some (.str attempt.toolCallId)),
    ("updatedAt", some (.str attempt.updatedAt)),
    ("version", some (.str attempt.version)),
    ("workspaceId", some (.str attempt.workspaceId))]

/-! ### Members that an operation may not change -/

/-- An object without the members of the given names. -/
def withoutMembers (names : List String) (members : JsonObject) : JsonObject :=
  members.filter (fun member => !names.contains member.1)

theorem withoutMembers_distinct {names : List String} {members : JsonObject}
    (distinct : (members.map Prod.fst).Nodup) :
    ((withoutMembers names members).map Prod.fst).Nodup :=
  distinct.sublist (List.filter_sublist.map Prod.fst)

theorem mem_withoutMembers {names : List String} {members : JsonObject} {key : String}
    {value : Option Json} (listed : (key, value) ∈ members) (kept : names.contains key = false) :
    (key, value) ∈ withoutMembers names members := by
  apply List.mem_filter.mpr
  refine ⟨listed, ?_⟩
  show (!names.contains key) = true
  rw [kept]
  rfl

theorem ToolCallRecord.members_distinct (toolCall : ToolCallRecord) :
    (toolCall.members.map Prod.fst).Nodup := by
  simp only [ToolCallRecord.members, List.map_cons, List.map_nil]
  decide

theorem ActionReceiptRecord.membersWithoutOutcome_distinct (receipt : ActionReceiptRecord) :
    (receipt.membersWithoutOutcome.map Prod.fst).Nodup := by
  simp only [ActionReceiptRecord.membersWithoutOutcome, List.map_cons, List.map_nil]
  decide

def toolCallImmutableOutcomeSemantics (toolCall : ToolCallRecord) : Json :=
  .obj (withoutMembers ["error", "result", "resultDelivery", "resultWithheld", "status",
    "updatedAt"] toolCall.members)

def toolCallImmutablePublicationSemantics (toolCall : ToolCallRecord) : Json :=
  .obj (withoutMembers ["actionEnvelope", "actionEnvelopeHash", "error", "input", "inputHash",
    "result", "status", "updatedAt"] toolCall.members)

section

variable [Runtime]

/-- The hashes by which other records name a tool call are not changed with its outcome. -/
theorem toolCall_hashes_of_outcomeSemantics (injective : Function.Injective sha256Hex)
    {left right : ToolCallRecord}
    (same : hashJson (toolCallImmutableOutcomeSemantics left) =
      hashJson (toolCallImmutableOutcomeSemantics right)) :
    left.inputHash = right.inputHash ∧ left.actionEnvelopeHash = right.actionEnvelopeHash ∧
      left.policyVersionHash = right.policyVersionHash := by
  have listed : ∀ (key : String) {leftValue rightValue : Option Json},
      (key, leftValue) ∈ left.members → (key, rightValue) ∈ right.members →
        ["error", "result", "resultDelivery", "resultWithheld", "status", "updatedAt"].contains
          key = false → Option.Rel Same leftValue rightValue :=
    fun key _ _ inLeft inRight kept =>
      same_obj_listed (same_of_hashJson_eq injective same)
        (withoutMembers_distinct left.members_distinct)
        (withoutMembers_distinct right.members_distinct)
        (mem_withoutMembers inLeft kept) (mem_withoutMembers inRight kept)
  refine ⟨text_eq_of_rel (listed "inputHash" ?_ ?_ (by decide)),
    text_eq_of_rel (listed "actionEnvelopeHash" ?_ ?_ (by decide)),
    text_eq_of_rel (listed "policyVersionHash" ?_ ?_ (by decide))⟩
  all_goals simp [ToolCallRecord.members]

/-- Two receipts that differ in their outcome only are bound to the same records. -/
theorem receipt_binding_of_hash (injective : Function.Injective sha256Hex)
    {left right : ActionReceiptRecord}
    (same : hashJson (.obj left.membersWithoutOutcome) =
      hashJson (.obj right.membersWithoutOutcome)) :
    left.approvedEnvelopeHash = right.approvedEnvelopeHash ∧
      left.approvedInputHash = right.approvedInputHash ∧
      left.receiptHash = right.receiptHash ∧
      left.policyVersionHash = right.policyVersionHash := by
  have listed : ∀ (key : String) {leftValue rightValue : Option Json},
      (key, leftValue) ∈ left.membersWithoutOutcome →
        (key, rightValue) ∈ right.membersWithoutOutcome → Option.Rel Same leftValue rightValue :=
    fun key _ _ inLeft inRight =>
      same_obj_listed (same_of_hashJson_eq injective same) left.membersWithoutOutcome_distinct
        right.membersWithoutOutcome_distinct inLeft inRight
  refine ⟨required_eq_of_rel (listed "approvedEnvelopeHash" ?_ ?_),
    required_eq_of_rel (listed "approvedInputHash" ?_ ?_),
    required_eq_of_rel (listed "receiptHash" ?_ ?_),
    text_eq_of_rel (listed "policyVersionHash" ?_ ?_)⟩
  all_goals simp [ActionReceiptRecord.membersWithoutOutcome]

end

end ActionProxy
