import ActionProxy.Security.ActionReceipts
import ActionProxy.Security.ExecutionGrants
import ActionProxy.Services.FinalRevalidation

/-!
What a call on an execution grant checks of the records it has read: the attempt against
the grant, the tool call against both, the adapter it came through, and the receipt.
-/

namespace ActionProxy

open JsonText Interleaving

/-! ### Agreement of the records -/

structure GrantDecisionIdentity where
  decisionId : String
  decisionInputHash : String
  outcome : PolicyDecision
  version : String

section

variable [Runtime]

/-- `decisionIdentity` of the grant service: the traced decision, when it belongs to
the tool call and its id is the hash of what it says. -/
def grantDecisionIdentity (toolCall : ToolCallRecord) : Option GrantDecisionIdentity := do
  let candidate ← toolCall.decisionTrace.bind (fun trace => member? trace "decisionV1")
  let field := field? candidate
  guard (isText (field "version") (some actionProxyDecisionVersion))
  let decisionId ← (field "decisionId").bind asString?
  let decisionInputHash ← (field "decisionInputHash").bind asString?
  let outcome ← decisionOutcome (field "outcome")
  guard (isText (field "requestId") (some toolCall.id))
  guard (isText (field "tenantId") (some toolCall.workspace))
  guard (toolCall.canonicalDecisionInputHash = some decisionInputHash)
  guard (toolCall.decision = some outcome)
  let policy ← (field "policy").filter isRecord
  let provider ← (field? policy "provider").filter isRecord
  guard (isText (field? policy "digest") toolCall.policyVersionHash)
  guard (isText (field? policy "version") toolCall.policyVersionId)
  guard (isText (field? provider "status") (some "ok"))
  guard (decisionId = decisionIdOf
    { approvalRequirements := field "approvalRequirements"
      decisionInputHash := field "decisionInputHash"
      matchedPolicies := field "matchedPolicies"
      obligations := field "obligations"
      outcome := field "outcome"
      policyDigest := field? policy "digest"
      policyDigestAlgorithm := field? policy "digestAlgorithm"
      providerId := field? provider "id"
      providerVersion := field? provider "version"
      policySchemaVersion := field? policy "schemaVersion"
      providerStatus := field? provider "status"
      policyVersion := field? policy "version"
      reasonCodes := field "reasonCodes"
      requestId := field "requestId"
      tenantId := field "tenantId"
      version := field "version" })
  return {
    decisionId := decisionId
    decisionInputHash := decisionInputHash
    outcome := outcome
    version := actionProxyDecisionVersion }

omit [Runtime] in
def attemptMatchesGrant (attempt : ExecutionAttemptRecordV1) (grant : ExecutionGrantRecord)
    (requireGrantBinding : Bool) : Bool :=
  attempt.executionMode == .externalGrant &&
  attempt.executorId == externalExecutorId &&
  attempt.providerIdempotency == "none" &&
  attempt.retryPolicy == "never_automatic" &&
  attempt.workspaceId == grant.workspaceId &&
  attempt.toolCallId == grant.toolCallId &&
  attempt.inputHash == grant.inputHash &&
  attempt.binding.actionEnvelopeHash == grant.approvedEnvelopeHash &&
  attempt.binding.policyVersionHash == grant.policyVersionHash &&
  attempt.binding.receiptHash == grant.receiptHash &&
  attempt.binding.receiptId == grant.receiptId &&
  (!requireGrantBinding || attempt.grantId == some grant.id)

/-- The checks of `currentToolCallMismatch` on the action envelope. -/
def envelopeMismatch (toolCall : ToolCallRecord) : Option String :=
  toolCall.actionEnvelope.bind fun envelope =>
    firstFailure [
      (envelope.executionMode != .externalGrant, "execution_mode_mismatch"),
      (envelopeMember toolCall "toolName" != some toolCall.toolName,
        "action_envelope_tool_mismatch"),
      (envelope.inputHash != toolCall.hashOfInput, "action_envelope_input_mismatch"),
      (envelope.envelopeHash != hashJson envelope.withoutHash,
        "action_envelope_integrity_mismatch")]

/-- The status of a tool call to be executed, or, for a report, that of a finished one. -/
def statusMismatch (toolCall : ToolCallRecord) (allowAuthorizedTerminalRecovery : Bool) : Bool :=
  toolCall.status != .authorized &&
    !(allowAuthorizedTerminalRecovery &&
      (toolCall.status == .executed || toolCall.status == .failed))

def currentToolCallMismatch (toolCall : ToolCallRecord) (attempt : ExecutionAttemptRecordV1)
    (grant : ExecutionGrantRecord) (allowAuthorizedTerminalRecovery : Bool) : Option String :=
  let decision := grantDecisionIdentity toolCall
  let binding := attempt.binding
  let storedInputHash := toolCall.hashOfInput
  let influence := validContentInfluenceBindingHash toolCall.contentInfluence
  firstFailure [
    (toolCall.workspace != grant.workspaceId, "tenant_mismatch"),
    (toolCall.id != grant.toolCallId || toolCall.id != attempt.toolCallId,
      "tool_call_id_mismatch"),
    (toolCall.toolName != grant.toolName, "tool_name_mismatch"),
    (statusMismatch toolCall allowAuthorizedTerminalRecovery, "tool_call_status_mismatch"),
    (requiresMcpResultDelivery toolCall && toolCall.status == .authorized &&
      toolCall.resultWithheld != some true, "classified_result_not_prewithheld"),
    (toolCall.decision != some .allow && toolCall.decision != some .requireApproval,
      "decision_outcome_mismatch"),
    (storedInputHash != hashJson (.obj toolCall.input) || storedInputHash != grant.inputHash,
      "input_hash_mismatch")] <|>
  envelopeMismatch toolCall <|>
  firstFailure [
    (toolCall.actionEnvelopeHash != binding.actionEnvelopeHash, "action_envelope_hash_mismatch"),
    (toolCall.canonicalActionRequestHash != binding.canonicalActionRequestHash,
      "canonical_request_hash_mismatch"),
    (toolCall.canonicalActionRequestVersion != binding.canonicalActionRequestVersion,
      "canonical_request_version_mismatch"),
    ((toolCall.canonicalDecisionInputHash <|>
      decision.map GrantDecisionIdentity.decisionInputHash) != binding.canonicalDecisionInputHash,
      "decision_input_hash_mismatch"),
    ((toolCall.decisionTrace.bind (fun trace => member? trace "decisionV1")).isSome &&
      decision.isNone, "decision_trace_malformed"),
    (decision.map GrantDecisionIdentity.decisionId != binding.decisionId, "decision_id_mismatch"),
    (decision.map GrantDecisionIdentity.version != binding.decisionVersion,
      "decision_version_mismatch"),
    (decision.any (fun decision => some decision.outcome != toolCall.decision),
      "decision_trace_outcome_mismatch"),
    (toolCall.policyVersionHash != binding.policyVersionHash, "policy_hash_mismatch"),
    (toolCall.contentInfluence.isSome && influence.isNone, "content_influence_binding_invalid"),
    (influence != binding.contentInfluenceBindingHash, "content_influence_binding_mismatch"),
    (toolCall.influenceScopeId != binding.influenceScopeId, "influence_scope_mismatch"),
    (some (hashOrNull toolCall.resultSource) != binding.resultSourceHash,
      "result_source_mismatch")]

/-- What the comparison of a tool call with its attempt and its grant lets through. -/
theorem currentToolCall_matched {toolCall : ToolCallRecord} {attempt : ExecutionAttemptRecordV1}
    {grant : ExecutionGrantRecord} {recovery : Bool}
    (matched : currentToolCallMismatch toolCall attempt grant recovery = none) :
    toolCall.workspace = grant.workspaceId ∧ toolCall.id = grant.toolCallId ∧
      (toolCall.status = .authorized ∨
        recovery = true ∧ (toolCall.status = .executed ∨ toolCall.status = .failed)) ∧
      toolCall.hashOfInput = hashJson (.obj toolCall.input) := by
  unfold currentToolCallMismatch at matched
  dsimp only at matched
  rw [Option.orElse_eq_orElse, Option.orElse_eq_or, Option.or_eq_none_iff] at matched
  have clear := firstFailure_eq_none_iff.mp matched.1
  simp only [List.forall_mem_cons, Bool.or_eq_false_iff, bne_eq_false_iff_eq] at clear
  obtain ⟨workspace, ⟨named, -⟩, -, status, -, -, ⟨hashed, -⟩, -⟩ := clear
  refine ⟨workspace, named, ?_, hashed⟩
  simpa [statusMismatch, or_iff_not_imp_left] using status

/-! ### The adapter -/

/-- `assertMcpAdapterAuthorization`: a call that came in through an adapter is executed
by the same principal and client in the session it came from. -/
def mcpAdapterFailure (toolCall : ToolCallRecord) (auth : AuthContext)
    (wrapperSessionId : Option String) : Option ServiceError :=
  let hasVerifiedScope := toolCall.influenceScopeId.any isInfluenceScopeId
  if !authoritativeMcpToolCall toolCall then
    if hasVerifiedScope then
      some (.forbidden "MCP execution grant has inconsistent authoritative source evidence.")
    else none
  else
    match toolCall.influenceScopeId.filter isInfluenceScopeId, verifiedStoredInfluenceScopeId toolCall,
        evidenceText toolCall "source" "adapterId" with
    | some _, some authoritativeScopeId, some adapterId =>
        if !TextScan.startsWith adapterId "mcp-stdio:" then
          some (.forbidden
            "External MCP execution grants require the authenticated stdio wrapper adapter.")
        else if !toolCall.requestedByAuth.any (fun originating =>
            ((nonEmpty originating.clientId).isNone || auth.clientId == originating.clientId) &&
              originating.principalId == auth.principalId &&
              originating.workspaceId == auth.workspaceId) then
          some (.forbidden "MCP execution grant belongs to another authenticated adapter.")
        else
          match nonEmpty wrapperSessionId with
          | none =>
              some (.forbidden "MCP execution grant requires its originating wrapper session.")
          | some wrapperSessionId =>
              match deriveInfluenceScopeId
                  { adapterId := adapterId
                    principalId := auth.principalId
                    transport := "stdio"
                    transportSessionId := wrapperSessionId
                    workspaceId := auth.workspaceId } with
              | .error message => some (.other message)
              | .ok expectedScopeId =>
                  if authoritativeScopeId ≠ expectedScopeId then
                    some (.forbidden
                      "MCP execution grant belongs to another verified influence scope.")
                  else none
    | _, _, _ =>
        some (.forbidden
          "MCP execution grant lacks consistent verified influence-scope evidence.")

/-! ### The receipt -/

/-- The checks on the receipt a grant names. -/
def grantReceiptFailure (secret : String) (grant : ExecutionGrantRecord)
    (receipt : Option ActionReceiptRecord) : Option ServiceError :=
  match receipt with
  | none => some (.forbidden "Execution grant receipt was not found.")
  | some receipt =>
      (firstFailure [
        (!verifyReceipt secret receipt, "Execution grant receipt signature is invalid."),
        ((nonEmpty grant.receiptHash).isSome && grant.receiptHash != some receipt.receiptHash,
          "Execution grant receipt hash does not match."),
        ((nonEmpty grant.approvedInputHash).isSome &&
          grant.approvedInputHash != some receipt.approvedInputHash,
          "Execution grant approved input hash does not match."),
        ((nonEmpty grant.approvedEnvelopeHash).isSome &&
          grant.approvedEnvelopeHash != some receipt.approvedEnvelopeHash,
          "Execution grant approved envelope hash does not match.")]).map .forbidden

end

end ActionProxy
