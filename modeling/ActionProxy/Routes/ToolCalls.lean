import ActionProxy.Foundation.JsonParse
import ActionProxy.Security.ExecutionGrants
import ActionProxy.Security.Redaction

/-!
A tool call as its routes return it, and what a client that was authorized to
execute it sends back to consume the grant: the input it was shown.
-/

namespace ActionProxy

open JsonText

def withheldModelResultMessage : String :=
  "ActionProxy withheld the downstream result because required content-exposure evidence was " ++
    "not durably recorded."

def isModelVisibleResultWithheld (toolCall : ToolCallRecord) : Bool :=
  toolCall.resultWithheld == some true &&
    (toolCall.status == .executed ||
      (toolCall.resultDelivery.bind (fun delivery => member? delivery "modelVisible")).any
        (fun visible => match visible with | .bool flag => flag | _ => false))

section

variable [Runtime]

def redactActionEnvelope (redaction : RedactionOptions) (envelope : ActionEnvelope) :
    ActionEnvelope :=
  { envelope with input := redactJsonObjectAtPath envelope.input ["input"] redaction }

def redactToolCall (toolCall : ToolCallRecord) (redaction : RedactionOptions) : ToolCallRecord :=
  let withholdModelResult := isModelVisibleResultWithheld toolCall
  { toolCall with
    actionEnvelope := toolCall.actionEnvelope.map (redactActionEnvelope redaction)
    input := redactJsonObjectAtPath toolCall.input ["input"] redaction
    metadata := redactJsonObject toolCall.metadata redaction
    error := if withholdModelResult then some withheldModelResultMessage else toolCall.error
    result :=
      if withholdModelResult then none
      else toolCall.result.map (fun result => match result with
        | .obj members => .obj (redactToolCallResult members redaction)
        | other => other) }

/-! ### Authorization -/

/-- The tool call as a grant is issued for it: the authorized input in its envelope. -/
def authorizedBase (toolCall : ToolCallRecord) (envelope : ActionEnvelope) (input : JsonObject) :
    ToolCallRecord :=
  let actionEnvelope := actionEnvelopeForInput envelope input
  { toolCall with
    input := input
    inputHash := some actionEnvelope.inputHash
    actionEnvelope := some actionEnvelope
    actionEnvelopeHash := some actionEnvelope.envelopeHash }

/-- The tool call as `authorizeExternalExecution` stores it. -/
def authorizedToolCall (toolCall : ToolCallRecord) (envelope : ActionEnvelope) (input : JsonObject)
    (result : JsonObject) (updatedAt : String) : ToolCallRecord :=
  { authorizedBase toolCall envelope input with
    status := .authorized
    result := some (.obj (redactToolCallResult result { fields := none, replacement := none }))
    updatedAt := updatedAt }

end

/-! ### Transport -/

/-- A JSON object as a body is parsed to: its keys distinct, its numbers those of the
language and no member undefined. -/
structure JsonInput (nearest : JsonNumber → Option JsonNumber) where
  members : JsonObject
  distinct : distinctKeys (.obj members) = true
  exact : exactNumbers nearest (.obj members) = true
  whole : complete (.obj members) = true

/-- An object after `JSON.stringify` on one side and `JSON.parse` on the other. -/
def transported (nearest : JsonNumber → Option JsonNumber) (value : JsonObject) :
    Option JsonObject :=
  match jsonParse nearest (String.ofList (textWith insertionOrder (.obj value))) with
  | some (.obj members) => some members
  | _ => none

section

variable {nearest : JsonNumber → Option JsonNumber}

theorem JsonInput.transported_eq (input : JsonInput nearest) :
    transported nearest input.members = some input.members := by
  rw [transported, jsonParse_printed insertionOrder input.distinct input.exact,
    printed_complete input.whole]

variable [Runtime]

/-- Redaction makes a JSON object of a JSON object. -/
def JsonInput.redacted (input : JsonInput nearest) (path : List String)
    (options : RedactionOptions) : JsonInput nearest :=
  { members := redactJsonObjectAtPath input.members path options
    distinct := by
      refine everyPart_redactValue rfl ?_ path input.distinct
      intro path value check
      cases value with
      | obj members =>
          rw [redactValue]
          exact decide_eq_true ((redactMembers_keys path members).nodup (of_decide_eq_true check))
      | _ => exact check
    exact := by
      refine everyPart_redactValue rfl ?_ path input.exact
      intro path value check
      cases value <;> exact check
    whole := by
      refine everyPart_redactValue rfl ?_ path input.whole
      intro path value check
      cases value with
      | obj members =>
          rw [redactValue, redactMembers_eq]
          apply List.all_eq_true.mpr
          intro redacted listed
          obtain ⟨member, given, becomes⟩ := List.mem_filterMap.mp listed
          exact redactMember_defined becomes (List.all_eq_true.mp check member given)
      | _ => exact check }

/-! ### The authorized input -/

/-- What a client sends to consume the grant of a tool call it was shown. -/
def consumeRequest (shown : ToolCallRecord) (input : JsonObject) : ConsumeExecutionGrantInput :=
  { input := input
    policyVersionHash := shown.policyVersionHash
    toolCallId := shown.id
    toolName := shown.toolName }

/-- An external authorization: the submitted tool call, the input that was authorized
and what the grant is issued with. -/
structure ExternalAuthorization (nearest : JsonNumber → Option JsonNumber) where
  toolCall : ToolCallRecord
  envelope : ActionEnvelope
  input : JsonInput nearest
  result : JsonObject
  updatedAt : String
  actor : String
  auth : Option AuthContext
  receipt : Option ActionReceiptRecord
  secret : String
  issue : GrantIssue

/-- The record that the routes return. -/
def ExternalAuthorization.shown (authorization : ExternalAuthorization nearest)
    (policy : PolicyFile) : ToolCallRecord :=
  redactToolCall
    (authorizedToolCall authorization.toolCall authorization.envelope authorization.input.members
      authorization.result authorization.updatedAt)
    (redactionOptionsFromPolicy policy)

def ExternalAuthorization.grant (authorization : ExternalAuthorization nearest) :
    ExecutionGrantRecord :=
  prepareGrant authorization.secret authorization.issue
    { actor := authorization.actor
      auth := authorization.auth
      receipt := authorization.receipt
      toolCall :=
        authorizedBase authorization.toolCall authorization.envelope authorization.input.members }

/-- The input a client is shown, executes and sends back is the authorized one. -/
def InputConsumed (authorization : ExternalAuthorization nearest) (policy : PolicyFile) : Prop :=
  ∃ executed consumed,
    transported nearest (authorization.shown policy).input = some executed ∧
    transported nearest executed = some consumed ∧
    hashJson (.obj consumed) = authorization.grant.inputHash ∧
    (∀ now activePolicyVersionHash auth, grantRequestFailure authorization.secret now
      activePolicyVersionHash authorization.grant
      (consumeRequest (authorization.shown policy) consumed) auth ≠ some inputHashMismatch) ∧
    Same (.obj executed) (.obj authorization.input.members)

/-- Nothing in the authorized input is redacted. -/
def InputUnredacted (authorization : ExternalAuthorization nearest) (policy : PolicyFile) : Prop :=
  unredacted (pathSet ((redactionOptionsFromPolicy policy).fields.getD [])) redactedText ["input"]
    (.obj authorization.input.members) = true

theorem ExternalAuthorization.grant_inputHash (authorization : ExternalAuthorization nearest) :
    authorization.grant.inputHash = hashJson (.obj authorization.input.members) := rfl

theorem ExternalAuthorization.shown_input (authorization : ExternalAuthorization nearest)
    (policy : PolicyFile) : (authorization.shown policy).input =
      (authorization.input.redacted ["input"] (redactionOptionsFromPolicy policy)).members := rfl

theorem inputConsumed_of_unredacted {authorization : ExternalAuthorization nearest}
    {policy : PolicyFile} (kept : InputUnredacted authorization policy) :
    InputConsumed authorization policy := by
  have same := redactValue_unredacted authorization.input.whole ["input"] kept
  rw [redactValue] at same
  have shown : (authorization.shown policy).input = authorization.input.members :=
    Json.obj.inj same
  refine ⟨authorization.input.members, authorization.input.members, ?_,
    authorization.input.transported_eq, rfl, ?_, same_refl _⟩
  · rw [shown, authorization.input.transported_eq]
  · intro now activePolicyVersionHash auth
    exact grantRequestFailure_input rfl

theorem unredacted_of_inputConsumed (injective : Function.Injective sha256Hex)
    {authorization : ExternalAuthorization nearest} {policy : PolicyFile}
    (consumes : InputConsumed authorization policy) : InputUnredacted authorization policy := by
  obtain ⟨executed, consumed, sent, received, sameHash, _, _⟩ := consumes
  rw [authorization.shown_input policy, JsonInput.transported_eq, Option.some_inj] at sent
  rw [← sent, JsonInput.transported_eq, Option.some_inj] at received
  rw [← received, authorization.grant_inputHash] at sameHash
  exact unredacted_of_same authorization.input.distinct ["input"]
    (same_of_hashJson_eq injective sameHash)

/-- A client consumes the grant it was issued exactly when nothing in the authorized
input is redacted from the record it is shown. -/
theorem authorized_input_consumed_iff (injective : Function.Injective sha256Hex)
    (authorization : ExternalAuthorization nearest) (policy : PolicyFile) :
    InputConsumed authorization policy ↔ InputUnredacted authorization policy :=
  ⟨unredacted_of_inputConsumed injective, inputConsumed_of_unredacted⟩

end

/-! ### A record with a key in it -/

private def updateCall : ToolCallRecord :=
  { id := "toolcall_1"
    workspaceId := none
    toolName := "crm.update"
    input := []
    inputHash := none
    actionEnvelope := none
    actionEnvelopeHash := none
    canonicalActionRequestHash := none
    canonicalActionRequestVersion := none
    canonicalDecisionInputHash := none
    canonicalPolicyContext := none
    contentInfluence := none
    influenceScopeId := none
    requestedBy := "agent"
    requestedByAuth := none
    agentId := "agent"
    reason := "update"
    metadata := []
    status := .pendingApproval
    decision := some .requireApproval
    authorizationDecision := none
    authorizationReason := none
    decisionTrace := none
    policyReason := none
    policyVersionId := none
    policyVersionHash := none
    resultDelivery := none
    resultSource := none
    resultWithheld := none
    risk := none
    result := none
    error := none
    createdAt := "2026-07-10T10:00:00.000Z"
    updatedAt := "2026-07-10T10:00:00.000Z" }

private def updateEnvelope : ActionEnvelope :=
  { envelopeHash := "envelope"
    executionMode := .externalGrant
    input := []
    inputHash := "input"
    preparedAction := none
    body := [] }

/-- A customer record is updated; the name of the member is given. -/
private def updateAuthorization (name : String) : ExternalAuthorization some :=
  { toolCall := updateCall
    envelope := updateEnvelope
    input :=
      { members := [("customer", some (.obj [(name, some (.str "k-1"))]))]
        distinct := by simp [distinctKeys, everyObject, everyPart, everyMember, onMembers]
        exact := by simp [exactNumbers, everyPart, everyMember]
        whole := by simp [complete, everyObject, everyPart, everyMember, onMembers] }
    result := []
    updatedAt := "2026-07-10T10:05:00.000Z"
    actor := "reviewer"
    auth := none
    receipt := none
    secret := "secret"
    issue :=
      { createdAt := "2026-07-10T10:05:00.000Z"
        expiresAt := "2026-07-10T10:10:00.000Z"
        id := "grant_1"
        nonce := "nonce" } }

private def reviewedPolicy : PolicyFile :=
  { version := JsonNumber.ofDigit 1 Nat.one_ne_zero
    default := PolicyRule.plain .required
    tools := KeyedTable.empty }

/-- A runtime that lowers one character at a time. -/
private abbrev letterRuntime : Runtime :=
  { sampleRuntime [] with
    toLowerCase := fun text => String.ofList (text.toList.map Char.toLower) }

/-- An authorized input with a member named `apiKey` cannot be consumed. -/
theorem authorized_input_refused :
    Function.Injective (@sha256Hex letterRuntime) ∧
      ¬@InputConsumed some letterRuntime (updateAuthorization "apiKey") reviewedPolicy := by
  let _ := letterRuntime
  have injective : Function.Injective (@sha256Hex letterRuntime) :=
    knownDigest_injective (by decide) (by decide)
  refine ⟨injective, ?_⟩
  intro consumes
  have kept := unredacted_of_inputConsumed injective consumes
  unfold InputUnredacted at kept
  exact absurd kept (by decide)

theorem authorized_input_consumed_email :
    @InputConsumed some letterRuntime (updateAuthorization "email") reviewedPolicy := by
  apply (@authorized_input_consumed_iff some letterRuntime
    (knownDigest_injective (by decide) (by decide)) (updateAuthorization "email")
    reviewedPolicy).mpr
  unfold InputUnredacted
  decide

end ActionProxy
