import ActionProxy.Policy.Revalidation
import ActionProxy.Services.ApproverEligibility
import ActionProxy.Services.ExternalAuthorization
import ActionProxy.Storage.ApprovalTransitions

/-!
Deciding an approval: the calls that approve, reject and cancel it. Each loads the approval
and its tool call, lets them expire, checks the principal, compares what is stored with what
was published, and makes one transition in the store; an approval that becomes final releases
its action. No lifecycle of prepared actions is installed.
-/

namespace ActionProxy

open JsonText Interleaving

/-! ### Inputs and answers -/

inductive ApprovalInputDecision where
  | edited (input : JsonObject)
  | original

def ApprovalInputDecision.mode : ApprovalInputDecision → InputDecision
  | .edited _ => .edited
  | .original => .original

def ApprovalInputDecision.edited? : ApprovalInputDecision → Option JsonObject
  | .edited input => some input
  | .original => none

/-- The body of an approval. An edited input may be left out, `null` or given. -/
structure ApproveApprovalInput where
  approvalNonce : Option String
  approvedBy : Option String
  inputDecision : Option ApprovalInputDecision
  note : Option String
  editedInput : Option (Option JsonObject)
  reviewHash : Option String

structure RejectApprovalInput where
  approvalNonce : Option String
  rejectedBy : Option String
  reason : Option String

structure CancelApprovalInput where
  approvalNonce : Option String
  cancelledBy : Option String
  reason : Option String

/-- What the calls of the gate answer. -/
structure GateAnswer where
  toolCall : ToolCallRecord
  approval : Option ApprovalRecord

def ApprovalStatus.text : ApprovalStatus → String
  | .pending => "pending"
  | .approved => "approved"
  | .cancelled => "cancelled"
  | .expired => "expired"
  | .rejected => "rejected"
  | .superseded => "superseded"

/-- How a principal is recorded. -/
def AuthContext.actor (auth : AuthContext) : String := auth.email.getD auth.principalId

def actorForDecision (bodyActor : Option String) (auth : Option AuthContext) : String :=
  match auth.filter (fun auth => auth.authProvider ≠ .none) with
  | none => bodyActor.getD "local-admin"
  | some auth => auth.actor

def approvalDecisionSource (supplied : Option ApprovalDecisionSource) (auth : Option AuthContext) :
    ApprovalDecisionSource :=
  match supplied, auth.map AuthContext.authProvider with
  | some source, _ => source
  | none, some .slack => .slack
  | none, some .telegram => .telegram
  | none, _ => .actionproxy

/-! ### Errors -/

def synchronizedConflict (message : String) : GateError :=
  .named "ApprovalPresentationSynchronizedConflictError" message

def registryUnavailable : GateError :=
  .named "ActionContractUnavailableError"
    "The prepared-action registry is unavailable for this approval."

def approvalNotFound (approvalId : String) : GateError :=
  .service (.notFound ("Approval not found: " ++ approvalId))

/-- The error for an approval that is no longer pending, and that was `before`. -/
def notPending (before now : ApprovalStatus) : GateError :=
  if before = .pending ∧ now = .expired then synchronizedConflict "Approval is already expired"
  else .service (.conflict ("Approval is already " ++ now.text))

/-- The error for a transition that found the approval final. -/
def alreadyFinal (approval : Option ApprovalRecord) : GateError :=
  .service (.conflict ("Approval is already " ++
    (approval.map (fun approval => approval.status.text)).getD "finalized"))

namespace LocalCall

/-- A check that throws `ForbiddenError`. -/
def allowed (checked : Except String Unit) : LocalCall Unit :=
  match checked with
  | .error message => fail (.forbidden message)
  | .ok () => pure ()

/-- A transition of an approval in the store. -/
def decide [Runtime] (operation : ApprovalOperation) : LocalCall ApprovalResult :=
  onStore fun clock store => operation.apply store clock.millis

/-- A failed check ends the call. -/
def check (failure : Option GateError) : LocalCall Unit :=
  match failure with
  | none => pure ()
  | some error => .throw error

end LocalCall

/-! ### The parts of a decision -/

structure ApprovalState where
  approval : ApprovalRecord
  toolCall : ToolCallRecord

def loadApprovalState (approvalId : String) (auth : Option AuthContext) :
    LocalCall ApprovalState := do
  let approval ← LocalCall.readStore fun store => store.approvals.get? approvalId
  match approval with
  | none => .throw (approvalNotFound approvalId)
  | some approval => do
      LocalCall.allowed (assertWorkspace approval.workspaceId auth)
      let toolCall ← LocalCall.readStore fun store => store.toolCalls.get? approval.toolCallId
      match toolCall with
      | none => LocalCall.fail (.notFound ("Tool call not found: " ++ approval.toolCallId))
      | some toolCall => do
          LocalCall.allowed (assertWorkspace toolCall.workspaceId auth)
          pure { approval := approval, toolCall := toolCall }

/-- `assertClientApprovalNonce`. -/
def clientNonceFailure (approval : ApprovalRecord) (supplied : Option String) :
    Option GateError :=
  if supplied.any (fun nonce => approval.authorization.map (·.nonce) != some nonce) then
    some (.service (.conflict
      "Approval authorization nonce is stale or does not match this approval."))
  else none

def terminalizeToolCall (toolCall : ToolCallRecord) (updatedAt : String) :
    LocalCall ToolCallRecord :=
  if toolCall.status ≠ .pendingApproval then pure toolCall
  else do
    let updated : ToolCallRecord := { toolCall with status := .rejected, updatedAt := updatedAt }
    LocalCall.onStore fun _ store => ((), store.updateToolCall updated)
    pure updated

def recordExpiredApproval (approval : Option ApprovalRecord) (toolCall : ToolCallRecord) :
    LocalCall Unit :=
  match approval with
  | none => pure ()
  | some approval => do
      let _ ← terminalizeToolCall toolCall (approval.expiredAt.getD approval.updatedAt)
      LocalCall.audit "approval.expired"

section

variable [Runtime]

def approvalInputDecision (input : ApproveApprovalInput) :
    Except GateError ApprovalInputDecision :=
  let conflict : Except GateError ApprovalInputDecision :=
    .error (.service (.conflict "Approval input decision representations conflict."))
  match input.inputDecision, input.editedInput with
  | some decision, none => .ok decision
  | some .original, some none => .ok .original
  | some .original, some (some _) => conflict
  | some (.edited _), some none => conflict
  | some (.edited decided), some (some edited) =>
      if hashJson (.obj decided) != hashJson (.obj edited) then conflict else .ok (.edited decided)
  | none, some (some edited) => .ok (.edited edited)
  | none, _ => .ok .original

/-- `resolvePreparedInlineEditDisposition`, which needs the registry for a prepared action. -/
def preparedEditFailure (toolCall : ToolCallRecord) (decision : ApprovalInputDecision) :
    Option GateError :=
  if decision.edited?.isSome && (toolCall.actionEnvelope.bind ActionEnvelope.preparedAction).isSome
  then some registryUnavailable
  else none

/-- A pending approval whose authorization is valid and has expired. -/
def expiredAuthorization (approval : ApprovalRecord) (now : Int) :
    Option ApprovalAuthorizationV1 :=
  if approval.status ≠ .pending then none
  else approval.authorization.filter fun authorization =>
    isValidApprovalAuthorization authorization && approvalAuthorizationExpired authorization now

def expireApprovalIfNeeded (approval : ApprovalRecord) (toolCall : ToolCallRecord) :
    LocalCall ApprovalRecord := do
  let now ← LocalCall.gate Gate.now
  match expiredAuthorization approval now.millis with
  | none => pure approval
  | some authorization => do
      let expiredAt ← LocalCall.gate Gate.now
      let transition ← LocalCall.decide (.expire
        { approvalId := approval.id
          authorization := authorization
          expiredAt := expiredAt.text })
      match transition.outcome, transition.approval with
      | .expired, some expired => do
          recordExpiredApproval (some expired) toolCall
          pure expired
      | _, stored => pure (stored.getD approval)

/-! ### The guards of a transition -/

def approvalAuthorizationGuard (approval : ApprovalRecord) (toolCall : ToolCallRecord)
    (activePolicyVersionHash : String) : Except GateError ApprovalAuthorizationGuard :=
  match approval.authorization.filter (fun authorization =>
      isValidApprovalAuthorization authorization) with
  | none => .error (.service (.conflict
      ("Approval lacks actionproxy.approval-authorization.v1 state. Resubmit the action.")))
  | some authorization =>
      match approvalAuthorizationMismatch authorization approval toolCall with
      | some mismatch => .error (.service (.conflict
          ("Approval authorization binding is invalid (" ++ mismatch ++
            "). Resubmit the action.")))
      | none =>
          if authorization.binding.policy.legacyVersionHash ≠ activePolicyVersionHash then
            .error (.service (.conflict
              "The active policy changed after approval creation. Resubmit the action."))
          else .ok
            { activePolicyVersionHash := activePolicyVersionHash
              authorization := authorization
              originalInput := approval.originalInput }

def safeTerminalAuthorizationGuard (approval : ApprovalRecord) (toolCall : ToolCallRecord) :
    Option ApprovalAuthorizationGuard :=
  (approval.authorization.filter fun authorization =>
      isValidApprovalAuthorization authorization &&
        (approvalAuthorizationMismatch authorization approval toolCall).isNone).map
    fun authorization =>
      { activePolicyVersionHash := authorization.binding.policy.legacyVersionHash
        authorization := authorization
        originalInput := approval.originalInput }

/-- `assertApprovalBindingIsCurrent`; an empty digest is none. -/
def staleBindingFailure (approval : ApprovalRecord) (actionEnvelope : ActionEnvelope)
    (expectedReviewHash : String) : Option GateError :=
  (firstFailure [
    ((nonEmpty approval.originalInputHash).any (· != hashJson (.obj approval.originalInput)),
      "Approval original input no longer matches its stored hash. Resubmit the action."),
    ((nonEmpty approval.originalEnvelopeHash).any (· != actionEnvelope.envelopeHash),
      "Approval action envelope no longer matches the submitted action. Resubmit the action."),
    ((nonEmpty approval.reviewHash).any (· != expectedReviewHash),
      "Approval review binding is stale. Resubmit the action.")]).map
    fun message => .service (.conflict message)

/-! ### The policy of an approval -/

/-- The base evaluation of a tool call, or of an edited one, while the result source that
was frozen with it is still the one the policy names. -/
def currentBaseEvaluation (config : GateConfig) (toolCall evaluated : ToolCallRecord)
    (changed : String) (policy : PolicyFile) : Except GateError PolicyEvaluation :=
  match policyContextFromToolCall evaluated with
  | .error message => .error (.named "Error" message)
  | .ok context =>
      let base := (config.evaluatePolicyProvider policy toolCall.toolName context).trace.evaluation
      if hashOrNull toolCall.resultSource !=
          hashOrNull (base.rule.bind (frozenResultSourceJson · policy)) then
        .error (.service (.conflict changed))
      else .ok base

def submittedBaseEvaluation (config : GateConfig) (toolCall : ToolCallRecord)
    (policy : PolicyFile) : Except GateError PolicyEvaluation :=
  if (nonEmpty toolCall.policyVersionHash).any (· != policy.versionHash) then
    .error (.service (.conflict
      "The active policy changed after submission. Resubmit the action for a new decision."))
  else
    currentBaseEvaluation config toolCall toolCall
      ("The frozen result-source classification changed before approval. Resubmit the action.")
      policy

def approvedBaseEvaluation (config : GateConfig) (toolCall : ToolCallRecord)
    (approvedEnvelope : ActionEnvelope) (approvedInput : JsonObject) (policy : PolicyFile) :
    Except GateError PolicyEvaluation :=
  currentBaseEvaluation config toolCall (editedToolCall toolCall approvedEnvelope approvedInput)
    ("The approved input selects a different result-source classification. Resubmit the action.")
    policy

/-- An evaluation under the policy in force, while the evidence of the tool call stands. -/
def reevaluated (toolCall : ToolCallRecord)
    (evaluate : PolicyFile → Except GateError PolicyEvaluation) : Gate PolicyEvaluation := do
  let compared ← Prog.read Server.policy
  let base ← Prog.ofExcept (evaluate compared.policy)
  let influence := revalidatedInfluence compared.policy toolCall base
  let stale ← contentInfluenceBindingFailure toolCall influence
    (base.rule.bind PolicyRule.influence).isSome
  match stale with
  | some message => Gate.fail (.conflict message)
  | none => pure (effectivePolicyEvaluation base influence)

/-- `assertApprovalPolicyIsCurrent`; the policy may be replaced between its two readings. -/
def assertApprovalPolicyIsCurrent (config : GateConfig) (toolCall : ToolCallRecord)
    (approvedInput : JsonObject) (approvedEnvelope : ActionEnvelope) : Gate Unit := do
  let original ← reevaluated toolCall (submittedBaseEvaluation config toolCall)
  let approved ← reevaluated toolCall
    (approvedBaseEvaluation config toolCall approvedEnvelope approvedInput)
  match approvedEvaluationFailure original approved with
  | none => pure ()
  | some message => Gate.fail (.conflict message)

/-! ### Approving -/

/-- Who decides, as what, and when. -/
structure DecisionMaker where
  actor : String
  auth : Option AuthContext
  source : ApprovalDecisionSource
  now : Instant

/-- What a decision is made on: the records as they were loaded, and the input. -/
structure ApprovalDecisionBasis where
  approval : ApprovalRecord
  toolCall : ToolCallRecord
  decision : ApprovalInputDecision

namespace ApprovalDecisionBasis

def approvedInput (basis : ApprovalDecisionBasis) : JsonObject :=
  basis.decision.edited?.getD basis.approval.originalInput

def approvedEnvelope (basis : ApprovalDecisionBasis) : ActionEnvelope :=
  actionEnvelopeForInput (actionEnvelopeForToolCall basis.toolCall) basis.approvedInput

def reviewHash (basis : ApprovalDecisionBasis) : String :=
  reviewHashFor (actionEnvelopeForToolCall basis.toolCall).envelopeHash basis.approval.id
    basis.toolCall.policyVersionHash basis.toolCall.id

/-- What is checked before the policy is. -/
def failure (basis : ApprovalDecisionBasis) (suppliedReviewHash : Option String) :
    Option GateError :=
  let edited := basis.decision.edited?.isSome
  let originalOnly :=
    (member? basis.toolCall.metadata "approvalInputMode").bind asString? == some "original_only"
  (firstFailure [
    (suppliedReviewHash.any (· != basis.reviewHash),
      "Approval review hash is stale or does not match this approval."),
    (edited && originalOnly,
      "This approval only permits the original input. Reject it and submit a new proposal " ++
        "to make changes."),
    (edited && decide (1 < basis.approval.quorum),
      "Edited input is not supported when requiredApprovals is greater than 1.")]).map
    (fun message => .service (.conflict message)) <|>
  (actionEnvelopeForToolCall basis.toolCall).preparedAction.map (fun _ => registryUnavailable) <|>
  staleBindingFailure basis.approval (actionEnvelopeForToolCall basis.toolCall) basis.reviewHash

def decisionRecord (basis : ApprovalDecisionBasis) (maker : DecisionMaker)
    (supplied : ApprovalAuthorizationGuard) (note : Option String) : ApprovalDecisionRecord :=
  { actor := maker.actor
    auth := maker.auth
    authorizationHash := some supplied.authorization.authorizationHash
    authorizationNonce := some supplied.authorization.nonce
    authorizationVersion := some supplied.authorization.version
    approvedEnvelopeHash := some basis.approvedEnvelope.envelopeHash
    approvedInputHash := some basis.approvedEnvelope.inputHash
    decisionId := supplied.authorization.binding.decision.decisionId
    decidedAt := maker.now.text
    editedInput := basis.decision.edited?
    inputDecision := some basis.decision.mode
    note := note
    reviewHash := some basis.reviewHash
    source := some maker.source }

def transitionInput (basis : ApprovalDecisionBasis) (maker : DecisionMaker)
    (supplied : ApprovalAuthorizationGuard) (note : Option String) :
    AtomicApprovalDecisionInput :=
  { approvalId := basis.approval.id
    authorization := supplied
    approvedEnvelopeHash := basis.approvedEnvelope.envelopeHash
    approvedInputHash := basis.approvedEnvelope.inputHash
    decision := basis.decisionRecord maker supplied note
    editedInput := basis.decision.edited?
    note := note
    reviewHash := basis.reviewHash
    updatedAt := maker.now.text
    contentExposureRevision := contentExposureRevisionGuard basis.toolCall }

end ApprovalDecisionBasis

variable [RandomSource]

/-- The action of an approval that became final. -/
def releaseApproved (config : ActionProxyConfig) (basis : ApprovalDecisionBasis)
    (maker : DecisionMaker) (updatedApproval : ApprovalRecord) : LocalCall GateAnswer := do
  LocalCall.audit "approval.approved"
  let receipt ← createActionReceipt config
    { actor := maker.actor
      approval := some updatedApproval
      auth := maker.auth
      decisionKind := .humanApproval
      input := basis.approvedInput
      reviewHash := some basis.reviewHash
      toolCall := basis.toolCall }
  let executed ← releaseExecution config
    { toolCall := basis.toolCall
      input := basis.approvedInput
      actor := maker.actor
      auth := maker.auth
      receipt := some receipt
      approval := some updatedApproval }
    basis.approvedEnvelope.executionMode none
  pure { toolCall := executed, approval := some updatedApproval }

/-- What follows the transition of a decision. -/
def approvalAnswer (config : ActionProxyConfig) (approvalId : String)
    (basis : ApprovalDecisionBasis) (maker : DecisionMaker) (transition : ApprovalResult) :
    LocalCall GateAnswer :=
  match transition.outcome, transition.approval with
  | .notFound, _ => .throw (approvalNotFound approvalId)
  | .duplicate, _ => LocalCall.fail (.conflict
      "This principal has already approved this request.")
  | .authorizationMismatch, _ => LocalCall.fail (.conflict
      "Approval authorization binding changed. Resubmit the action.")
  | .contentInfluenceMismatch, _ => do
      LocalCall.auditBestEffort "content.influence_binding_stale"
      LocalCall.fail (.conflict ("Content-influence evidence changed at approval finalization. " ++
        "Resubmit the action."))
  | .expired, expired => do
      recordExpiredApproval expired basis.toolCall
      .throw (synchronizedConflict
        "Approval authorization has expired. Resubmit the action.")
  | .replayed, _ => LocalCall.fail (.conflict
      "Approval authorization nonce has already been consumed.")
  | .alreadyFinal, approval => .throw (alreadyFinal approval)
  | .finalized, some updatedApproval => releaseApproved config basis maker updatedApproval
  | _, some updatedApproval => do
      LocalCall.audit "approval.approval_recorded"
      pure { toolCall := basis.toolCall, approval := some updatedApproval }
  | _, none => .throw (.named "TypeError" "Cannot read properties of undefined")

/-- From the checked records on. -/
def decideApproval (config : ActionProxyConfig) (approvalId : String)
    (basis : ApprovalDecisionBasis) (input : ApproveApprovalInput) (auth : Option AuthContext)
    (source : Option ApprovalDecisionSource) : LocalCall GateAnswer := do
  let now ← LocalCall.gate Gate.now
  let maker : DecisionMaker :=
    { actor := actorForDecision input.approvedBy auth
      auth := auth
      source := approvalDecisionSource source auth
      now := now }
  LocalCall.check (basis.failure input.reviewHash)
  LocalCall.gate (assertApprovalPolicyIsCurrent config.toGateConfig basis.toolCall
    basis.approvedInput basis.approvedEnvelope)
  let active ← LocalCall.gate (Prog.read Server.policy)
  let supplied ← Prog.ofExcept
    (approvalAuthorizationGuard basis.approval basis.toolCall active.policy.versionHash)
  let transition ← LocalCall.decide (.record (basis.transitionInput maker supplied input.note))
  approvalAnswer config approvalId basis maker transition

def approveApproval (config : ActionProxyConfig) (approvalId : String)
    (input : ApproveApprovalInput) (auth : Option AuthContext)
    (source : Option ApprovalDecisionSource) : LocalCall GateAnswer := do
  let initial ← loadApprovalState approvalId auth
  LocalCall.allowed (assertCanDecideApproval initial.approval auth)
  let decision ← Prog.ofExcept (approvalInputDecision input)
  LocalCall.check (preparedEditFailure initial.toolCall decision)
  LocalCall.check
    (if initial.approval.status ≠ .pending then
      some (.service (.conflict ("Approval is already " ++ initial.approval.status.text)))
    else none)
  let authoritative ← loadApprovalState approvalId auth
  LocalCall.allowed (assertCanDecideApproval authoritative.approval auth)
  LocalCall.check (preparedEditFailure authoritative.toolCall decision)
  let approval ← expireApprovalIfNeeded authoritative.approval authoritative.toolCall
  let toolCall := authoritative.toolCall
  LocalCall.check
    (if approval.status ≠ .pending then
      some (notPending authoritative.approval.status approval.status)
    else none)
  LocalCall.check
    (if toolCall.status ≠ .pendingApproval then
      some (.service (.conflict ("Tool call is not pending approval: " ++ toolCall.status.text)))
    else none)
  LocalCall.allowed (assertCanDecideApproval approval auth)
  LocalCall.check (clientNonceFailure approval input.approvalNonce)
  decideApproval config approvalId
    { approval := approval, toolCall := toolCall, decision := decision } input auth source

/-! ### Rejecting and cancelling -/

omit [RandomSource]

/-- What rejecting and cancelling load: the approval, still pending, and its tool call. -/
def loadPendingApproval (approvalId : String) (auth : Option AuthContext) :
    LocalCall ApprovalState := do
  let loaded ← loadApprovalState approvalId auth
  let approval ← expireApprovalIfNeeded loaded.approval loaded.toolCall
  LocalCall.check
    (if approval.status ≠ .pending then some (notPending loaded.approval.status approval.status)
    else none)
  pure { approval := approval, toolCall := loaded.toolCall }

/-- What the refused transitions of a rejection or a cancellation throw. -/
def terminalFailure (approvalId mismatch : String) (toolCall : ToolCallRecord)
    (transition : ApprovalResult) : LocalCall ApprovalRecord :=
  match transition.outcome, transition.approval with
  | .notFound, _ => .throw (approvalNotFound approvalId)
  | .authorizationMismatch, _ => LocalCall.fail (.conflict mismatch)
  | .expired, expired => do
      recordExpiredApproval expired toolCall
      .throw (synchronizedConflict "Approval authorization has expired.")
  | .replayed, _ => LocalCall.fail (.conflict
      "Approval authorization nonce has already been consumed.")
  | .alreadyFinal, approval => .throw (alreadyFinal approval)
  | _, some updatedApproval => pure updatedApproval
  | _, none => .throw (.named "TypeError" "Cannot read properties of undefined")

/-- The second load of a rejection or a cancellation, and its checks. -/
def loadDecidable (approvalId : String) (nonce : Option String) (auth : Option AuthContext) :
    LocalCall ApprovalState := do
  let initial ← loadApprovalState approvalId auth
  LocalCall.allowed (assertCanDecideApproval initial.approval auth)
  let initialApproval ← expireApprovalIfNeeded initial.approval initial.toolCall
  LocalCall.check
    (if initialApproval.status ≠ .pending then
      some (notPending initial.approval.status initialApproval.status)
    else none)
  LocalCall.check (clientNonceFailure initialApproval nonce)
  let authoritative ← loadPendingApproval approvalId auth
  LocalCall.allowed (assertCanDecideApproval authoritative.approval auth)
  LocalCall.check (clientNonceFailure authoritative.approval nonce)
  pure authoritative

/-- Rejecting or cancelling: the transition of the checked approval, what it does to the
tool call, and the event. -/
def finishDecision (approvalId : String) (nonce : Option String) (auth : Option AuthContext)
    (operation : ApprovalState → Instant → ApprovalOperation) (mismatch : String)
    (finish : ToolCallRecord → Instant → LocalCall ToolCallRecord) (event : String) :
    LocalCall GateAnswer := do
  let authoritative ← loadDecidable approvalId nonce auth
  let now ← LocalCall.gate Gate.now
  let transition ← LocalCall.decide (operation authoritative now)
  let updatedApproval ← terminalFailure approvalId mismatch authoritative.toolCall transition
  let updatedToolCall ← finish authoritative.toolCall now
  LocalCall.audit event
  pure { toolCall := updatedToolCall, approval := some updatedApproval }

/-- The tool call of a rejected approval, whatever its status was. -/
def rejectToolCall (toolCall : ToolCallRecord) (now : Instant) : LocalCall ToolCallRecord := do
  let updated : ToolCallRecord := { toolCall with status := .rejected, updatedAt := now.text }
  LocalCall.onStore fun _ store => ((), store.updateToolCall updated)
  pure updated

def rejectApproval (approvalId : String) (input : RejectApprovalInput)
    (auth : Option AuthContext) : LocalCall GateAnswer :=
  finishDecision approvalId input.approvalNonce auth
    (fun authoritative now => .reject
      { approvalId := authoritative.approval.id
        authorization :=
          safeTerminalAuthorizationGuard authoritative.approval authoritative.toolCall
        reason := input.reason
        rejectedBy := actorForDecision input.rejectedBy auth
        updatedAt := now.text })
    "Approval authorization binding changed. Cancel or resubmit the action."
    rejectToolCall "approval.rejected"

def cancelApproval (approvalId : String) (input : CancelApprovalInput)
    (auth : Option AuthContext) : LocalCall GateAnswer :=
  finishDecision approvalId input.approvalNonce auth
    (fun authoritative now => .cancel
      { approvalId := authoritative.approval.id
        authorization :=
          safeTerminalAuthorizationGuard authoritative.approval authoritative.toolCall
        cancelledBy := actorForDecision input.cancelledBy auth
        reason := input.reason
        updatedAt := now.text })
    "Approval authorization binding changed. Resubmit the action."
    (fun toolCall now => terminalizeToolCall toolCall now.text) "approval.cancelled"

end

end ActionProxy
