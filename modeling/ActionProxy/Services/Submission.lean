import ActionProxy.Contracts.CanonicalRequest
import ActionProxy.Services.FinalRevalidation

/-!
The submission of a tool call: the context its policy is evaluated on, the decision in
force after content influence, and the record the gate stores of both.
-/

namespace ActionProxy

open JsonText

/-! ### Prepared actions -/

/-- What the lifecycle of prepared actions makes of a request. -/
structure PreparedActionSubmission where
  binding : JsonObject
  connectionId : String
  effectiveInput : JsonObject
  customerVisible : Bool
  operationKind : ActionOperationKind
  requiredScopes : List String
  risk : String
  resources : List Json

/-- The metadata fields that only a prepared action's contract may supply. -/
def governedMetadata : List String :=
  ["amount", "approverGroup", "currency", "customerVisible", "operationKind", "recipientDomain",
    "riskKind"]

def metadataWithPreparedGovernance (metadata : JsonObject) (prepared : PreparedActionSubmission) :
    JsonObject :=
  withoutMembers ("requiredScopes" :: governedMetadata) metadata ++ [
    ("customerVisible", some (.bool prepared.customerVisible)),
    ("operationKind", some (.str prepared.operationKind.text)),
    ("requiredScopes", some (.arr (prepared.requiredScopes.map .str))),
    ("riskKind", some (.str prepared.risk))]

/-- The action of a prepared request: what the contract governs, and the rest as stated. -/
def preparedAction (request : SubmitToolCallRequest) (prepared : PreparedActionSubmission) :
    JsonObject :=
  let action (name : String) : Option Json := request.action.bind (member? · name)
  let context (name : String) : Option Json := (action "context").bind (field? · name)
  [("context", some (.obj [
      ("dataClassification", context "dataClassification"),
      ("metadata", context "metadata"),
      ("reason", context "reason"),
      ("risk", some (.str prepared.risk)),
      ("sideEffects", some (.str ("prepared_" ++ prepared.operationKind.text)))])),
    ("executionMode", some (.str ActionExecutionMode.externalGrant.text)),
    ("operation", some (.obj [
      ("kind", some (.str prepared.operationKind.text)),
      ("name", some (.str request.toolName))])),
    ("protocol", action "protocol"),
    ("resources", some (.arr prepared.resources)),
    ("source", action "source")]

def effectiveRequest (request : SubmitToolCallRequest) :
    Option PreparedActionSubmission → SubmitToolCallRequest
  | none => request
  | some prepared =>
      { request with
        action := some (preparedAction request prepared)
        input := prepared.effectiveInput
        metadata := some (metadataWithPreparedGovernance request.metadataGiven prepared) }

/-! ### Submissions -/

structure SubmitToolCallOptions where
  auth : Option AuthContext
  forceApproval : Bool
  idempotencyKey : Option String
  ingress : Option CanonicalActionIngress

/-- A submission, with what it reads beside the request and its options: the clock, the
policy in force, the exposures of a scope where the store answers, and the approvers the
directory resolves. -/
structure Submission where
  request : SubmitToolCallRequest
  options : SubmitToolCallOptions
  prepared : Option PreparedActionSubmission
  toolCallId : String
  now : Instant
  policy : PolicyFile
  listContentExposures : ListContentExposuresInput → Option ListContentExposuresResult
  approverResolution : Json

namespace Submission

/-- The request as it is evaluated and stored. -/
def effective (submission : Submission) : SubmitToolCallRequest :=
  effectiveRequest submission.request submission.prepared

def workspaceId (submission : Submission) (config : GateConfig) : String :=
  (submission.options.auth.map AuthContext.workspaceId <|> config.workspaceId).getD "default"

/-- Whether an allowance becomes an approval. -/
def forced (submission : Submission) : Bool :=
  submission.options.forceApproval || submission.prepared.isSome

end Submission

def actorForSubmit (request : SubmitToolCallRequest) (auth : Option AuthContext) : String :=
  match auth.filter (fun auth => auth.authProvider ≠ .none) with
  | none => request.requestedBy
  | some auth => auth.email.getD auth.principalId

/-! ### The context -/

section

variable [Runtime]

def policyContextFromSubmit (request : SubmitToolCallRequest) : PolicyEvaluationContext :=
  let metadata := request.metadataGiven
  { amount :=
      numberContext (member? metadata "amount") <|> numberContext (member? request.input "amount")
        <|> numberContext (member? request.input "amountCents")
    approverGroup := stringContext (member? metadata "approverGroup")
    currency :=
      stringContext (notNull (member? metadata "currency") <|> member? request.input "currency")
    customerVisible := booleanContext (member? metadata "customerVisible")
    input := some request.input
    metadata := some metadata
    operationKind :=
      statedText (request.statedPart "operation" "kind")
        (stringContext (member? metadata "operationKind"))
    recipientDomain := stringContext (member? metadata "recipientDomain")
    risk :=
      statedText (request.statedPart "context" "risk")
        (stringContext (member? metadata "riskKind")) }

namespace Submission

/-- What normalizing the request starts from when it came in over an ingress. -/
def normalizeInput (submission : Submission) (config : GateConfig)
    (ingress : CanonicalActionIngress) : NormalizeActionRequestInput :=
  let contracted {Value : Type} (value : PreparedActionSubmission → Value) :
      Option (TrustedValue Value) :=
    submission.prepared.map fun prepared =>
      { source := contractSource prepared.binding, value := value prepared }
  { auth := submission.options.auth
    idempotencyKey := submission.options.idempotencyKey
    ingress := ingress
    receivedAt := submission.now.text
    request := submission.effective
    requestId := submission.toolCallId
    trustedCredentialReference := submission.prepared.map fun prepared =>
      { source :=
          "prepared-intent:" ++
            ((member? prepared.binding "intentId").bind asString?).getD ""
        value := prepared.connectionId }
    trustedExecutionMode := contracted fun _ => .externalGrant
    trustedOperation := contracted fun prepared =>
      (prepared.operationKind, submission.effective.toolName)
    trustedPolicy := submission.prepared.map fun prepared =>
      { customerVisible := prepared.customerVisible
        operationKind := prepared.operationKind
        risk := prepared.risk
        source := contractSource prepared.binding }
    trustedResources := contracted PreparedActionSubmission.resources
    workspaceId := submission.workspaceId config }

/-- The canonical request, for a call that came in over an ingress. -/
def canonical (submission : Submission) (config : GateConfig) :
    Except String (Option CanonicalActionRequest) :=
  match submission.options.ingress with
  | none => .ok none
  | some ingress =>
      (normalizeActionRequest (submission.normalizeInput config ingress)).map some

/-- The context the policy is evaluated on. -/
def context (submission : Submission) :
    Option CanonicalActionRequest → PolicyEvaluationContext
  | some canonical => canonical.policyContext
  | none => policyContextFromSubmit submission.effective

end Submission

/-! ### The decision -/

/-- What a provider answered, the evidence of the content observed, and the decision in
force. -/
structure SubmissionEvaluation where
  base : PolicyProviderEvaluation
  influence : Option ContentInfluenceEvidenceV1
  evaluation : PolicyEvaluation

/-- The provider's answer with the decision in force in it. -/
def SubmissionEvaluation.provider (evaluated : SubmissionEvaluation) : PolicyProviderEvaluation :=
  providerEvaluationWithEffectiveDecision evaluated.base evaluated.evaluation

namespace Submission

def influenceInput (submission : Submission) (config : GateConfig)
    (canonical : Option CanonicalActionRequest) (base : PolicyEvaluation) : InfluenceInput :=
  { baseEvaluation := base
    evaluatedAt := submission.now.text
    influenceScopeId := canonical.bind verifiedInfluenceScopeId
    policyVersionHash := submission.policy.versionHash
    policyVersionId := some (currentPolicyVersionId submission.policy.versionHash)
    workspaceId := submission.workspaceId config }

def baseEvaluation (submission : Submission) (config : GateConfig)
    (canonical : Option CanonicalActionRequest) : PolicyProviderEvaluation :=
  config.evaluatePolicyProvider submission.policy submission.effective.toolName
    (submission.context canonical)

def evaluate (submission : Submission) (config : GateConfig)
    (canonical : Option CanonicalActionRequest) : SubmissionEvaluation :=
  let base := submission.baseEvaluation config canonical
  let influence := evaluateInfluence submission.listContentExposures
    (submission.influenceInput config canonical base.trace.evaluation)
  { base := base
    influence := influence
    evaluation :=
      forcedEvaluation submission.forced
        (effectivePolicyEvaluation base.trace.evaluation influence) }

end Submission

/-! ### The record -/

def actionEnvelopeWithPreparedAction (envelope : ActionEnvelope)
    (prepared : PreparedActionSubmission) : ActionEnvelope :=
  let material : ActionEnvelope :=
    { envelope with
      input := prepared.effectiveInput
      inputHash := hashJson (.obj prepared.effectiveInput)
      preparedAction := some prepared.binding
      body := envelope.body.map fun member =>
        if member.1 = "resources" then
          (member.1, if prepared.resources.isEmpty then none else some (.arr prepared.resources))
        else member }
  { material with envelopeHash := hashJson material.withoutHash }

def Submission.actionEnvelope (submission : Submission) : ActionEnvelope :=
  let request := submission.effective
  let envelope := normalizeActionEnvelope (actorForSubmit request submission.options.auth)
    submission.options.auth request
  submission.prepared.elim envelope (actionEnvelopeWithPreparedAction envelope)

def policyTraceMembers (approverResolution : Json) (toolCall : ToolCallRecord)
    (evaluation : PolicyProviderEvaluation) : JsonObject :=
  let trace := evaluation.trace
  [("actionEnvelopeHash", toolCall.actionEnvelopeHash.map .str),
    ("canonicalActionRequestHash", toolCall.canonicalActionRequestHash.map .str),
    ("canonicalActionRequestVersion", toolCall.canonicalActionRequestVersion.map .str),
    ("canonicalDecisionInputHash", toolCall.canonicalDecisionInputHash.map .str),
    ("canonicalPolicyContext", toolCall.canonicalPolicyContext.map .obj),
    ("decisionV1", (decisionForToolCall toolCall evaluation).map ActionProxyDecisionV1.json),
    ("approverResolution", some approverResolution),
    ("decision", some (.str trace.decision.text)),
    ("fallbackPath", some (.arr (trace.fallbackPath.map (fun matched => .str matched.text)))),
    ("inputHash", toolCall.inputHash.map .str),
    ("matchType", some (.str trace.matchType.text)),
    ("matchedRule", some (.str trace.matchedRule)),
    ("policyReason", some (.str trace.evaluation.reason)),
    ("policyRisk", some (.str trace.evaluation.risk)),
    ("policyVersionHash", toolCall.policyVersionHash.map .str),
    ("policyVersionId", toolCall.policyVersionId.map .str),
    ("ruleEvaluations", some (.arr (trace.ruleEvaluations.map PolicyTraceRuleEvaluation.json))),
    ("storedDecision", toolCall.decision.map (fun decision => .str decision.text)),
    ("toolCallId", some (.str toolCall.id)),
    ("toolName", some (.str toolCall.toolName))]

/-- The trace of an evaluation that is at hand. The context of the tool call is read
before anything is traced. -/
def tracePolicyForToolCall (approverResolution : Json) (toolCall : ToolCallRecord)
    (evaluation : PolicyProviderEvaluation) : Except String JsonObject :=
  (policyContextFromToolCall toolCall).map fun _ =>
    policyTraceMembers approverResolution toolCall evaluation

namespace Submission

/-- The record before its trace. -/
def untraced (submission : Submission) (config : GateConfig)
    (canonical : Option CanonicalActionRequest) : ToolCallRecord :=
  let request := submission.effective
  let envelope := submission.actionEnvelope
  let evaluated := submission.evaluate config canonical
  let evaluation := evaluated.evaluation
  { id := submission.toolCallId
    workspaceId := some (submission.workspaceId config)
    toolName := request.toolName
    input := request.input
    inputHash := some envelope.inputHash
    actionEnvelope := some envelope
    actionEnvelopeHash := some envelope.envelopeHash
    canonicalActionRequestHash := canonical.map CanonicalActionRequest.requestHash
    canonicalActionRequestVersion := canonical.map fun _ => canonicalActionRequestVersion
    canonicalDecisionInputHash := canonical.map CanonicalActionRequest.decisionInputHash
    canonicalPolicyContext := canonical.map CanonicalActionRequest.policy
    contentInfluence := evaluated.influence
    influenceScopeId := canonical.bind verifiedInfluenceScopeId
    requestedBy := actorForSubmit request submission.options.auth
    requestedByAuth := submission.options.auth
    agentId := request.agentId
    reason := request.reason
    metadata := request.metadataGiven
    status :=
      if submission.prepared.isSome && evaluation.decision == .deny then .blocked else .submitted
    decision := some evaluation.decision
    authorizationDecision := some evaluation.decision
    authorizationReason := some evaluation.reason
    decisionTrace := none
    policyReason := some evaluation.reason
    policyVersionId := some (currentPolicyVersionId submission.policy.versionHash)
    policyVersionHash := some submission.policy.versionHash
    resultDelivery := none
    resultSource :=
      evaluation.rule.bind fun rule => frozenResultSourceJson rule submission.policy
    resultWithheld := none
    risk := some evaluation.risk
    result := none
    error := none
    createdAt := submission.now.text
    updatedAt := submission.now.text }

/-- What the trace of a submission has beside that of its evaluation. -/
def tracedEvidence (submission : Submission) (config : GateConfig)
    (canonical : Option CanonicalActionRequest) : JsonObject :=
  (canonical.map fun canonical =>
      ("canonicalRequestEvidence", some canonical.evidence)).toList ++
    ((submission.evaluate config canonical).influence.map fun evidence =>
      ("contentInfluence", some evidence.json)).toList

def traced (submission : Submission) (config : GateConfig)
    (canonical : Option CanonicalActionRequest) : Except String ToolCallRecord :=
  let toolCall := submission.untraced config canonical
  (tracePolicyForToolCall submission.approverResolution toolCall
      (submission.evaluate config canonical).provider).map fun trace =>
    { toolCall with
      decisionTrace := some (trace ++ submission.tracedEvidence config canonical) }

end Submission

/-- A classified result of an authoritative MCP call is withheld from the start. -/
def withheldFromStart (toolCall : ToolCallRecord) : ToolCallRecord :=
  if requiresContentExposureBeforeRelease toolCall then
    { toolCall with resultWithheld := some true }
  else toolCall

/-- The record `submitToolCall` makes of a submission, where nothing is thrown. -/
def Submission.toolCall (submission : Submission) (config : GateConfig) :
    Except String ToolCallRecord := do
  let canonical ← submission.canonical config
  let traced ← submission.traced config canonical
  return withheldFromStart traced

/-! ### The context of the record -/

theorem policyTraceMembers_distinct (approverResolution : Json) (toolCall : ToolCallRecord)
    (evaluation : PolicyProviderEvaluation) :
    ((policyTraceMembers approverResolution toolCall evaluation).map Prod.fst).Nodup := by
  simp [policyTraceMembers]

theorem member_policyTraceMembers {approverResolution : Json} {toolCall : ToolCallRecord}
    {evaluation : PolicyProviderEvaluation} {added : JsonObject} {name : String}
    {value : Option Json}
    (listed : (name, value) ∈ policyTraceMembers approverResolution toolCall evaluation)
    (other : ∀ member ∈ added, member.1 ≠ name) :
    member? (policyTraceMembers approverResolution toolCall evaluation ++ added) name = value := by
  have alone := member?_of_mem (policyTraceMembers_distinct approverResolution toolCall evaluation)
    listed
  have unlisted : (definedMembers added).lookup name = none := by
    rw [List.lookup_eq_none_iff]
    intro member defined
    obtain ⟨given, inAdded, same⟩ := List.mem_filterMap.mp defined
    obtain ⟨key, value⟩ := given
    cases value with
    | none => cases same
    | some value =>
        cases same
        exact bne_iff_ne.mpr (fun equal => other _ inAdded equal.symm)
  unfold member? definedMembers at *
  rw [List.filterMap_append, List.lookup_append, unlisted, alone, Option.or_none]

theorem tracedEvidence_other (submission : Submission) (config : GateConfig)
    (canonical : Option CanonicalActionRequest) {name : String}
    (request : name ≠ "canonicalRequestEvidence") (observed : name ≠ "contentInfluence") :
    ∀ member ∈ submission.tracedEvidence config canonical, member.1 ≠ name := by
  intro member listed
  rcases List.mem_append.mp listed with evidence | influence
  · cases canonical with
    | none => cases evidence
    | some canonical =>
        rw [List.mem_singleton.mp evidence]
        exact request.symm
  · cases given : (submission.evaluate config canonical).influence with
    | none =>
        rw [given] at influence
        cases influence
    | some evidence =>
        rw [given] at influence
        rw [List.mem_singleton.mp influence]
        exact observed.symm

/-- A record that repeats its frozen context in its trace is read as it was before the
trace. -/
theorem policyContextFromToolCall_traced {toolCall : ToolCallRecord} {trace : JsonObject}
    {context : PolicyEvaluationContext} (untraced : toolCall.decisionTrace = none)
    (read : policyContextFromToolCall toolCall = .ok context)
    (repeated : member? trace "canonicalPolicyContext" =
      toolCall.canonicalPolicyContext.map .obj) :
    policyContextFromToolCall { toolCall with decisionTrace := some trace } = .ok context := by
  unfold policyContextFromToolCall at read ⊢
  split at read
  · rename_i canonical
    rw [if_pos canonical]
    rw [← read]
    congr 1
    unfold validatedFrozenCanonicalPolicyContext at read ⊢
    cases frozen : toolCall.canonicalPolicyContext with
    | none => rfl
    | some members =>
        rw [frozen] at read repeated
        simp only [untraced] at read ⊢
        by_cases valid : isCanonicalPolicyContext members = true
        · simp [valid, repeated]
        · simp [valid] at read ⊢
  · rename_i legacy
    rw [if_neg legacy]
    exact read

omit [Runtime] in
theorem envelopeBody_distinct (actor : String) (auth : Option AuthContext)
    (request : SubmitToolCallRequest) :
    ((envelopeBody actor auth request).map Prod.fst).Nodup := by
  simp [envelopeBody]

theorem member_actionEnvelope (submission : Submission) {name : String} {value : Option Json}
    (listed : (name, value) ∈ envelopeBody
      (actorForSubmit submission.effective submission.options.auth) submission.options.auth
      submission.effective)
    (other : name ≠ "resources") :
    member? submission.actionEnvelope.body name = value := by
  have distinct := envelopeBody_distinct
    (actorForSubmit submission.effective submission.options.auth) submission.options.auth
    submission.effective
  cases given : submission.prepared with
  | none =>
      rw [Submission.actionEnvelope, given]
      exact member?_of_mem distinct listed
  | some prepared =>
      rw [Submission.actionEnvelope, given]
      refine member?_of_mem ?_ (List.mem_map.mpr ⟨(name, value), listed, if_neg other⟩)
      have names : ∀ (members : JsonObject) (resources : Option Json),
          (members.map fun member =>
            if member.1 = "resources" then (member.1, resources) else member).map Prod.fst =
              members.map Prod.fst := by
        intro members resources
        rw [List.map_map]
        refine List.map_congr_left fun member _ => ?_
        simp only [Function.comp_apply]
        split <;> rfl
      exact (congrArg List.Nodup (names _ _)).mpr distinct

theorem legacyPolicyContext_untraced (submission : Submission) (config : GateConfig)
    (canonical : Option CanonicalActionRequest) :
    legacyPolicyContext (submission.untraced config canonical) =
      policyContextFromSubmit submission.effective := by
  have operation := member_actionEnvelope submission
    (.tail _ (.tail _ (.tail _ (.head _)))) (by decide)
  have context := member_actionEnvelope submission (.tail _ (.tail _ (.head _))) (by decide)
  have kind : field? (.obj [
      ("kind", submission.effective.statedPart "operation" "kind"),
      ("name", submission.effective.statedPart "operation" "name" <|>
        stringFromMetadata submission.effective.metadataGiven "operation" <|>
        some (.str submission.effective.toolName))]) "kind" =
      submission.effective.statedPart "operation" "kind" :=
    member?_of_mem (by simp) (.head _)
  have risk : field? (envelopeContext submission.effective) "risk" =
      submission.effective.statedPart "context" "risk" :=
    member?_of_mem (by simp) (.tail _ (.tail _ (.tail _ (.tail _ (.head _)))))
  simp only [legacyPolicyContext, policyContextFromSubmit, Submission.untraced, operation, context,
    kind, risk, Option.bind_eq_bind, Option.bind_some]

theorem frozen_of_validated {toolCall : ToolCallRecord} {context : JsonObject}
    (validated : validatedFrozenCanonicalPolicyContext toolCall = .ok context) :
    toolCall.canonicalPolicyContext = some context := by
  unfold validatedFrozenCanonicalPolicyContext at validated
  split at validated
  · cases validated
  · rename_i frozen given
    rw [given]
    dsimp only at validated
    by_cases valid : isCanonicalPolicyContext frozen = true
    · rw [valid] at validated
      simp only [Bool.not_true, Bool.false_eq_true, if_false] at validated
      split_ifs at validated
      split at validated
      · exact congrArg some (Except.ok.inj validated)
      split at validated
      · cases validated
      · exact congrArg some (Except.ok.inj validated)
    · simp [valid] at validated

theorem policyContextFromToolCall_untraced {submission : Submission} {config : GateConfig}
    {canonical : Option CanonicalActionRequest} {context : PolicyEvaluationContext}
    (normalized : submission.canonical config = .ok canonical)
    (read : policyContextFromToolCall (submission.untraced config canonical) = .ok context) :
    context = submission.context canonical := by
  unfold Submission.canonical at normalized
  split at normalized
  · cases normalized
    have legacy := legacyPolicyContext_untraced submission config none
    rw [policyContextFromToolCall, if_neg (by simp [Submission.untraced]), legacy] at read
    exact (Except.ok.inj read).symm
  · rename_i ingress came
    obtain ⟨request, done, rfl⟩ : ∃ request,
        normalizeActionRequest (submission.normalizeInput config ingress) = .ok request ∧
          canonical = some request := by
      cases outcome : normalizeActionRequest (submission.normalizeInput config ingress) with
      | error message =>
          rw [outcome] at normalized
          cases normalized
      | ok request =>
          rw [outcome] at normalized
          exact ⟨request, rfl, (Except.ok.inj normalized).symm⟩
    have input : request.input = submission.effective.input := by
      rw [normalizeActionRequest_ok done, canonicalActionRequest_input]
      rfl
    have version : (submission.untraced config (some request)).canonicalActionRequestVersion =
        some canonicalActionRequestVersion := rfl
    rw [policyContextFromToolCall, if_pos version] at read
    cases validated : validatedFrozenCanonicalPolicyContext
        (submission.untraced config (some request)) with
    | error message =>
        rw [validated] at read
        cases read
    | ok frozen =>
        have same : request.policy = frozen := Option.some.inj (frozen_of_validated validated)
        rw [validated] at read
        have evaluated := Except.ok.inj read
        rw [← evaluated, ← same]
        change policyContextFromCanonicalFields request.policy submission.effective.input =
          policyContextFromCanonicalFields request.policy request.input
        rw [input]

theorem policyContextFromToolCall_withheld (toolCall : ToolCallRecord) :
    policyContextFromToolCall (withheldFromStart toolCall) =
      policyContextFromToolCall toolCall := by
  unfold withheldFromStart
  split <;> rfl

omit [Runtime] in
@[simp] theorem withheldFromStart_decisionTrace (toolCall : ToolCallRecord) :
    (withheldFromStart toolCall).decisionTrace = toolCall.decisionTrace := by
  unfold withheldFromStart
  split <;> rfl

/-- What a stored record says of its submission, and that its context is that of the
submission when it is read again. -/
structure StoresContext (submission : Submission) (config : GateConfig)
    (toolCall : ToolCallRecord) (canonical : Option CanonicalActionRequest) : Prop where
  normalized : submission.canonical config = .ok canonical
  toolName : toolCall.toolName = submission.effective.toolName
  context : policyContextFromToolCall toolCall = .ok (submission.context canonical)
  decision : toolCall.decision =
    some (submission.evaluate config canonical).evaluation.decision
  matchedRule : toolCall.decisionTrace.bind (member? · "matchedRule") =
    some (.str (submission.evaluate config canonical).provider.trace.matchedRule)

/-- A record that is stored: the submission's own with the trace of its evaluation. -/
theorem stored_shape {submission : Submission} {config : GateConfig}
    {toolCall : ToolCallRecord} (stored : submission.toolCall config = .ok toolCall) :
    ∃ canonical context, submission.canonical config = .ok canonical ∧
      policyContextFromToolCall (submission.untraced config canonical) = .ok context ∧
      toolCall = withheldFromStart { submission.untraced config canonical with
        decisionTrace := some (policyTraceMembers submission.approverResolution
          (submission.untraced config canonical) (submission.evaluate config canonical).provider ++
            submission.tracedEvidence config canonical) } := by
  unfold Submission.toolCall at stored
  cases normalized : submission.canonical config with
  | error message =>
      rw [normalized] at stored
      cases stored
  | ok canonical =>
      rw [normalized] at stored
      change (submission.traced config canonical).map withheldFromStart = .ok toolCall at stored
      cases read : policyContextFromToolCall (submission.untraced config canonical) with
      | error message =>
          rw [Submission.traced, tracePolicyForToolCall, read] at stored
          cases stored
      | ok context =>
          rw [Submission.traced, tracePolicyForToolCall, read] at stored
          exact ⟨canonical, context, rfl, read, (Except.ok.inj stored).symm⟩

theorem storesContext {submission : Submission} {config : GateConfig}
    {toolCall : ToolCallRecord} (stored : submission.toolCall config = .ok toolCall) :
    ∃ canonical, StoresContext submission config toolCall canonical := by
  obtain ⟨canonical, context, normalized, read, rfl⟩ := stored_shape stored
  have same := policyContextFromToolCall_untraced normalized read
  have repeated : member? (policyTraceMembers submission.approverResolution
      (submission.untraced config canonical) (submission.evaluate config canonical).provider ++
        submission.tracedEvidence config canonical) "canonicalPolicyContext" =
      (submission.untraced config canonical).canonicalPolicyContext.map .obj :=
    member_policyTraceMembers (.tail _ (.tail _ (.tail _ (.tail _ (.head _)))))
      (tracedEvidence_other submission config canonical (by decide) (by decide))
  have kept := policyContextFromToolCall_traced rfl read repeated
  exact
    ⟨canonical,
      { normalized := normalized
        toolName := by
          unfold withheldFromStart
          split <;> rfl
        context := by
          rw [policyContextFromToolCall_withheld, ← same]
          exact kept
        decision := by
          unfold withheldFromStart
          split <;> rfl
        matchedRule := by
          rw [withheldFromStart_decisionTrace]
          exact member_policyTraceMembers
            (.tail _ (.tail _ (.tail _ (.tail _ (.tail _ (.tail _ (.tail _ (.tail _
              (.tail _ (.tail _ (.tail _ (.head _))))))))))))
            (tracedEvidence_other submission config canonical (by decide) (by decide)) }⟩

/-- The workspace of a submission is the authenticated one, so normalizing never refuses. -/
theorem canonical_ok (submission : Submission) (config : GateConfig) :
    submission.canonical config = .ok (submission.options.ingress.map fun ingress =>
      canonicalActionRequest (submission.normalizeInput config ingress)) := by
  unfold Submission.canonical
  cases submission.options.ingress with
  | none => rfl
  | some ingress =>
      change (normalizeActionRequest (submission.normalizeInput config ingress)).map some = _
      rw [normalizeActionRequest_tenant]
      · rfl
      · intro auth principal
        change submission.options.auth = some auth at principal
        change auth.workspaceId = submission.workspaceId config
        rw [Submission.workspaceId, principal]
        rfl

theorem stored_of_unprepared {submission : Submission} (config : GateConfig)
    (unprepared : submission.prepared = none) :
    ∃ toolCall, submission.toolCall config = .ok toolCall := by
  have normalized := canonical_ok submission config
  generalize made : (submission.options.ingress.map fun ingress =>
    canonicalActionRequest (submission.normalizeInput config ingress)) = canonical at normalized
  have envelope : submission.actionEnvelope.preparedAction = none := by
    rw [Submission.actionEnvelope, unprepared]
    rfl
  have read : ∃ context,
      policyContextFromToolCall (submission.untraced config canonical) = .ok context := by
    cases came : submission.options.ingress with
    | none =>
        rw [came] at made
        subst made
        exact ⟨_, if_neg (by simp [Submission.untraced])⟩
    | some ingress =>
        rw [came] at made
        subst made
        have valid : isCanonicalPolicyContext
            (canonicalActionRequest (submission.normalizeInput config ingress)).policy = true :=
          isCanonicalPolicyContext_canonical submission.effective.input submission.options.auth
            (by simp [Submission.normalizeInput, unprepared])
        have validated : validatedFrozenCanonicalPolicyContext (submission.untraced config
            (some (canonicalActionRequest (submission.normalizeInput config ingress)))) =
            .ok (canonicalActionRequest (submission.normalizeInput config ingress)).policy := by
          unfold validatedFrozenCanonicalPolicyContext
          simp only [Submission.untraced, Option.map_some, valid, Bool.not_true,
            Bool.false_eq_true, if_false]
          simp [envelope]
        refine ⟨policyContextFromCanonicalFields
          (canonicalActionRequest (submission.normalizeInput config ingress)).policy
          submission.effective.input, ?_⟩
        have version : (submission.untraced config (some (canonicalActionRequest
            (submission.normalizeInput config ingress)))).canonicalActionRequestVersion =
              some canonicalActionRequestVersion := rfl
        rw [Option.map_some, policyContextFromToolCall, if_pos version]
        change Except.map _ (validatedFrozenCanonicalPolicyContext (submission.untraced config
          (some (canonicalActionRequest (submission.normalizeInput config ingress))))) = _
        rw [validated]
        rfl
  obtain ⟨context, read⟩ := read
  refine ⟨withheldFromStart { submission.untraced config canonical with
    decisionTrace := some (policyTraceMembers submission.approverResolution
      (submission.untraced config canonical) (submission.evaluate config canonical).provider ++
        submission.tracedEvidence config canonical) }, ?_⟩
  unfold Submission.toolCall
  rw [normalized]
  change (submission.traced config canonical).map withheldFromStart = _
  rw [Submission.traced, tracePolicyForToolCall, read]
  rfl

/-- Evaluating a stored record again, its input unedited, selects the rule and makes the
decision of its submission: with the provider that was in force, and with any policy. -/
theorem stored_evaluates_as_submitted {submission : Submission} {config : GateConfig}
    {toolCall : ToolCallRecord} (stored : submission.toolCall config = .ok toolCall) :
    ∃ canonical, submission.canonical config = .ok canonical ∧
      (policyContextFromToolCall toolCall).map
          (config.evaluatePolicyProvider submission.policy toolCall.toolName) =
        .ok (submission.evaluate config canonical).base ∧
      ∀ policy : PolicyFile,
        (policyContextFromToolCall toolCall).map (evaluatePolicyTrace policy toolCall.toolName) =
          .ok (evaluatePolicyTrace policy submission.effective.toolName
            (submission.context canonical)) := by
  obtain ⟨canonical, stores⟩ := storesContext stored
  refine ⟨canonical, stores.normalized, ?_, ?_⟩
  · rw [stores.context, stores.toolName]
    rfl
  · intro policy
    rw [stores.context, stores.toolName]
    rfl

end

/-- A payment that comes in over HTTP, with an amount that only its input has. -/
private def submittedPaymentRequest : Submission :=
  { request :=
      { toolName := "payments.send"
        input := [("amount", some (.num (JsonNumber.ofInt 5000)))]
        requestedBy := "agent"
        agentId := "agent"
        reason := "Refund."
        action := none
        metadata := some [("riskKind", some (.str "financial"))] }
    options :=
      { auth := none
        forceApproval := false
        idempotencyKey := none
        ingress := some (.http .localServer) }
    prepared := none
    toolCallId := "toolcall_1"
    now := { millis := 0, shown := epoch_shown }
    policy :=
      { version := JsonNumber.ofInt 1
        default := PolicyRule.plain .required
        tools := KeyedTable.empty }
    listContentExposures := fun _ => none
    approverResolution := .null }

private def submittingConfig : GateConfig :=
  { policyProvider := none
    workspaceId := none
    receiptSigningSecret := none
    localExecutionDisabled := false
    tools := fun _ => none
    approvalAuthorizationTtlMs := none }

theorem stored_evaluates_as_submitted_payment :
    ∃ toolCall, @Submission.toolCall (sampleRuntime []) submittedPaymentRequest submittingConfig =
        .ok toolCall ∧
      ∃ canonical, @Submission.canonical (sampleRuntime []) submittedPaymentRequest
          submittingConfig = .ok canonical ∧
        (@policyContextFromToolCall (sampleRuntime []) toolCall).map
            (@GateConfig.evaluatePolicyProvider (sampleRuntime []) submittingConfig
              submittedPaymentRequest.policy toolCall.toolName) =
          .ok (@Submission.evaluate (sampleRuntime []) submittedPaymentRequest submittingConfig
            canonical).base ∧
        ∀ policy : PolicyFile,
          (@policyContextFromToolCall (sampleRuntime []) toolCall).map
              (@evaluatePolicyTrace (sampleRuntime []) policy toolCall.toolName) =
            .ok (@evaluatePolicyTrace (sampleRuntime []) policy
              submittedPaymentRequest.effective.toolName
              (@Submission.context (sampleRuntime []) submittedPaymentRequest canonical)) := by
  let _ := sampleRuntime []
  obtain ⟨toolCall, stored⟩ :=
    @stored_of_unprepared (sampleRuntime []) submittedPaymentRequest submittingConfig rfl
  exact ⟨toolCall, stored, stored_evaluates_as_submitted stored⟩

end ActionProxy
