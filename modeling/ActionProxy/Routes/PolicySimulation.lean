import ActionProxy.Services.Submission

/-!
The policy simulator: the trace it computes for a request under the active policy, and
the routes over which the same request is submitted.
-/

namespace ActionProxy

open JsonText

/-! ### Hypothetical influence -/

structure HypotheticalContentInfluence where
  observedIntegrities : List ContentIntegrity
  scopeVerified : Bool

/-- `hypotheticalContentInfluenceSchema`. -/
def HypotheticalContentInfluence.accepted (influence : HypotheticalContentInfluence) : Bool :=
  decide (influence.observedIntegrities.length ≤ contentIntegrityValues.length) &&
  decide influence.observedIntegrities.Nodup &&
  (influence.scopeVerified || influence.observedIntegrities.isEmpty)

/-- `effectiveContentInfluenceEvaluation`. -/
def effectiveContentInfluenceEvaluation (base : PolicyEvaluation)
    (influence : ContentInfluenceEvaluation) : PolicyEvaluation :=
  if influence.effectiveDecision = base.decision then base
  else
    { base with
      approval := influence.effectiveApproval
      decision := influence.effectiveDecision
      reason :=
        base.reason ++
          " Content observed in this verified influence scope requires a stricter decision."
      rule := base.rule.map fun rule =>
        { rule with approval := influence.effectiveApproval.getD rule.approval } }

/-- The simulator's copy of the gate's function. -/
def providerEvaluationWithEvaluation (provider : PolicyProviderEvaluation)
    (evaluation : PolicyEvaluation) : PolicyProviderEvaluation :=
  providerEvaluationWithEffectiveDecision provider evaluation

/-! ### The simulated trace -/

structure TracePolicyForSubmitInput where
  auth : Option AuthContext
  policy : PolicyFile
  policyVersionHash : Option String
  policyVersionId : Option String
  request : SubmitToolCallRequest
  workspaceId : String
  ingress : Option DeploymentEnvironment
  policyProvider : Option DeterministicPolicyProvider
  providerEvaluation : Option PolicyProviderEvaluation
  contentInfluence : Option HypotheticalContentInfluence
  now : String
  approverResolution : Json

section

variable [Runtime]

namespace TracePolicyForSubmitInput

def normalizeInput (input : TracePolicyForSubmitInput) (environment : DeploymentEnvironment) :
    NormalizeActionRequestInput :=
  { auth := input.auth
    idempotencyKey := none
    ingress := .http environment
    receivedAt := input.now
    request := input.request
    requestId := "policy_simulation"
    trustedCredentialReference := none
    trustedExecutionMode := none
    trustedOperation := none
    trustedPolicy := none
    trustedResources := none
    workspaceId := input.workspaceId }

def canonical (input : TracePolicyForSubmitInput) :
    Except String (Option CanonicalActionRequest) :=
  match input.ingress with
  | none => .ok none
  | some environment =>
      (normalizeActionRequest (input.normalizeInput environment)).map some

def baseEvaluation (input : TracePolicyForSubmitInput)
    (canonical : Option CanonicalActionRequest) : PolicyProviderEvaluation :=
  let context := canonical.elim (policyContextFromSubmit input.request)
    CanonicalActionRequest.policyContext
  input.providerEvaluation.getD
    (evaluatePolicyProvider
      (some (input.policyProvider.getD
        (createYamlPolicyProvider input.policy input.policyVersionHash input.policyVersionId)))
      input.request.toolName context)

/-- The hypothetical influence on the selected rule, when the rule has a guard. -/
def influence (input : TracePolicyForSubmitInput) (base : PolicyEvaluation) :
    Option (PolicyInfluenceGuard × ContentInfluenceEvaluation) := do
  let hypothetical ← input.contentInfluence
  let selected ← base.rule.bind PolicyRule.influence
  return (selected,
    evaluateContentInfluence base hypothetical.observedIntegrities hypothetical.scopeVerified)

def evaluation (input : TracePolicyForSubmitInput)
    (canonical : Option CanonicalActionRequest) : PolicyProviderEvaluation :=
  let base := input.baseEvaluation canonical
  providerEvaluationWithEvaluation base
    ((input.influence base.trace.evaluation).elim base.trace.evaluation
      (fun influence => effectiveContentInfluenceEvaluation base.trace.evaluation influence.2))

def evidence (input : TracePolicyForSubmitInput) (canonical : Option CanonicalActionRequest) :
    Option ContentInfluenceEvidenceV1 :=
  let base := input.baseEvaluation canonical
  (input.influence base.trace.evaluation).map fun influence =>
    buildContentInfluenceEvidence
      { evaluatedAt := input.now
        evaluation := influence.2
        exposureLookup := none
        influenceScopeId := none
        policyVersionHash :=
          (input.policyVersionHash <|> base.descriptor.policyDigest).getD input.policy.versionHash
        policyVersionId := input.policyVersionId
        selectedRule := influence.1 }

def members (input : TracePolicyForSubmitInput) (canonical : Option CanonicalActionRequest) :
    JsonObject :=
  let actor := actorForSubmit input.request input.auth
  let envelope := normalizeActionEnvelope actor input.auth input.request
  let evaluation := input.evaluation canonical
  let trace := evaluation.trace
  [("actionEnvelopeHash", some (.str envelope.envelopeHash)),
    ("canonicalActionRequestHash", canonical.map fun request => .str request.requestHash),
    ("canonicalActionRequestVersion", canonical.map fun _ => .str canonicalActionRequestVersion),
    ("canonicalDecisionInputHash", canonical.map fun request => .str request.decisionInputHash),
    ("canonicalPolicyContext", canonical.map fun request => .obj request.policy),
    ("canonicalRequestEvidence", canonical.map CanonicalActionRequest.evidence),
    ("contentInfluence", (input.evidence canonical).map ContentInfluenceEvidenceV1.json),
    ("decisionV1", canonical.map fun request =>
      (buildActionProxyDecision
        { decidedAt := input.now
          decisionInputHash := request.decisionInputHash
          providerEvaluation := evaluation
          requestId := "policy_simulation"
          tenantId := input.workspaceId }).json),
    ("approverResolution", some input.approverResolution),
    ("decision", some (.str trace.decision.text)),
    ("fallbackPath", some (.arr (trace.fallbackPath.map (fun matched => .str matched.text)))),
    ("inputHash", some (.str envelope.inputHash)),
    ("matchType", some (.str trace.matchType.text)),
    ("matchedRule", some (.str trace.matchedRule)),
    ("policyReason", some (.str trace.evaluation.reason)),
    ("policyRisk", some (.str trace.evaluation.risk)),
    ("policyVersionHash", input.policyVersionHash.map .str),
    ("policyVersionId", input.policyVersionId.map .str),
    ("ruleEvaluations", some (.arr (trace.ruleEvaluations.map PolicyTraceRuleEvaluation.json))),
    ("toolName", some (.str input.request.toolName))]

end TracePolicyForSubmitInput

def tracePolicyForSubmit (input : TracePolicyForSubmitInput) : Except String JsonObject :=
  input.canonical.map input.members

/-! ### The routes -/

/-- What `POST /v1/policy/simulate` traces of a body without a draft: the active policy. -/
def simulationInput (policy : PolicyFile) (environment : DeploymentEnvironment)
    (auth : AuthContext) (body : SubmitToolCallRequest)
    (hypothetical : Option HypotheticalContentInfluence) (now : String)
    (approverResolution : Json) : TracePolicyForSubmitInput :=
  { auth := some auth
    policy := policy
    policyVersionHash := some policy.versionHash
    policyVersionId := some (currentPolicyVersionId policy.versionHash)
    request := body
    workspaceId := auth.workspaceId
    ingress := some environment
    policyProvider := none
    providerEvaluation := none
    contentInfluence :=
      some (hypothetical.getD { observedIntegrities := [], scopeVerified := false })
    now := now
    approverResolution := approverResolution }

end

/-- `stripReservedQuickstartOrigin`. -/
def stripReservedQuickstartOrigin (body : SubmitToolCallRequest) : SubmitToolCallRequest :=
  { body with
    metadata := body.metadata.map
      (withoutMembers ["actionproxyQuickstartOrigin", "actionproxyQuickstartSessionId"]) }

/-- How a request is submitted: over HTTP, or by the stdio MCP adapter with the scope of
its session and, where its token is that of a quickstart, the quickstart's session. -/
inductive SubmitRoute where
  | http (environment : DeploymentEnvironment)
  | stdioMcp (environment : DeploymentEnvironment) (influenceScopeId : String)
      (quickstart : Option String)

def stdioMcpAdapterId (auth : AuthContext) : String :=
  "mcp-stdio:" ++ auth.clientId.getD auth.principalId

def stdioMcpAgentId (auth : AuthContext) : String :=
  "mcp:" ++ auth.clientId.getD auth.principalId

/-- `withVerifiedMcpQuickstartOrigin`. -/
def withVerifiedMcpQuickstartOrigin (body : SubmitToolCallRequest) (quickstart : Option String) :
    JsonObject :=
  (stripReservedQuickstartOrigin body).metadataGiven ++
    (quickstart.map fun sessionId => [
      ("actionproxyQuickstartOrigin", some (.str "secure_mcp_tunnel")),
      ("actionproxyQuickstartSessionId", some (.str sessionId))]).getD []

/-- The request the route hands to the gate. -/
def SubmitRoute.request (route : SubmitRoute) (auth : AuthContext)
    (body : SubmitToolCallRequest) : SubmitToolCallRequest :=
  match route with
  | .http _ => stripReservedQuickstartOrigin body
  | .stdioMcp _ _ quickstart =>
      let adapterId := stdioMcpAdapterId auth
      { toolName := body.toolName
        input := body.input
        requestedBy := auth.email.getD auth.principalId
        agentId := stdioMcpAgentId auth
        reason := body.reason
        action := some [
          ("context", body.action.bind (member? · "context")),
          ("executionMode", some (.str ActionExecutionMode.externalGrant.text)),
          ("operation", some (.obj [("name", some (.str body.toolName))])),
          ("protocol", some (.str "mcp")),
          ("resources", some (.arr [.obj [
            ("name", some (.str body.toolName)), ("type", some (.str "mcp.tool"))]])),
          ("source", some (.obj [
            ("id", some (.str adapterId)),
            ("name", some (.str "ActionProxy stdio MCP adapter")),
            ("type", some (.str "mcp"))]))]
        metadata := some (
          withoutMembers ["actionproxyExecution", "actionproxyMcp"]
              (withVerifiedMcpQuickstartOrigin body quickstart) ++ [
            ("actionproxyExecution", some (.str "external")),
            ("actionproxyMcp", some (.obj [
              ("adapterId", some (.str adapterId)),
              ("transport", some (.str "stdio"))]))]) }

def SubmitRoute.ingress (route : SubmitRoute) (auth : AuthContext) : CanonicalActionIngress :=
  match route with
  | .http environment => .http environment
  | .stdioMcp environment influenceScopeId _ =>
      .mcp
        { adapterId := stdioMcpAdapterId auth
          adapterSource := "auth.principal+mcp-stdio-adapter"
          adapterTrust := .derived
          agent :=
            { id := stdioMcpAgentId auth
              name := some "Authenticated stdio MCP adapter"
              source := "auth.principal+mcp-stdio-adapter"
              trust := .derived }
          environment := environment
          idempotencySource := "mcp.authenticated-adapter+jsonrpc-id"
          idempotencyTrust := .derived
          session := some
            { runId := none
              sessionId := some influenceScopeId
              source := "actionproxy.verified-mcp-influence-scope"
              trust := .derived } }

/-! ### The same request -/

/-- A submission of the body by the principal, under a policy, over any ingress. -/
structure SubmitsSame (auth : AuthContext) (body : SubmitToolCallRequest) (policy : PolicyFile)
    (submission : Submission) : Prop where
  toolName : submission.request.toolName = body.toolName
  input : submission.request.input = body.input
  principal : submission.options.auth = some auth
  ingress : submission.options.ingress.isSome = true
  unforced : submission.options.forceApproval = false
  unprepared : submission.prepared = none
  policy : submission.policy = policy

/-- A submission over one of the routes. -/
structure SubmittedOver (route : SubmitRoute) (auth : AuthContext) (body : SubmitToolCallRequest)
    (policy : PolicyFile) (submission : Submission) : Prop where
  request : submission.request = route.request auth body
  principal : submission.options.auth = some auth
  ingress : submission.options.ingress = some (route.ingress auth)
  unforced : submission.options.forceApproval = false
  unprepared : submission.prepared = none
  policy : submission.policy = policy

theorem SubmittedOver.same {route : SubmitRoute} {auth : AuthContext}
    {body : SubmitToolCallRequest} {policy : PolicyFile} {submission : Submission}
    (submitted : SubmittedOver route auth body policy submission) :
    SubmitsSame auth body policy submission where
  toolName := by
    rw [submitted.request]
    cases route <;> rfl
  input := by
    rw [submitted.request]
    cases route <;> rfl
  principal := submitted.principal
  ingress := by rw [submitted.ingress, Option.isSome_some]
  unforced := submitted.unforced
  unprepared := submitted.unprepared
  policy := submitted.policy

section

variable [Runtime]

namespace Submission

/-- The canonical request of a submission; normalizing it never fails. -/
def normalized (submission : Submission) (config : GateConfig) : Option CanonicalActionRequest :=
  submission.options.ingress.map fun ingress =>
    canonicalActionRequest (submission.normalizeInput config ingress)

/-- The influence input of the gate for a submission. -/
def gateInfluence (submission : Submission) (config : GateConfig) : InfluenceInput :=
  submission.influenceInput config (submission.normalized config)
    (submission.baseEvaluation config (submission.normalized config)).trace.evaluation

/-- What the gate observes in the scope of a submission. -/
def observed (submission : Submission) (config : GateConfig) : List ContentIntegrity :=
  observedIntegrities (exposureLookup submission.listContentExposures
    (submission.gateInfluence config))

def scopeVerified (submission : Submission) (config : GateConfig) : Bool :=
  (nonEmpty (submission.gateInfluence config).influenceScopeId).isSome

/-- The actual influence, as the simulator takes it: each source once. -/
def actualInfluence (submission : Submission) (config : GateConfig) :
    HypotheticalContentInfluence :=
  { observedIntegrities := (submission.observed config).dedup
    scopeVerified := submission.scopeVerified config }

end Submission

/-- The hypothetical influence is that of the submission's scope. -/
structure ActualInfluence (submission : Submission) (config : GateConfig)
    (hypothetical : HypotheticalContentInfluence) : Prop where
  verified : hypothetical.scopeVerified = submission.scopeVerified config
  observed : ∀ integrity, integrity ∈ hypothetical.observedIntegrities ↔
    integrity ∈ submission.observed config

theorem actualInfluence_actual (submission : Submission) (config : GateConfig) :
    ActualInfluence submission config (submission.actualInfluence config) where
  verified := rfl
  observed _ := List.mem_dedup

/-! ### The two assemblies -/

omit [Runtime] in
theorem normalizedObservedSources_congr {left right : List ContentIntegrity} {verified : Bool}
    (same : ∀ integrity, integrity ∈ left ↔ integrity ∈ right) :
    normalizedObservedSources left verified = normalizedObservedSources right verified := by
  have empty : left.isEmpty = right.isEmpty := by
    rw [Bool.eq_iff_iff, List.isEmpty_iff, List.isEmpty_iff, List.eq_nil_iff_forall_not_mem,
      List.eq_nil_iff_forall_not_mem]
    exact forall_congr' fun integrity => not_congr (same integrity)
  unfold normalizedObservedSources
  rw [empty]
  split
  · rfl
  · refine List.filter_congr fun source _ => ?_
    rw [Bool.eq_iff_iff, List.contains_iff_mem, List.contains_iff_mem]
    split
    · exact Iff.rfl
    · simp only [List.mem_map, same]

omit [Runtime] in
theorem evaluateContentInfluence_congr {base : PolicyEvaluation}
    {left right : List ContentIntegrity} {verified : Bool}
    (same : ∀ integrity, integrity ∈ left ↔ integrity ∈ right) :
    evaluateContentInfluence base left verified = evaluateContentInfluence base right verified := by
  unfold evaluateContentInfluence
  rw [normalizedObservedSources_congr same]

omit [Runtime] in
theorem effectiveContentInfluenceEvaluation_decision (base : PolicyEvaluation)
    (influence : ContentInfluenceEvaluation) :
    (effectiveContentInfluenceEvaluation base influence).decision =
      influence.effectiveDecision := by
  unfold effectiveContentInfluenceEvaluation
  split
  · rename_i same
    exact same.symm
  · rfl

omit [Runtime] in
theorem evaluatePolicyProvider_decision (provider : Option DeterministicPolicyProvider)
    (toolName : String) (context : PolicyEvaluationContext) :
    (evaluatePolicyProvider provider toolName context).trace.decision =
      (evaluatePolicyProvider provider toolName context).trace.evaluation.decision := by
  unfold evaluatePolicyProvider
  split
  · rfl
  split
  · rfl
  split
  · rfl
  split
  · rfl
  · rename_i valid
    simp only [Bool.not_eq_true', Bool.not_eq_false] at valid
    unfold validTrace at valid
    split at valid
    · cases valid
    · simp only [Bool.and_eq_true, beq_iff_eq] at valid
      exact valid.1.1.1.1.1.1.1.symm

omit [Runtime] in
/-- An evaluation that takes the place of the provider's has its decision and leaves the
rule that was matched. -/
theorem providerEvaluation_inForce (provider : Option DeterministicPolicyProvider)
    (toolName : String) (context : PolicyEvaluationContext) (evaluation : PolicyEvaluation) :
    (providerEvaluationWithEffectiveDecision (evaluatePolicyProvider provider toolName context)
        evaluation).trace.decision = evaluation.decision ∧
      (providerEvaluationWithEffectiveDecision (evaluatePolicyProvider provider toolName context)
        evaluation).trace.matchedRule =
          (evaluatePolicyProvider provider toolName context).trace.matchedRule := by
  refine ⟨?_, (effective_provider _ _).2.2.2⟩
  unfold providerEvaluationWithEffectiveDecision
  split
  · rename_i agree
    rw [evaluatePolicyProvider_decision]
    exact beq_iff_eq.mp agree
  · rfl

/-- The answer of the built-in provider to the request, which both assemblies start from. -/
def activeEvaluation (policy : PolicyFile) (auth : AuthContext) (body : SubmitToolCallRequest) :
    PolicyProviderEvaluation :=
  evaluatePolicyProvider
    (some (createYamlPolicyProvider policy (some policy.versionHash)
      (some (currentPolicyVersionId policy.versionHash))))
    body.toolName
    (policyContextFromCanonicalFields (canonicalPolicyContext body.input (some auth) none)
      body.input)

/-- The decision that content influence leaves of it. -/
def influencedDecision (base : PolicyEvaluation) (observed : List ContentIntegrity)
    (verified : Bool) : PolicyDecision :=
  if (base.rule.bind PolicyRule.influence).isSome then
    (evaluateContentInfluence base observed verified).effectiveDecision
  else base.decision

theorem simulated_evaluation {input : TracePolicyForSubmitInput}
    {hypothetical : HypotheticalContentInfluence}
    (given : input.contentInfluence = some hypothetical) (fresh : input.providerEvaluation = none)
    (canonical : Option CanonicalActionRequest) :
    (input.evaluation canonical).trace.decision =
        influencedDecision (input.baseEvaluation canonical).trace.evaluation
          hypothetical.observedIntegrities hypothetical.scopeVerified ∧
      (input.evaluation canonical).trace.matchedRule =
        (input.baseEvaluation canonical).trace.matchedRule := by
  unfold TracePolicyForSubmitInput.evaluation providerEvaluationWithEvaluation
  dsimp only
  generalize inForce : (input.influence (input.baseEvaluation canonical).trace.evaluation).elim
    (input.baseEvaluation canonical).trace.evaluation (fun influence =>
      effectiveContentInfluenceEvaluation (input.baseEvaluation canonical).trace.evaluation
        influence.2) = evaluation
  have decision : evaluation.decision = influencedDecision
      (input.baseEvaluation canonical).trace.evaluation hypothetical.observedIntegrities
      hypothetical.scopeVerified := by
    rw [← inForce, TracePolicyForSubmitInput.influence, given, influencedDecision]
    cases guarded : (input.baseEvaluation canonical).trace.evaluation.rule.bind
        PolicyRule.influence with
    | none => simp
    | some selected =>
        simp only [Option.bind_eq_bind, Option.bind_some, Option.pure_def, Option.elim_some,
          Option.isSome_some, if_true]
        exact effectiveContentInfluenceEvaluation_decision _ _
  have answered : ∃ provider context, input.baseEvaluation canonical =
      evaluatePolicyProvider provider input.request.toolName context := by
    unfold TracePolicyForSubmitInput.baseEvaluation
    rw [fresh, Option.getD_none]
    exact ⟨_, _, rfl⟩
  obtain ⟨provider, context, answered⟩ := answered
  rw [← decision, answered]
  exact providerEvaluation_inForce provider input.request.toolName context evaluation

theorem TracePolicyForSubmitInput.members_distinct (input : TracePolicyForSubmitInput)
    (canonical : Option CanonicalActionRequest) :
    ((input.members canonical).map Prod.fst).Nodup := by
  simp [TracePolicyForSubmitInput.members]

theorem TracePolicyForSubmitInput.member_decision (input : TracePolicyForSubmitInput)
    (canonical : Option CanonicalActionRequest) :
    member? (input.members canonical) "decision" =
      some (.str (input.evaluation canonical).trace.decision.text) :=
  member?_of_mem (input.members_distinct canonical)
    (.tail _ (.tail _ (.tail _ (.tail _ (.tail _ (.tail _ (.tail _ (.tail _ (.tail _
      (.head _))))))))))

theorem TracePolicyForSubmitInput.member_matchedRule (input : TracePolicyForSubmitInput)
    (canonical : Option CanonicalActionRequest) :
    member? (input.members canonical) "matchedRule" =
      some (.str (input.evaluation canonical).trace.matchedRule) :=
  member?_of_mem (input.members_distinct canonical)
    (.tail _ (.tail _ (.tail _ (.tail _ (.tail _ (.tail _ (.tail _ (.tail _ (.tail _ (.tail _
      (.tail _ (.tail _ (.tail _ (.head _))))))))))))))

theorem simulation_canonical (policy : PolicyFile) (environment : DeploymentEnvironment)
    (auth : AuthContext) (body : SubmitToolCallRequest)
    (hypothetical : Option HypotheticalContentInfluence) (now : String)
    (approverResolution : Json) :
    let input := simulationInput policy environment auth body hypothetical now approverResolution
    input.canonical = .ok (some (canonicalActionRequest (input.normalizeInput environment))) := by
  intro input
  change (normalizeActionRequest (input.normalizeInput environment)).map some = _
  rw [normalizeActionRequest_tenant]
  · rfl
  · intro principal same
    exact congrArg AuthContext.workspaceId (Option.some.inj same).symm

theorem simulation_baseEvaluation (policy : PolicyFile) (environment : DeploymentEnvironment)
    (auth : AuthContext) (body : SubmitToolCallRequest)
    (hypothetical : Option HypotheticalContentInfluence) (now : String)
    (approverResolution : Json) :
    let input := simulationInput policy environment auth body hypothetical now approverResolution
    input.baseEvaluation (some (canonicalActionRequest (input.normalizeInput environment))) =
      activeEvaluation policy auth body := by
  simp only [TracePolicyForSubmitInput.baseEvaluation, Option.elim_some,
    canonicalActionRequest_policyContext, TracePolicyForSubmitInput.normalizeInput,
    simulationInput, Option.getD_none, activeEvaluation]

theorem simulation_says (policy : PolicyFile) (environment : DeploymentEnvironment)
    (auth : AuthContext) (body : SubmitToolCallRequest)
    (hypothetical : HypotheticalContentInfluence) (now : String) (approverResolution : Json) :
    ∃ trace, tracePolicyForSubmit (simulationInput policy environment auth body
        (some hypothetical) now approverResolution) = .ok trace ∧
      member? trace "decision" = some (.str (influencedDecision
        (activeEvaluation policy auth body).trace.evaluation hypothetical.observedIntegrities
        hypothetical.scopeVerified).text) ∧
      member? trace "matchedRule" =
        some (.str (activeEvaluation policy auth body).trace.matchedRule) := by
  let input := simulationInput policy environment auth body (some hypothetical) now
    approverResolution
  let canonical := canonicalActionRequest (input.normalizeInput environment)
  have normalized : input.canonical = .ok (some canonical) := simulation_canonical ..
  have base : input.baseEvaluation (some canonical) = activeEvaluation policy auth body :=
    simulation_baseEvaluation ..
  have simulated := @simulated_evaluation _ input hypothetical rfl rfl (some canonical)
  rw [base] at simulated
  refine ⟨input.members (some canonical), ?_, ?_, ?_⟩
  · change input.canonical.map input.members = _
    rw [normalized]
    rfl
  · rw [input.member_decision, simulated.1]
  · rw [input.member_matchedRule, simulated.2]

theorem effectivePolicyEvaluation_decision
    (list : ListContentExposuresInput → Option ListContentExposuresResult)
    (input : InfluenceInput) :
    (effectivePolicyEvaluation input.baseEvaluation (evaluateInfluence list input)).decision =
      influencedDecision input.baseEvaluation (observedIntegrities (exposureLookup list input))
        (nonEmpty input.influenceScopeId).isSome := by
  unfold evaluateInfluence influencedDecision
  cases input.baseEvaluation.rule.bind PolicyRule.influence <;> rfl

theorem submitted_says {auth : AuthContext} {body : SubmitToolCallRequest} {policy : PolicyFile}
    {submission : Submission} {config : GateConfig} (yaml : config.policyProvider = none)
    (same : SubmitsSame auth body policy submission) :
    ∃ toolCall, submission.toolCall config = .ok toolCall ∧
      toolCall.decision = some (influencedDecision
        (activeEvaluation policy auth body).trace.evaluation (submission.observed config)
        (submission.scopeVerified config)) ∧
      toolCall.decisionTrace.bind (member? · "matchedRule") =
        some (.str (activeEvaluation policy auth body).trace.matchedRule) := by
  obtain ⟨toolCall, stored⟩ := stored_of_unprepared config same.unprepared
  obtain ⟨canonical, stores⟩ := storesContext stored
  have normalized : canonical = submission.normalized config :=
    (Except.ok.inj ((canonical_ok submission config).symm.trans stores.normalized)).symm
  have effective : submission.effective = submission.request := by
    rw [Submission.effective, same.unprepared]
    rfl
  obtain ⟨ingress, came⟩ := Option.isSome_iff_exists.mp same.ingress
  have base : submission.baseEvaluation config canonical = activeEvaluation policy auth body := by
    have context : submission.context canonical = policyContextFromCanonicalFields
        (canonicalPolicyContext body.input (some auth) none) body.input := by
      rw [normalized, Submission.normalized, came, Option.map_some]
      change (canonicalActionRequest (submission.normalizeInput config ingress)).policyContext = _
      rw [canonicalActionRequest_policyContext]
      simp only [Submission.normalizeInput, effective, same.input, same.principal, same.unprepared,
        Option.map_none]
    unfold Submission.baseEvaluation GateConfig.evaluatePolicyProvider activeEvaluation
    rw [context, yaml, same.policy, effective, same.toolName]
    rfl
  have unforced : submission.forced = false := by
    rw [Submission.forced, same.unforced, same.unprepared]
    rfl
  refine ⟨toolCall, stored, ?_, ?_⟩
  · have decided : (submission.evaluate config canonical).evaluation.decision =
        (effectivePolicyEvaluation (submission.gateInfluence config).baseEvaluation
          (evaluateInfluence submission.listContentExposures
            (submission.gateInfluence config))).decision := by
      simp only [Submission.evaluate, Submission.gateInfluence, Submission.influenceInput, unforced,
        forcedEvaluation, Bool.false_and, Bool.false_eq_true, if_false, ← normalized]
    rw [stores.decision, decided, effectivePolicyEvaluation_decision]
    change some (influencedDecision
      (submission.baseEvaluation config (submission.normalized config)).trace.evaluation
      (submission.observed config) (submission.scopeVerified config)) = _
    rw [← normalized, base]
  · rw [stores.matchedRule, SubmissionEvaluation.provider, (effective_provider _ _).2.2.2]
    change some (Json.str (submission.baseEvaluation config canonical).trace.matchedRule) = _
    rw [base]

/-- A simulation with the influence of a submission's scope shows the decision and the
matched rule that the submission stores. -/
theorem simulation_agrees_with_submission {config : GateConfig}
    (yaml : config.policyProvider = none) {auth : AuthContext} {body : SubmitToolCallRequest}
    {policy : PolicyFile} {submission : Submission}
    (same : SubmitsSame auth body policy submission)
    {hypothetical : HypotheticalContentInfluence}
    (actual : ActualInfluence submission config hypothetical)
    (environment : DeploymentEnvironment) (now : String) (approverResolution : Json) :
    ∃ trace toolCall,
      tracePolicyForSubmit (simulationInput policy environment auth body (some hypothetical) now
        approverResolution) = .ok trace ∧
      submission.toolCall config = .ok toolCall ∧
      (member? trace "decision").isSome = true ∧
      member? trace "decision" = toolCall.decision.map (fun decision => .str decision.text) ∧
      (member? trace "matchedRule").isSome = true ∧
      member? trace "matchedRule" = toolCall.decisionTrace.bind (member? · "matchedRule") := by
  obtain ⟨trace, simulated, decision, rule⟩ := simulation_says policy environment auth body
    hypothetical now approverResolution
  obtain ⟨toolCall, stored, storedDecision, storedRule⟩ := submitted_says yaml same
  have influenced : ∀ base : PolicyEvaluation,
      influencedDecision base hypothetical.observedIntegrities hypothetical.scopeVerified =
        influencedDecision base (submission.observed config)
          (submission.scopeVerified config) := by
    intro base
    unfold influencedDecision
    rw [evaluateContentInfluence_congr actual.observed, actual.verified]
  refine ⟨trace, toolCall, simulated, stored, ?_, ?_, ?_, ?_⟩
  · rw [decision, Option.isSome_some]
  · rw [decision, storedDecision, influenced, Option.map_some]
  · rw [rule, Option.isSome_some]
  · rw [rule, storedRule]

end

/-- A principal of the server's own workspace. -/
private def simulatingPrincipal : AuthContext :=
  { principalId := "user_1"
    principalType := .user
    displayName := "User"
    email := none
    groups := []
    scopes := ["policy:read", "tool_call:submit"]
    authProvider := .oidcJwt
    clientId := none
    workspaceId := "default" }

private def simulatedRequest : SubmitToolCallRequest :=
  { toolName := "payments.send"
    input := [("amount", some (.num (JsonNumber.ofInt 5000)))]
    requestedBy := "agent"
    agentId := "agent"
    reason := "Refund."
    action := none
    metadata := none }

private def simulatedPolicy : PolicyFile :=
  { version := JsonNumber.ofInt 1
    default := { PolicyRule.plain .never with
      influence := some { allowFrom := [none], otherwise := .required, narrows := by decide } }
    tools := KeyedTable.empty }

private def simulatingConfig : GateConfig :=
  { policyProvider := none
    workspaceId := none
    receiptSigningSecret := none
    localExecutionDisabled := false
    tools := fun _ => none
    approvalAuthorizationTtlMs := none }

private def httpSubmission : Submission :=
  { request := (SubmitRoute.http .localServer).request simulatingPrincipal simulatedRequest
    options :=
      { auth := some simulatingPrincipal
        forceApproval := false
        idempotencyKey := none
        ingress := some ((SubmitRoute.http .localServer).ingress simulatingPrincipal) }
    prepared := none
    toolCallId := "toolcall_1"
    now := { millis := 0, shown := epoch_shown }
    policy := simulatedPolicy
    listContentExposures := fun _ => none
    approverResolution := .null }

theorem simulation_agrees_with_http_submission :
    ∃ trace toolCall,
      @tracePolicyForSubmit (sampleRuntime []) (@simulationInput (sampleRuntime []) simulatedPolicy
        .localServer simulatingPrincipal simulatedRequest
        (some (@Submission.actualInfluence (sampleRuntime []) httpSubmission simulatingConfig))
        "1970-01-01T00:00:00.000Z" .null) = .ok trace ∧
      @Submission.toolCall (sampleRuntime []) httpSubmission simulatingConfig = .ok toolCall ∧
      (member? trace "decision").isSome = true ∧
      member? trace "decision" = toolCall.decision.map (fun decision => .str decision.text) ∧
      (member? trace "matchedRule").isSome = true ∧
      member? trace "matchedRule" = toolCall.decisionTrace.bind (member? · "matchedRule") := by
  let _ := sampleRuntime []
  have submitted : SubmittedOver (.http .localServer) simulatingPrincipal simulatedRequest
      simulatedPolicy httpSubmission :=
    { request := rfl
      principal := rfl
      ingress := rfl
      unforced := rfl
      unprepared := rfl
      policy := rfl }
  exact simulation_agrees_with_submission rfl submitted.same
    (actualInfluence_actual httpSubmission simulatingConfig) .localServer _ .null

end ActionProxy
