import ActionProxy.Contracts.Decision
import ActionProxy.Security.InfluenceScope
import ActionProxy.Security.NormalizedEnvelope
import ActionProxy.Services.Server

/-!
The policy revalidation a call makes before it executes anything. The stored
decision, the active policy and the frozen evidence of a tool call are compared in
one step; an audit event may follow when the evidence is stale.
-/

namespace ActionProxy

open JsonText Interleaving

/-! ### Result sources -/

def resultSourceForPolicyRule (rule : PolicyRule) : Option PolicyResultSource :=
  match rule.resultSource with
  | some .none => none
  | some source => some source
  | none => some (.classified .unknown none)

def frozenResultSource (rule : PolicyRule) (policy : PolicyFile) : Option PolicyResultSource :=
  match rule.resultSource with
  | some source => some source
  | none =>
      if policy.default.influence.isSome ||
          policy.tools.values.any (fun candidate => candidate.influence.isSome) then
        resultSourceForPolicyRule rule
      else none

/-- The result source frozen with a rule, as it is stored. -/
def frozenResultSourceJson (rule : PolicyRule) (policy : PolicyFile) : Option Json :=
  (frozenResultSource rule policy).map PolicyResultSource.json

/-! ### The services a gate is built of -/

/-- What the promise of an executor resolves to: a value that can be hashed as JSON, one
outside JSON by the text it is hashed as, or one that cannot be hashed. -/
inductive Returned where
  | value (result : Option Json)
  | foreign (text : String)
  | unhashable (error : GateError)

/-- What an executor does: it throws at once, gives something that is no promise, or a
promise that is rejected or resolved. What is thrown and is no error goes by the name
`unknown_execution_error`. -/
inductive Execution where
  | throws (error : GateError)
  | notAPromise
  | rejects (error : GateError)
  | resolves (returned : Returned)

structure GateConfig where
  policyProvider : Option DeterministicPolicyProvider
  workspaceId : Option String
  receiptSigningSecret : Option String
  localExecutionDisabled : Bool
  /-- What the executor of a tool does when it is the `n`-th to be invoked. -/
  tools : String → Option (Nat → JsonObject → Execution)
  approvalAuthorizationTtlMs : Option Int

section

variable [Runtime]

/-- `evaluatePolicyProvider`, with the policy in force. -/
def GateConfig.evaluatePolicyProvider (config : GateConfig) (policy : PolicyFile)
    (toolName : String) (context : PolicyEvaluationContext) : PolicyProviderEvaluation :=
  let policyVersionHash := policy.versionHash
  ActionProxy.evaluatePolicyProvider
    (some (config.policyProvider.getD (createYamlPolicyProvider policy (some policyVersionHash)
      (some (currentPolicyVersionId policyVersionHash)))))
    toolName context

/-! ### Content influence -/

/-- `hashJson` of a list of sources. -/
def hashSources (sources : List ContentInfluenceSource) : String :=
  hashJson (.arr (sources.map (fun source => .str (influenceSourceText source))))

/-- The stored evidence, when the policy in force would evaluate it as it was. -/
def revalidatedInfluence (policy : PolicyFile) (toolCall : ToolCallRecord)
    (baseEvaluation : PolicyEvaluation) : Option ContentInfluenceEvidenceV1 := do
  let selectedRule ← baseEvaluation.rule.bind PolicyRule.influence
  let stored ← toolCall.contentInfluence
  let _ ← validContentInfluenceBindingHash (some stored)
  let influenceScopeId := verifiedStoredInfluenceScopeId toolCall
  let evaluation :=
    evaluateContentInfluence baseEvaluation (stored.observedSources.filterMap id)
      influenceScopeId.isSome
  let policyVersionHash := policy.versionHash
  guard (stored.influenceScope.id = influenceScopeId)
  guard (stored.influenceScope.verified = influenceScopeId.isSome)
  guard (stored.policy.versionHash = policyVersionHash)
  guard (stored.policy.versionId = some (currentPolicyVersionId policyVersionHash))
  guard (hashJson stored.selectedRule.json = hashJson selectedRule.json)
  guard (stored.baseDecision = evaluation.baseDecision)
  guard (stored.effectiveDecision = evaluation.effectiveDecision)
  guard (hashSources stored.observedSources = hashSources evaluation.observedSources)
  return stored

/-- The evidence is neither expected nor given, or it is given and still the same. -/
def influenceBindingStands (toolCall : ToolCallRecord)
    (current : Option ContentInfluenceEvidenceV1) (influenceExpected : Bool) : Bool :=
  match toolCall.contentInfluence, current with
  | none, none => !influenceExpected
  | some stored, some current => sameContentInfluenceBinding stored current
  | _, _ => false

def staleInfluence : String :=
  "Content-influence evidence changed after authorization. Resubmit the action for a new decision."

def contentInfluenceBindingFailure (toolCall : ToolCallRecord)
    (current : Option ContentInfluenceEvidenceV1) (influenceExpected : Bool) :
    Gate (Option String) :=
  if influenceBindingStands toolCall current influenceExpected then pure none
  else do
    Gate.auditBestEffort "content.influence_binding_stale"
    pure (some staleInfluence)

/-! ### The comparison -/

/-- The descriptor of the provider is not the one the decision was made with. -/
def providerChanged (descriptor : PartialDescriptor) (decision : DecisionCandidate) : Bool :=
  let text (value : Option Json) : Option String := value.bind asString?
  descriptor.evaluatorVersion != text (decision.field "evaluatorVersion") ||
  descriptor.policyDigest != text (field? decision.policy "digest") ||
  descriptor.policySchemaVersion != text (field? decision.policy "schemaVersion") ||
  descriptor.policyVersion != text (field? decision.policy "version") ||
  some descriptor.providerId != text (field? decision.provider "id") ||
  descriptor.providerVersion != text (field? decision.provider "version")

def providerIdentityChanged : String :=
  "Final policy revalidation failed because the policy provider identity changed or became " ++
    "unavailable."

/-- The tool call as it is evaluated for an input. -/
def toolCallForInput (toolCall : ToolCallRecord) (input : JsonObject) : ToolCallRecord :=
  let actionEnvelope := actionEnvelopeForInput (actionEnvelopeForToolCall toolCall) input
  { toolCall with
    actionEnvelope := some actionEnvelope
    actionEnvelopeHash := some actionEnvelope.envelopeHash
    input := input
    inputHash := some actionEnvelope.inputHash }

/-- Why a comparison ends before the evidence is looked at. -/
inductive RevalidationStop where
  | throws (message : String)
  | fails (message : String)

/-- What `finalPolicyRevalidationFailure` compares before it first waits: the base
evaluation of the policy in force, or why there is none to go on with. -/
def revalidatedBaseEvaluation (config : GateConfig) (policy : PolicyFile)
    (toolCall : ToolCallRecord) (input : JsonObject) : Except RevalidationStop PolicyEvaluation :=
  let decision := validatedActionProxyDecisionForToolCall toolCall
  if (toolCall.decisionTrace.bind (fun trace => member? trace "decisionV1")).isSome &&
      decision.isNone then
    .error (.fails ("Final policy revalidation failed because the stored decision-v1 projection " ++
      "is invalid or inconsistent."))
  else if (nonEmpty toolCall.policyVersionHash).isSome &&
      toolCall.policyVersionHash != some policy.versionHash then
    .error (.fails
      "Final policy revalidation failed because the active policy changed after authorization.")
  else
    match policyContextFromToolCall (toolCallForInput toolCall input) with
    | .error message => .error (.throws message)
    | .ok context =>
        let provider := config.evaluatePolicyProvider policy toolCall.toolName context
        let baseEvaluation := provider.trace.evaluation
        if provider.status ≠ .ok then .error (.fails providerIdentityChanged)
        else if decision.any (providerChanged provider.descriptor) then
          .error (.fails providerIdentityChanged)
        else if authoritativeMcpToolCall toolCall &&
            (verifiedStoredInfluenceScopeId toolCall).isNone then
          .error (.fails ("Final policy revalidation failed because authoritative MCP scope or " ++
            "source evidence changed."))
        else if hashOrNull toolCall.resultSource !=
            hashOrNull (baseEvaluation.rule.bind (frozenResultSourceJson · policy)) then
          .error (.fails ("Final policy revalidation failed because the frozen result-source " ++
            "classification changed."))
        else .ok baseEvaluation

/-- What is left to check when the evidence stands. -/
def effectiveDecisionFailure (toolCall : ToolCallRecord) (evaluation : PolicyEvaluation) :
    Option String :=
  if evaluation.decision = .deny then
    some ("Final policy revalidation denied execution: " ++ evaluation.reason)
  else if toolCall.decision = some .allow ∧ evaluation.decision ≠ .allow then
    some ("Final policy revalidation now requires approval: " ++ evaluation.reason)
  else if toolCall.decision ≠ some .allow ∧ toolCall.decision ≠ some .requireApproval then
    some ("Final policy revalidation failed because the stored decision does not authorize " ++
      "execution.")
  else none

/-- A revalidation: the moment it compared, and its failure. -/
structure Revalidation where
  compared : PolicyMoment
  failure : Option String

/-- `finalPolicyRevalidationFailure`. -/
def finalPolicyRevalidation (config : GateConfig) (toolCall : ToolCallRecord)
    (input : JsonObject) : Gate Revalidation := do
  let compared ← Prog.read Server.policy
  match revalidatedBaseEvaluation config compared.policy toolCall input with
  | .error (.throws message) => .throw (.named "Error" message)
  | .error (.fails message) => pure { compared := compared, failure := some message }
  | .ok baseEvaluation =>
      let influence := revalidatedInfluence compared.policy toolCall baseEvaluation
      let stale ← contentInfluenceBindingFailure toolCall influence
        (baseEvaluation.rule.bind PolicyRule.influence).isSome
      let effective := effectivePolicyEvaluation baseEvaluation influence
      pure
        { compared := compared
          failure := stale <|> effectiveDecisionFailure toolCall effective }

/-! ### What a comparison says -/

end

end ActionProxy
