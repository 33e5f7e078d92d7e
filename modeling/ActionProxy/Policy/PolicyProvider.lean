import ActionProxy.Policy.ContentInfluenceGuard

/-!
The provider boundary of policy evaluation. Whatever a provider does, what comes
out is a checked trace of an identified provider or a denial with a failure code.
-/

namespace ActionProxy

open JsonText

inductive PolicyProviderFailureCode where
  | error | invalidOutput | unavailable | versionMissing
  deriving DecidableEq

def PolicyProviderFailureCode.text : PolicyProviderFailureCode → String
  | .error => "policy_provider_error"
  | .invalidOutput => "policy_provider_invalid_output"
  | .unavailable => "policy_provider_unavailable"
  | .versionMissing => "policy_provider_version_missing"

structure PolicyProviderDescriptor where
  evaluatorVersion : String
  policyDigest : String
  policyDigestAlgorithm : String
  policySchemaVersion : String
  policyVersion : String
  providerId : String
  providerVersion : String

/-- What is known of a provider whose descriptor may be missing or invalid. -/
structure PartialDescriptor where
  evaluatorVersion : Option String
  policyDigest : Option String
  policyDigestAlgorithm : Option String
  policySchemaVersion : Option String
  policyVersion : Option String
  providerId : String
  providerVersion : Option String

def PartialDescriptor.named (providerId : String) : PartialDescriptor :=
  { evaluatorVersion := none
    policyDigest := none
    policyDigestAlgorithm := none
    policySchemaVersion := none
    policyVersion := none
    providerId := providerId
    providerVersion := none }

def PolicyProviderDescriptor.known (descriptor : PolicyProviderDescriptor) : PartialDescriptor :=
  { evaluatorVersion := some descriptor.evaluatorVersion
    policyDigest := some descriptor.policyDigest
    policyDigestAlgorithm := some descriptor.policyDigestAlgorithm
    policySchemaVersion := some descriptor.policySchemaVersion
    policyVersion := some descriptor.policyVersion
    providerId := descriptor.providerId
    providerVersion := some descriptor.providerVersion }

/-- A provider; evaluating throws where nothing is returned. -/
structure DeterministicPolicyProvider where
  descriptor : PolicyProviderDescriptor
  evaluate : String → PolicyEvaluationContext → Option PolicyEvaluationTrace

inductive ProviderStatus where
  | failure | ok
  deriving DecidableEq

def ProviderStatus.text : ProviderStatus → String
  | .failure => "failure"
  | .ok => "ok"

structure PolicyProviderEvaluation where
  descriptor : PartialDescriptor
  failureCode : Option PolicyProviderFailureCode
  status : ProviderStatus
  trace : PolicyEvaluationTrace

/-! ### The built-in provider -/

section

variable [Runtime]

def currentPolicyVersionId (policyVersionHash : String) : String :=
  "policy_" ++ String.ofList (policyVersionHash.toList.take 16)

def createYamlPolicyProvider (policy : PolicyFile) (policyVersionHash policyVersionId : Option String) :
    DeterministicPolicyProvider :=
  let policyDigest := policyVersionHash.getD policy.versionHash
  { descriptor :=
      { evaluatorVersion := "actionproxy.policy-evaluator.v1"
        policyDigest := policyDigest
        policyDigestAlgorithm := "sha256"
        policySchemaVersion := String.ofList policy.version.text
        policyVersion := policyVersionId.getD (currentPolicyVersionId policyDigest)
        providerId := "actionproxy.yaml"
        providerVersion := "actionproxy.yaml-provider.v1" }
    evaluate := fun toolName context => some (evaluatePolicyTrace policy toolName context) }

end

/-! ### Checks -/

/-- `nonEmptyString(value) !== undefined`. -/
def notBlank (text : String) : Bool := (TextScan.content text).isSome

/-- `/^[a-f0-9]{64}$/u`. -/
def isSha256Hex (text : String) : Bool :=
  text.toList.length == 64 &&
    text.toList.all (fun char => char.isDigit || ('a' ≤ char && char ≤ 'f'))

def validDescriptor (descriptor : PolicyProviderDescriptor) : Bool :=
  notBlank descriptor.evaluatorVersion &&
  isSha256Hex descriptor.policyDigest &&
  descriptor.policyDigestAlgorithm == "sha256" &&
  notBlank descriptor.policySchemaVersion &&
  notBlank descriptor.policyVersion &&
  notBlank descriptor.providerId &&
  notBlank descriptor.providerVersion

def openWorldReadResultSourceValid (risk : Option String) (rule : PolicyRule) : Bool :=
  risk != some "open_world_read" ||
    match rule.resultSource with
    | some (.classified .publicUntrusted _) => true
    | _ => false

/-- `isPolicyRule`, for the checks that the types do not carry. -/
def isPolicyRule (rule : PolicyRule) : Bool :=
  rule.approvers.all (fun approvers =>
    approvers.requiredApprovals.all (fun count => decide (1 ≤ count))) &&
  rule.externalExecution.all (fun execution =>
    execution.grantTtlSeconds.all (fun seconds => decide (1 ≤ seconds))) &&
  rule.resultSource.all PolicyResultSource.accepted &&
  openWorldReadResultSourceValid rule.risk rule &&
  rule.influence.all (fun influence =>
    !influence.allowFrom.isEmpty && decide influence.allowFrom.Nodup)

/-- `validTrace`; an evaluation without a rule has no approval either. -/
def validTrace (trace : PolicyEvaluationTrace) : Bool :=
  match trace.evaluation.rule with
  | none => false
  | some rule =>
      trace.evaluation.decision == trace.decision &&
      trace.evaluation.approval.isSome &&
      decisionForApproval trace.evaluation.approval == trace.decision &&
      isPolicyRule rule &&
      openWorldReadResultSourceValid (some trace.evaluation.risk) rule &&
      some rule.approval == trace.evaluation.approval &&
      trace.matchedRule == trace.evaluation.matchedRule &&
      trace.matchType != .providerFailure

/-! ### Evaluation -/

def failureReason : PolicyProviderFailureCode → String
  | .unavailable => "Policy provider is unavailable; execution is denied."
  | .versionMissing => "Policy provider version identity is missing; execution is denied."
  | .invalidOutput => "Policy provider returned invalid output; execution is denied."
  | .error => "Policy provider evaluation failed; execution is denied."

def failedEvaluation (failureCode : PolicyProviderFailureCode) (descriptor : PartialDescriptor) :
    PolicyProviderEvaluation :=
  let reason := failureReason failureCode
  { descriptor := descriptor
    failureCode := some failureCode
    status := .failure
    trace :=
      { decision := .deny
        evaluation :=
          { decision := .deny
            approval := some .deny
            risk := "policy_provider_failure"
            reason := reason
            matchedRule := "__policy_provider_failure__"
            rule := some
              { PolicyRule.plain .deny with
                reason := some reason, risk := some "policy_provider_failure" } }
        fallbackPath := []
        matchType := .providerFailure
        matchedRule := "__policy_provider_failure__"
        ruleEvaluations := [] } }

def evaluatePolicyProvider (provider : Option DeterministicPolicyProvider) (toolName : String)
    (context : PolicyEvaluationContext) : PolicyProviderEvaluation :=
  match provider with
  | none => failedEvaluation .unavailable (PartialDescriptor.named "unavailable")
  | some provider =>
      if !validDescriptor provider.descriptor then
        failedEvaluation .versionMissing (PartialDescriptor.named
          (if notBlank provider.descriptor.providerId then provider.descriptor.providerId
          else "unknown"))
      else
        match provider.evaluate toolName context with
        | none => failedEvaluation .error provider.descriptor.known
        | some trace =>
            if !validTrace trace then failedEvaluation .invalidOutput provider.descriptor.known
            else
              { descriptor := provider.descriptor.known
                failureCode := none
                status := .ok
                trace := trace }

/-- What a successful evaluation says: a checked trace of an identified provider. -/
structure EvaluationSucceeded (evaluation : PolicyProviderEvaluation) : Prop where
  identified : ∃ descriptor, validDescriptor descriptor = true ∧
    evaluation.descriptor = descriptor.known
  noFailure : evaluation.failureCode = none
  valid : validTrace evaluation.trace = true

theorem evaluationSucceeded_of_ok {provider : Option DeterministicPolicyProvider}
    {toolName : String} {context : PolicyEvaluationContext}
    (ok : (evaluatePolicyProvider provider toolName context).status = .ok) :
    EvaluationSucceeded (evaluatePolicyProvider provider toolName context) := by
  cases provider with
  | none => cases ok
  | some provider =>
      rw [evaluatePolicyProvider] at ok ⊢
      split at ok
      · cases ok
      · rename_i identified
        rw [if_neg identified]
        simp only [Bool.not_eq_true', Bool.not_eq_false] at identified
        split at ok
        · cases ok
        · rename_i trace evaluated
          split at ok
          · cases ok
          · rename_i valid
            rw [if_neg valid]
            exact
              { identified := ⟨provider.descriptor, identified, rfl⟩
                noFailure := rfl
                valid := by simpa using valid }

/-! ### The decision in force -/

/-- `options.forceApproval` or a prepared action turns an allowance into an approval. -/
def forcedEvaluation (forceApproval : Bool) (evaluation : PolicyEvaluation) : PolicyEvaluation :=
  if forceApproval && evaluation.decision == .allow then
    { evaluation with
      decision := .requireApproval
      reason :=
        evaluation.reason ++ " This server-owned action contract requires human approval." }
  else evaluation

def providerEvaluationWithEffectiveDecision (provider : PolicyProviderEvaluation)
    (evaluation : PolicyEvaluation) : PolicyProviderEvaluation :=
  if provider.trace.evaluation.decision == evaluation.decision then provider
  else
    { provider with
      trace :=
        { provider.trace with decision := evaluation.decision, evaluation := evaluation } }

end ActionProxy
