import ActionProxy.Policy.PolicyContext
import ActionProxy.Policy.PolicyProvider

/-!
Decision v1: the projection of a provider evaluation that is stored with a tool
call, and the validation of a stored projection before it authorizes anything.
Both sides hash identity material that they assemble on their own.
-/

namespace ActionProxy

open JsonText

def actionProxyDecisionVersion : String := "actionproxy.decision.v1"

/-! ### Identity material -/

/-- What the decision id is the hash of, as far as it is given. -/
structure DecisionIdentityInput where
  approvalRequirements : Option Json
  decisionInputHash : Option Json
  matchedPolicies : Option Json
  obligations : Option Json
  outcome : Option Json
  policyDigest : Option Json
  policyDigestAlgorithm : Option Json
  providerId : Option Json
  providerVersion : Option Json
  policySchemaVersion : Option Json
  providerStatus : Option Json
  policyVersion : Option Json
  reasonCodes : Option Json
  requestId : Option Json
  tenantId : Option Json
  version : Option Json

def DecisionIdentityInput.policyMembers (input : DecisionIdentityInput) : JsonObject :=
  [("digest", input.policyDigest),
    ("digestAlgorithm", input.policyDigestAlgorithm),
    ("providerId", input.providerId),
    ("providerVersion", input.providerVersion),
    ("schemaVersion", input.policySchemaVersion),
    ("status", input.providerStatus),
    ("version", input.policyVersion)]

def DecisionIdentityInput.members (input : DecisionIdentityInput) : JsonObject :=
  [("approvalRequirements", input.approvalRequirements),
    ("decisionInputHash", input.decisionInputHash),
    ("matchedPolicies", input.matchedPolicies),
    ("obligations", input.obligations),
    ("outcome", input.outcome),
    ("policy", some (.obj input.policyMembers)),
    ("reasonCodes", input.reasonCodes),
    ("requestId", input.requestId),
    ("tenantId", input.tenantId),
    ("version", input.version)]

def decisionIdentityMaterial (input : DecisionIdentityInput) : Json := .obj input.members

def decisionIdOf [Runtime] (input : DecisionIdentityInput) : String :=
  "decision_" ++ hashCanonicalJson (decisionIdentityMaterial input)

/-! ### The projection -/

def decisionObligations : PolicyDecision → List String
  | .deny => ["record_decision_evidence", "do_not_execute"]
  | .requireApproval =>
      ["record_decision_evidence", "require_human_approval", "revalidate_policy_before_execution"]
  | .allow => ["record_decision_evidence", "revalidate_policy_before_execution"]

def decisionReasonCodes (evaluation : PolicyProviderEvaluation) : List String :=
  match evaluation.failureCode with
  | some failureCode => ["policy_outcome_deny", failureCode.text]
  | none =>
      ("policy_outcome_" ++ evaluation.trace.decision.text) ::
        (match evaluation.trace.matchType with
          | .exact => ["policy_match_exact"]
          | .wildcard => ["policy_match_wildcard"]
          | .default => ["policy_match_default"]
          | .providerFailure => []) ++
        (if 1 < evaluation.trace.fallbackPath.length then ["policy_conditional_fallback"] else [])

/-- The requirements that differ between decisions. -/
structure ApprovalRequirements where
  eligibleGroups : List String
  eligibleUsers : List String
  required : Bool
  requiredApprovals : Int
  separationOfDuties : Bool

/-- `[...values].sort()`. -/
def sortedTexts (values : List String) : List String :=
  values.insertionSort (fun left right => codeUnitsLe left right = true)

def buildApprovalRequirements (rule : Option PolicyRule) (outcome : PolicyDecision) :
    ApprovalRequirements :=
  let approvers := rule.bind PolicyRule.approvers
  if outcome = .requireApproval then
    { eligibleGroups := sortedTexts ((approvers.bind PolicyApprovers.groups).getD [])
      eligibleUsers := sortedTexts ((approvers.bind PolicyApprovers.users).getD [])
      required := true
      requiredApprovals := max 1 ((approvers.bind PolicyApprovers.requiredApprovals).getD 1)
      separationOfDuties := (approvers.bind PolicyApprovers.separationOfDuties).getD false }
  else
    { eligibleGroups := []
      eligibleUsers := []
      required := false
      requiredApprovals := 0
      separationOfDuties := false }

def ApprovalRequirements.json (requirements : ApprovalRequirements) : Json :=
  .obj [
    ("eligibleGroups", some (textsJson requirements.eligibleGroups)),
    ("eligibleUsers", some (textsJson requirements.eligibleUsers)),
    ("expirationRequired", some (.bool false)),
    ("expiresAt", some .null),
    ("modificationBehavior", some (.str "revalidate_and_rebind")),
    ("rejectionBehavior", some (.str "terminal")),
    ("required", some (.bool requirements.required)),
    ("requiredApprovals", some (integerJson requirements.requiredApprovals)),
    ("separationOfDuties", some (.bool requirements.separationOfDuties))]

structure MatchedPolicy where
  matchType : PolicyTraceMatchType
  digestAlgorithm : Option String
  policyDigest : String
  policyVersion : String
  providerId : String
  ruleId : String

def MatchedPolicy.json (matched : MatchedPolicy) : Json :=
  .obj [
    ("matchType", some (.str matched.matchType.text)),
    ("digestAlgorithm", matched.digestAlgorithm.map .str),
    ("policyDigest", some (.str matched.policyDigest)),
    ("policyVersion", some (.str matched.policyVersion)),
    ("providerId", some (.str matched.providerId)),
    ("ruleId", some (.str matched.ruleId))]

structure ActionProxyDecisionV1 where
  approvalRequirements : ApprovalRequirements
  decidedAt : String
  decisionId : String
  decisionInputHash : String
  evaluatorVersion : Option String
  matchedPolicies : List MatchedPolicy
  obligations : List String
  outcome : PolicyDecision
  policyDigest : Option String
  policyDigestAlgorithm : Option String
  providerId : String
  providerStatus : ProviderStatus
  providerVersion : Option String
  policySchemaVersion : Option String
  policyVersion : Option String
  reasonCodes : List String
  requestId : String
  tenantId : String

def ActionProxyDecisionV1.providerJson (decision : ActionProxyDecisionV1) : Json :=
  .obj [
    ("id", some (.str decision.providerId)),
    ("status", some (.str decision.providerStatus.text)),
    ("version", nullable decision.providerVersion)]

def ActionProxyDecisionV1.policyJson (decision : ActionProxyDecisionV1) : Json :=
  .obj [
    ("digest", nullable decision.policyDigest),
    ("digestAlgorithm", nullable decision.policyDigestAlgorithm),
    ("provider", some decision.providerJson),
    ("schemaVersion", nullable decision.policySchemaVersion),
    ("version", nullable decision.policyVersion)]

/-- The record as it is stored. -/
def ActionProxyDecisionV1.json (decision : ActionProxyDecisionV1) : Json :=
  .obj [
    ("approvalRequirements", some decision.approvalRequirements.json),
    ("decidedAt", some (.str decision.decidedAt)),
    ("decisionId", some (.str decision.decisionId)),
    ("decisionInputHash", some (.str decision.decisionInputHash)),
    ("evaluatorVersion", nullable decision.evaluatorVersion),
    ("matchedPolicies", some (.arr (decision.matchedPolicies.map MatchedPolicy.json))),
    ("obligations", some (textsJson decision.obligations)),
    ("outcome", some (.str decision.outcome.text)),
    ("policy", some decision.policyJson),
    ("reasonCodes", some (textsJson decision.reasonCodes)),
    ("requestId", some (.str decision.requestId)),
    ("tenantId", some (.str decision.tenantId)),
    ("version", some (.str actionProxyDecisionVersion))]

/-- The identity material as the builder assembles it. -/
def ActionProxyDecisionV1.identity (decision : ActionProxyDecisionV1) : DecisionIdentityInput :=
  { approvalRequirements := some decision.approvalRequirements.json
    decisionInputHash := some (.str decision.decisionInputHash)
    matchedPolicies := some (.arr (decision.matchedPolicies.map MatchedPolicy.json))
    obligations := some (textsJson decision.obligations)
    outcome := some (.str decision.outcome.text)
    policyDigest := nullable decision.policyDigest
    policyDigestAlgorithm := nullable decision.policyDigestAlgorithm
    providerId := some (.str decision.providerId)
    providerVersion := nullable decision.providerVersion
    policySchemaVersion := nullable decision.policySchemaVersion
    providerStatus := some (.str decision.providerStatus.text)
    policyVersion := nullable decision.policyVersion
    reasonCodes := some (textsJson decision.reasonCodes)
    requestId := some (.str decision.requestId)
    tenantId := some (.str decision.tenantId)
    version := some (.str actionProxyDecisionVersion) }

structure BuildActionProxyDecisionInput where
  decidedAt : String
  decisionInputHash : String
  providerEvaluation : PolicyProviderEvaluation
  requestId : String
  tenantId : String

/-- The selected rule of a successful evaluation of an identified provider. -/
def matchedPolicies (evaluation : PolicyProviderEvaluation) : List MatchedPolicy :=
  match nonEmpty evaluation.descriptor.policyDigest, nonEmpty evaluation.descriptor.policyVersion with
  | some policyDigest, some policyVersion =>
      if evaluation.status = .ok then
        [{ matchType := evaluation.trace.matchType
           digestAlgorithm := evaluation.descriptor.policyDigestAlgorithm
           policyDigest := policyDigest
           policyVersion := policyVersion
           providerId := evaluation.descriptor.providerId
           ruleId := evaluation.trace.matchedRule }]
      else []
  | _, _ => []

section

variable [Runtime]

def buildActionProxyDecision (input : BuildActionProxyDecisionInput) : ActionProxyDecisionV1 :=
  let trace := input.providerEvaluation.trace
  let descriptor := input.providerEvaluation.descriptor
  let unidentified : ActionProxyDecisionV1 :=
    { approvalRequirements := buildApprovalRequirements trace.evaluation.rule trace.decision
      decidedAt := input.decidedAt
      decisionId := ""
      decisionInputHash := input.decisionInputHash
      evaluatorVersion := descriptor.evaluatorVersion
      matchedPolicies := matchedPolicies input.providerEvaluation
      obligations := decisionObligations trace.decision
      outcome := trace.decision
      policyDigest := descriptor.policyDigest
      policyDigestAlgorithm := descriptor.policyDigestAlgorithm
      providerId := descriptor.providerId
      providerStatus := input.providerEvaluation.status
      providerVersion := descriptor.providerVersion
      policySchemaVersion := descriptor.policySchemaVersion
      policyVersion := descriptor.policyVersion
      reasonCodes := decisionReasonCodes input.providerEvaluation
      requestId := input.requestId
      tenantId := input.tenantId }
  { unidentified with decisionId := decisionIdOf unidentified.identity }

end

/-! ### Validation -/

def isRecord (value : Json) : Bool :=
  match value with
  | .obj _ => true
  | _ => false

/-- `value === text`, with nothing for undefined. -/
def isText (value : Option Json) (expected : Option String) : Bool :=
  match value, expected with
  | none, none => true
  | some (.str text), some expected => text == expected
  | _, _ => false

def isNonEmptyString (value : Option Json) : Bool :=
  match value with
  | some (.str text) => notBlank text
  | _ => false

/-- `left === right` on two places of one document; objects are never identical. -/
def isIdentical (left right : Option Json) : Bool :=
  match left, right with
  | none, none => true
  | some .null, some .null => true
  | some (.bool left), some (.bool right) => left == right
  | some (.num left), some (.num right) => left == right
  | some (.str left), some (.str right) => left == right
  | _, _ => false

/-- The items of an array that pass a test, when all do. -/
def arrayOf (value : Option Json) (test : Json → Bool) : Option (List Json) :=
  match value with
  | some (.arr items) => if items.all test then some items else none
  | _ => none

def isString (value : Json) : Bool := (asString? value).isSome

def isDecisionObligation (value : Json) : Bool :=
  ["do_not_execute", "record_decision_evidence", "require_human_approval",
    "revalidate_policy_before_execution"].any (fun obligation =>
      isText (some value) (some obligation))

def isPolicyTraceMatchType (value : Option Json) : Bool :=
  ["default", "exact", "provider_failure", "wildcard"].any (fun matchType =>
    isText value (some matchType))

def decisionOutcome (value : Option Json) : Option PolicyDecision :=
  match value.bind asString? with
  | some "allow" => some .allow
  | some "deny" => some .deny
  | some "require_approval" => some .requireApproval
  | _ => none

/-- `Number.isInteger(value) && value === expected`, the quorum being at least one
where approval is required and zero elsewhere. -/
def isQuorum (value : Option Json) (approvalRequired : Bool) : Bool :=
  match value with
  | some (.num count) =>
      decide (0 ≤ count.exponent) &&
        (if approvalRequired then !count.less (JsonNumber.ofInt 1) else count == JsonNumber.zero)
  | _ => false

/-- A stored decision with the members the validation reads by name. -/
structure DecisionCandidate where
  value : Json
  policy : Json
  provider : Json
  approvalRequirements : Json

def DecisionCandidate.field (candidate : DecisionCandidate) (name : String) : Option Json :=
  field? candidate.value name

def decisionCandidate (value : Json) : Option DecisionCandidate := do
  let approvalRequirements ← (field? value "approvalRequirements").filter isRecord
  let policy ← (field? value "policy").filter isRecord
  let provider ← (field? policy "provider").filter isRecord
  return {
    value := value
    policy := policy
    provider := provider
    approvalRequirements := approvalRequirements }

section

variable [Runtime]

/-- The first block of checks: the kinds of the members. -/
def decisionWellFormed (candidate : DecisionCandidate) : Bool :=
  isText (candidate.field "version") (some actionProxyDecisionVersion) &&
  isNonEmptyString (candidate.field "decisionId") &&
  isNonEmptyString (candidate.field "decisionInputHash") &&
  isNonEmptyString (candidate.field "evaluatorVersion") &&
  isNonEmptyString (candidate.field "requestId") &&
  isNonEmptyString (candidate.field "tenantId") &&
  ((candidate.field "decidedAt").bind asString?).any (fun text => (dateParse text).isSome) &&
  (decisionOutcome (candidate.field "outcome")).isSome &&
  (arrayOf (candidate.field "matchedPolicies") (fun _ => true)).isSome &&
  (arrayOf (candidate.field "obligations") isDecisionObligation).isSome &&
  (arrayOf (candidate.field "reasonCodes") isString).isSome

end

/-- The second block: agreement with the tool call and the provider's identity. -/
def decisionBound (toolCall : ToolCallRecord) (candidate : DecisionCandidate) : Bool :=
  isText (candidate.field "requestId") (some toolCall.id) &&
  isText (candidate.field "tenantId") (some toolCall.workspace) &&
  isText (candidate.field "decisionInputHash") toolCall.canonicalDecisionInputHash &&
  isText (candidate.field "outcome") (toolCall.decision.map PolicyDecision.text) &&
  isText (field? candidate.provider "status") (some "ok") &&
  isText (field? candidate.policy "digest") toolCall.policyVersionHash &&
  isText (field? candidate.policy "version") toolCall.policyVersionId &&
  isText (field? candidate.policy "digestAlgorithm") (some "sha256") &&
  isNonEmptyString (field? candidate.provider "id") &&
  isNonEmptyString (field? candidate.provider "version") &&
  isNonEmptyString (field? candidate.policy "schemaVersion")

/-- The third block: what the outcome asks for. -/
def decisionConsistent (candidate : DecisionCandidate) : Bool :=
  (decisionOutcome (candidate.field "outcome")).any fun outcome =>
    let approvalRequired := decide (outcome = .requireApproval)
    let requirement := field? candidate.approvalRequirements
    (arrayOf (candidate.field "obligations") isString).any (fun obligations =>
      decide (obligations.filterMap asString? = decisionObligations outcome)) &&
    (arrayOf (candidate.field "reasonCodes") isString).any (fun reasonCodes =>
      reasonCodes.any (fun code => isText (some code) (some ("policy_outcome_" ++ outcome.text)))) &&
    isIdentical (requirement "required") (some (.bool approvalRequired)) &&
    isIdentical (requirement "expirationRequired") (some (.bool false)) &&
    isIdentical (requirement "expiresAt") (some .null) &&
    isText (requirement "modificationBehavior") (some "revalidate_and_rebind") &&
    isText (requirement "rejectionBehavior") (some "terminal") &&
    (arrayOf (requirement "eligibleGroups") isString).isSome &&
    (arrayOf (requirement "eligibleUsers") isString).isSome &&
    isQuorum (requirement "requiredApprovals") approvalRequired &&
    (booleanContext (requirement "separationOfDuties")).isSome

def matchedPolicyConsistent (candidate : DecisionCandidate) (matched : Json) : Bool :=
  isRecord matched &&
  isText (field? matched "digestAlgorithm") (some "sha256") &&
  isIdentical (field? matched "policyDigest") (field? candidate.policy "digest") &&
  isIdentical (field? matched "policyVersion") (field? candidate.policy "version") &&
  isIdentical (field? matched "providerId") (field? candidate.provider "id") &&
  isNonEmptyString (field? matched "ruleId") &&
  isPolicyTraceMatchType (field? matched "matchType")

/-- The identity material as the validation assembles it. -/
def DecisionCandidate.identity (candidate : DecisionCandidate) : DecisionIdentityInput :=
  { approvalRequirements := some candidate.approvalRequirements
    decisionInputHash := candidate.field "decisionInputHash"
    matchedPolicies := candidate.field "matchedPolicies"
    obligations := candidate.field "obligations"
    outcome := candidate.field "outcome"
    policyDigest := field? candidate.policy "digest"
    policyDigestAlgorithm := field? candidate.policy "digestAlgorithm"
    providerId := field? candidate.provider "id"
    providerVersion := field? candidate.provider "version"
    policySchemaVersion := field? candidate.policy "schemaVersion"
    providerStatus := field? candidate.provider "status"
    policyVersion := field? candidate.policy "version"
    reasonCodes := candidate.field "reasonCodes"
    requestId := candidate.field "requestId"
    tenantId := candidate.field "tenantId"
    version := candidate.field "version" }

section

variable [Runtime]

def decisionValid (toolCall : ToolCallRecord) (candidate : DecisionCandidate) : Bool :=
  decisionWellFormed candidate &&
  decisionBound toolCall candidate &&
  decisionConsistent candidate &&
  (arrayOf (candidate.field "matchedPolicies") (matchedPolicyConsistent candidate)).isSome &&
  isText (candidate.field "decisionId") (some (decisionIdOf candidate.identity))

/-- The decision stored with a tool call, when it is valid for it. -/
def validatedActionProxyDecisionForToolCall (toolCall : ToolCallRecord) :
    Option DecisionCandidate :=
  (toolCall.decisionTrace.bind (fun trace => member? trace "decisionV1")).bind fun value =>
    (decisionCandidate value).filter (decisionValid toolCall)

end

/-! ### What is built is accepted -/

/-- A stored decision as the validation reads it. -/
def ActionProxyDecisionV1.candidate (decision : ActionProxyDecisionV1) : DecisionCandidate :=
  { value := decision.json
    policy := decision.policyJson
    provider := decision.providerJson
    approvalRequirements := decision.approvalRequirements.json }

theorem decisionCandidate_json (decision : ActionProxyDecisionV1) :
    decisionCandidate decision.json = some decision.candidate := rfl

@[simp] theorem isText_str (text : String) (expected : Option String) :
    isText (some (.str text)) expected = true ↔ expected = some text := by
  cases expected with
  | none => simp [isText]
  | some other =>
      rw [isText, beq_iff_eq, Option.some_inj]
      exact eq_comm

@[simp] theorem isNonEmptyString_str (text : String) :
    isNonEmptyString (some (.str text)) = notBlank text := rfl

theorem arrayOf_texts (texts : List String) (test : Json → Bool)
    (each : ∀ text ∈ texts, test (.str text) = true) :
    arrayOf (some (textsJson texts)) test = some (texts.map .str) := by
  have all : (texts.map Json.str).all test = true := by
    rw [List.all_map]
    exact List.all_eq_true.mpr each
  show (if (texts.map Json.str).all test then some (texts.map Json.str) else none) = _
  rw [if_pos all]

theorem decisionOutcome_text (outcome : PolicyDecision) :
    decisionOutcome (some (.str outcome.text)) = some outcome := by
  cases outcome <;> rfl

section

variable [Runtime]

/-- What makes a decision valid for a tool call; its evaluator is only named. -/
structure DecisionSound (toolCall : ToolCallRecord) (decision : ActionProxyDecisionV1) :
    Prop where
  identified : decision.decisionId = decisionIdOf decision.identity
  evaluator : ∃ version, decision.evaluatorVersion = some version ∧ notBlank version = true
  dated : (dateParse decision.decidedAt).isSome = true
  inputHash : toolCall.canonicalDecisionInputHash = some decision.decisionInputHash
  inputHashNamed : notBlank decision.decisionInputHash = true
  request : toolCall.id = decision.requestId
  requestNamed : notBlank decision.requestId = true
  tenant : toolCall.workspace = decision.tenantId
  tenantNamed : notBlank decision.tenantId = true
  outcome : toolCall.decision = some decision.outcome
  succeeded : decision.providerStatus = .ok
  digest : ∃ digest, decision.policyDigest = some digest ∧ toolCall.policyVersionHash = some digest
  version : ∃ version, decision.policyVersion = some version ∧
    toolCall.policyVersionId = some version
  algorithm : decision.policyDigestAlgorithm = some "sha256"
  provider : notBlank decision.providerId = true
  providerVersion : ∃ version, decision.providerVersion = some version ∧ notBlank version = true
  schemaVersion : ∃ version, decision.policySchemaVersion = some version ∧ notBlank version = true
  obligations : decision.obligations = decisionObligations decision.outcome
  reasonCodes : "policy_outcome_" ++ decision.outcome.text ∈ decision.reasonCodes
  requirements : ∃ rule, decision.approvalRequirements =
    buildApprovalRequirements rule decision.outcome
  matched : ∀ matched ∈ decision.matchedPolicies,
    matched.digestAlgorithm = some "sha256" ∧ some matched.policyDigest = decision.policyDigest ∧
      some matched.policyVersion = decision.policyVersion ∧
      matched.providerId = decision.providerId ∧ notBlank matched.ruleId = true

theorem decisionIdOf_named (input : DecisionIdentityInput) : notBlank (decisionIdOf input) = true := by
  have listed : 'd' ∈ (decisionIdOf input).toList := by
    rw [decisionIdOf, String.toList_append]
    exact List.mem_append_left _ (by decide)
  exact TextScan.content_isSome listed rfl

omit [Runtime] in
theorem decisionObligations_allowed (outcome : PolicyDecision) :
    ∀ text ∈ decisionObligations outcome, isDecisionObligation (.str text) = true := by
  cases outcome <;> decide

omit [Runtime] in
theorem texts_asString (texts : List String) : (texts.map Json.str).filterMap asString? = texts := by
  rw [List.filterMap_map]
  exact List.filterMap_some

theorem DecisionSound.wellFormed {toolCall : ToolCallRecord} {decision : ActionProxyDecisionV1}
    (sound : DecisionSound toolCall decision) : decisionWellFormed decision.candidate = true := by
  obtain ⟨version, evaluator, evaluatorNamed⟩ := sound.evaluator
  have id : notBlank decision.decisionId = true := sound.identified ▸ decisionIdOf_named _
  have obligations := arrayOf_texts decision.obligations isDecisionObligation
    (sound.obligations ▸ decisionObligations_allowed decision.outcome)
  have codes := arrayOf_texts decision.reasonCodes isString (fun _ _ => rfl)
  have field : decision.candidate.field "evaluatorVersion" = some (.str version) := by
    show nullable decision.evaluatorVersion = _
    rw [evaluator]
    rfl
  simp only [decisionWellFormed, Bool.and_eq_true]
  refine ⟨⟨⟨⟨⟨⟨⟨⟨⟨⟨rfl, id⟩, sound.inputHashNamed⟩, ?_⟩, sound.requestNamed⟩, sound.tenantNamed⟩,
    sound.dated⟩, ?_⟩, ?_⟩, ?_⟩, ?_⟩
  · rw [field]
    exact evaluatorNamed
  · show (decisionOutcome (some (.str decision.outcome.text))).isSome = true
    rw [decisionOutcome_text]
    rfl
  · show (arrayOf (some (.arr (decision.matchedPolicies.map MatchedPolicy.json))) _).isSome = true
    simp [arrayOf]
  · show (arrayOf (some (textsJson decision.obligations)) isDecisionObligation).isSome = true
    rw [obligations]
    rfl
  · show (arrayOf (some (textsJson decision.reasonCodes)) isString).isSome = true
    rw [codes]
    rfl

omit [Runtime] in
theorem isText_nullable {value : Option String} {text : String} (given : value = some text)
    {expected : Option String} (same : expected = some text) :
    isText (nullable value) expected = true := by
  rw [given]
  exact (isText_str text expected).mpr same

theorem DecisionSound.bound {toolCall : ToolCallRecord} {decision : ActionProxyDecisionV1}
    (sound : DecisionSound toolCall decision) : decisionBound toolCall decision.candidate = true := by
  obtain ⟨digest, given, storedDigest⟩ := sound.digest
  obtain ⟨version, givenVersion, storedVersion⟩ := sound.version
  obtain ⟨providerVersion, givenProvider, providerNamed⟩ := sound.providerVersion
  obtain ⟨schemaVersion, givenSchema, schemaNamed⟩ := sound.schemaVersion
  simp only [decisionBound, Bool.and_eq_true]
  refine ⟨⟨⟨⟨⟨⟨⟨⟨⟨⟨?_, ?_⟩, ?_⟩, ?_⟩, ?_⟩, ?_⟩, ?_⟩, ?_⟩, sound.provider⟩, ?_⟩, ?_⟩
  · exact (isText_str decision.requestId _).mpr (congrArg some sound.request)
  · exact (isText_str decision.tenantId _).mpr (congrArg some sound.tenant)
  · exact (isText_str decision.decisionInputHash _).mpr sound.inputHash
  · apply (isText_str decision.outcome.text _).mpr
    rw [sound.outcome]
    rfl
  · apply (isText_str decision.providerStatus.text _).mpr
    rw [sound.succeeded]
    rfl
  · exact isText_nullable given storedDigest
  · exact isText_nullable givenVersion storedVersion
  · exact isText_nullable sound.algorithm rfl
  · show isNonEmptyString (nullable decision.providerVersion) = true
    rw [givenProvider]
    exact providerNamed
  · show isNonEmptyString (nullable decision.policySchemaVersion) = true
    rw [givenSchema]
    exact schemaNamed

omit [Runtime] in
theorem isQuorum_built (rule : Option PolicyRule) (outcome : PolicyDecision) :
    isQuorum (some (integerJson (buildApprovalRequirements rule outcome).requiredApprovals))
      (decide (outcome = .requireApproval)) = true := by
  have whole := (JsonNumber.ofInt_scaled
    (buildApprovalRequirements rule outcome).requiredApprovals).1
  rw [integerJson, isQuorum, decide_eq_true whole, Bool.true_and]
  by_cases required : outcome = .requireApproval
  · rw [decide_eq_true required, if_pos rfl, JsonNumber.ofInt_less, buildApprovalRequirements,
      if_pos required]
    simp only [Bool.not_eq_true', decide_eq_false_iff_not, not_lt]
    exact le_max_left _ _
  · rw [decide_eq_false required, buildApprovalRequirements, if_neg required]
    rfl

omit [Runtime] in
theorem buildApprovalRequirements_required (rule : Option PolicyRule) (outcome : PolicyDecision) :
    (buildApprovalRequirements rule outcome).required = decide (outcome = .requireApproval) := by
  cases outcome <;> rfl

theorem DecisionSound.consistent {toolCall : ToolCallRecord} {decision : ActionProxyDecisionV1}
    (sound : DecisionSound toolCall decision) : decisionConsistent decision.candidate = true := by
  obtain ⟨rule, requirements⟩ := sound.requirements
  have outcome : decisionOutcome (decision.candidate.field "outcome") = some decision.outcome :=
    decisionOutcome_text decision.outcome
  have obligations : arrayOf (decision.candidate.field "obligations") isString =
      some (decision.obligations.map .str) := arrayOf_texts _ _ (fun _ _ => rfl)
  have codes : arrayOf (decision.candidate.field "reasonCodes") isString =
      some (decision.reasonCodes.map .str) := arrayOf_texts _ _ (fun _ _ => rfl)
  have groups := arrayOf_texts decision.approvalRequirements.eligibleGroups isString
    (fun _ _ => rfl)
  have users := arrayOf_texts decision.approvalRequirements.eligibleUsers isString (fun _ _ => rfl)
  have quorum := isQuorum_built rule decision.outcome
  rw [← requirements] at quorum
  rw [decisionConsistent, outcome, Option.any_some, obligations, codes]
  simp only [Option.any_some, Bool.and_eq_true]
  refine ⟨⟨⟨⟨⟨⟨⟨⟨⟨⟨?_, ?_⟩, ?_⟩, rfl⟩, rfl⟩, rfl⟩, rfl⟩, ?_⟩, ?_⟩, quorum⟩, rfl⟩
  · rw [texts_asString]
    exact decide_eq_true sound.obligations
  · rw [List.any_map, List.any_eq_true]
    exact ⟨_, sound.reasonCodes, (isText_str _ _).mpr rfl⟩
  · show (decision.approvalRequirements.required == decide (decision.outcome = .requireApproval)) =
      true
    rw [requirements, buildApprovalRequirements_required, beq_self_eq_true]
  · show (arrayOf (some (textsJson decision.approvalRequirements.eligibleGroups)) isString).isSome =
      true
    rw [groups]
    rfl
  · show (arrayOf (some (textsJson decision.approvalRequirements.eligibleUsers)) isString).isSome =
      true
    rw [users]
    rfl

omit [Runtime] in
theorem isIdentical_nullable {text : String} {value : Option String} (same : some text = value) :
    isIdentical (some (.str text)) (nullable value) = true := by
  rw [← same]
  exact beq_self_eq_true text

theorem DecisionSound.matches {toolCall : ToolCallRecord} {decision : ActionProxyDecisionV1}
    (sound : DecisionSound toolCall decision) :
    (arrayOf (decision.candidate.field "matchedPolicies")
      (matchedPolicyConsistent decision.candidate)).isSome = true := by
  have all : (decision.matchedPolicies.map MatchedPolicy.json).all
      (matchedPolicyConsistent decision.candidate) = true := by
    rw [List.all_map, List.all_eq_true]
    intro matched listed
    obtain ⟨matchType, digestAlgorithm, policyDigest, policyVersion, providerId, ruleId⟩ := matched
    obtain ⟨algorithm, digest, version, provider, rule⟩ := sound.matched _ listed
    simp only at algorithm digest version provider rule
    subst algorithm
    simp only [Function.comp, matchedPolicyConsistent, Bool.and_eq_true]
    refine ⟨⟨⟨⟨⟨⟨rfl, rfl⟩, ?_⟩, ?_⟩, ?_⟩, rule⟩, ?_⟩
    · exact isIdentical_nullable digest
    · exact isIdentical_nullable version
    · exact beq_iff_eq.mpr provider
    · cases matchType <;> rfl
  show (if (decision.matchedPolicies.map MatchedPolicy.json).all
    (matchedPolicyConsistent decision.candidate) then some _ else none).isSome = true
  rw [if_pos all]
  rfl

theorem DecisionSound.valid {toolCall : ToolCallRecord} {decision : ActionProxyDecisionV1}
    (sound : DecisionSound toolCall decision) : decisionValid toolCall decision.candidate = true := by
  rw [decisionValid, sound.wellFormed, sound.bound, sound.consistent, sound.matches]
  exact (isText_str decision.decisionId _).mpr (congrArg some sound.identified.symm)

/-! ### Submitted decisions -/

/-- `tracePolicyForToolCall`, for the decision it records with a canonical tool call. -/
def decisionForToolCall (toolCall : ToolCallRecord) (evaluation : PolicyProviderEvaluation) :
    Option ActionProxyDecisionV1 :=
  if toolCall.canonicalActionRequestVersion = some canonicalActionRequestVersion then
    (nonEmpty toolCall.canonicalDecisionInputHash).map (fun decisionInputHash =>
      buildActionProxyDecision
        { decidedAt := toolCall.createdAt
          decisionInputHash := decisionInputHash
          providerEvaluation := evaluation
          requestId := toolCall.id
          tenantId := toolCall.workspace })
  else none

omit [Runtime] in
def storedDecision (toolCall : ToolCallRecord) : Option Json :=
  toolCall.decisionTrace.bind (fun trace => member? trace "decisionV1")

/-- A canonical tool call as the gate stores it: the provider's evaluation, narrowed
by content influence and forced to an approval or not, is the decision in force. -/
structure DecisionSubmitted (provider : Option DeterministicPolicyProvider)
    (context : PolicyEvaluationContext) (influence : Option ContentInfluenceEvidenceV1)
    (forceApproval : Bool) (toolCall : ToolCallRecord) : Prop where
  decision : toolCall.decision = some (forcedEvaluation forceApproval (effectivePolicyEvaluation
    (evaluatePolicyProvider provider toolCall.toolName context).trace.evaluation influence)).decision
  stored : storedDecision toolCall = (decisionForToolCall toolCall
    (providerEvaluationWithEffectiveDecision
      (evaluatePolicyProvider provider toolCall.toolName context)
      (forcedEvaluation forceApproval (effectivePolicyEvaluation
        (evaluatePolicyProvider provider toolCall.toolName context).trace.evaluation
        influence)))).map ActionProxyDecisionV1.json
  canonical : toolCall.canonicalActionRequestVersion = some canonicalActionRequestVersion
  inputHash : toolCall.canonicalDecisionInputHash.any notBlank = true
  created : (dateParse toolCall.createdAt).isSome = true

/-- The provider evaluates the policy version that the tool call records, and no
name that goes into the decision is blank. -/
structure ProviderActive (evaluation : PolicyProviderEvaluation) (toolCall : ToolCallRecord) :
    Prop where
  digest : toolCall.policyVersionHash = evaluation.descriptor.policyDigest
  version : toolCall.policyVersionId = evaluation.descriptor.policyVersion
  request : notBlank toolCall.id = true
  tenant : notBlank toolCall.workspace = true
  rule : notBlank evaluation.trace.matchedRule = true

omit [Runtime] in
theorem effective_decision {base : PolicyProviderEvaluation} (valid : validTrace base.trace = true)
    (evaluation : PolicyEvaluation) :
    (providerEvaluationWithEffectiveDecision base evaluation).trace.decision =
      evaluation.decision := by
  unfold validTrace at valid
  split at valid
  · cases valid
  · simp only [Bool.and_eq_true, beq_iff_eq] at valid
    obtain ⟨⟨⟨⟨⟨⟨⟨same, _⟩, _⟩, _⟩, _⟩, _⟩, _⟩, _⟩ := valid
    rw [providerEvaluationWithEffectiveDecision]
    split
    · rename_i agree
      rw [← same]
      exact beq_iff_eq.mp agree
    · rfl

omit [Runtime] in
/-- An effective decision changes neither the provider nor the rule that was matched. -/
theorem effective_provider (base : PolicyProviderEvaluation) (evaluation : PolicyEvaluation) :
    (providerEvaluationWithEffectiveDecision base evaluation).descriptor = base.descriptor ∧
      (providerEvaluationWithEffectiveDecision base evaluation).status = base.status ∧
      (providerEvaluationWithEffectiveDecision base evaluation).failureCode = base.failureCode ∧
      (providerEvaluationWithEffectiveDecision base evaluation).trace.matchedRule =
        base.trace.matchedRule := by
  rw [providerEvaluationWithEffectiveDecision]
  split <;> exact ⟨rfl, rfl, rfl, rfl⟩

omit [Runtime] in
theorem nonEmpty_of_notBlank {text : String} (named : notBlank text = true) :
    nonEmpty (some text) = some text := by
  have present : text ≠ "" := by
    rintro rfl
    cases named
  simp [nonEmpty, present]

omit [Runtime] in
theorem nonEmpty_of_hex {text : String} (hex : isSha256Hex text = true) :
    nonEmpty (some text) = some text := by
  have present : text ≠ "" := by
    rintro rfl
    cases hex
  simp [nonEmpty, present]

omit [Runtime] in
theorem reasonCode_of_succeeded {evaluation : PolicyProviderEvaluation}
    (noFailure : evaluation.failureCode = none) :
    "policy_outcome_" ++ evaluation.trace.decision.text ∈ decisionReasonCodes evaluation := by
  rw [decisionReasonCodes, noFailure]
  exact List.mem_cons_self

omit [Runtime] in
theorem matchedPolicies_of_succeeded {evaluation : PolicyProviderEvaluation}
    {descriptor : PolicyProviderDescriptor} (valid : validDescriptor descriptor = true)
    (known : evaluation.descriptor = descriptor.known) (ok : evaluation.status = .ok) :
    matchedPolicies evaluation =
      [{ matchType := evaluation.trace.matchType
         digestAlgorithm := some descriptor.policyDigestAlgorithm
         policyDigest := descriptor.policyDigest
         policyVersion := descriptor.policyVersion
         providerId := descriptor.providerId
         ruleId := evaluation.trace.matchedRule }] := by
  simp only [validDescriptor, Bool.and_eq_true] at valid
  obtain ⟨⟨⟨⟨⟨⟨_, hex⟩, _⟩, _⟩, version⟩, _⟩, _⟩ := valid
  simp only [matchedPolicies, known, PolicyProviderDescriptor.known, nonEmpty_of_hex hex,
    nonEmpty_of_notBlank version, ok, if_true]

/-- The decision of a successful evaluation is sound for the tool call it is stored with. -/
theorem DecisionSubmitted.sound {provider : Option DeterministicPolicyProvider}
    {context : PolicyEvaluationContext} {influence : Option ContentInfluenceEvidenceV1}
    {forceApproval : Bool} {toolCall : ToolCallRecord}
    (submitted : DecisionSubmitted provider context influence forceApproval toolCall)
    (ok : (evaluatePolicyProvider provider toolCall.toolName context).status = .ok)
    (active : ProviderActive (evaluatePolicyProvider provider toolCall.toolName context) toolCall) :
    ∃ decision, storedDecision toolCall = some decision.json ∧ DecisionSound toolCall decision := by
  obtain ⟨⟨descriptor, identified, known⟩, noFailure, valid⟩ := evaluationSucceeded_of_ok ok
  obtain ⟨decided, stored, canonical, inputHash, created⟩ := submitted
  obtain ⟨digest, version, request, tenant, rule⟩ := active
  generalize evaluatePolicyProvider provider toolCall.toolName context = base at *
  generalize forcedEvaluation forceApproval
    (effectivePolicyEvaluation base.trace.evaluation influence) = evaluation at *
  obtain ⟨sameDescriptor, sameStatus, sameFailure, sameRule⟩ := effective_provider base evaluation
  have outcome := effective_decision valid evaluation
  generalize providerEvaluationWithEffectiveDecision base evaluation = final at *
  rw [known] at sameDescriptor digest version
  rw [ok] at sameStatus
  rw [noFailure] at sameFailure
  rw [← sameRule] at rule
  obtain ⟨hash, given, named⟩ := (Option.any_eq_true _ _).mp inputHash
  have matched := matchedPolicies_of_succeeded identified sameDescriptor sameStatus
  rw [decisionForToolCall, if_pos canonical, given, nonEmpty_of_notBlank named, Option.map_some,
    Option.map_some] at stored
  simp only [validDescriptor, Bool.and_eq_true, beq_iff_eq] at identified
  obtain ⟨⟨⟨⟨⟨⟨evaluator, hex⟩, algorithm⟩, schema⟩, versioned⟩, providerNamed⟩, providerVersion⟩ :=
    identified
  refine ⟨_, stored, ?_⟩
  constructor
  case identified => rfl
  case evaluator =>
    exact ⟨descriptor.evaluatorVersion, by rw [buildActionProxyDecision, sameDescriptor]; rfl,
      evaluator⟩
  case dated => exact created
  case inputHash => exact given
  case inputHashNamed => exact named
  case request => rfl
  case requestNamed => exact request
  case tenant => rfl
  case tenantNamed => exact tenant
  case outcome =>
    rw [decided, ← outcome]
    rfl
  case succeeded => exact sameStatus
  case digest =>
    exact ⟨descriptor.policyDigest, by rw [buildActionProxyDecision, sameDescriptor]; rfl, digest⟩
  case version =>
    exact ⟨descriptor.policyVersion, by rw [buildActionProxyDecision, sameDescriptor]; rfl, version⟩
  case algorithm =>
    rw [buildActionProxyDecision, sameDescriptor]
    exact congrArg some algorithm
  case provider =>
    rw [buildActionProxyDecision, sameDescriptor]
    exact providerNamed
  case providerVersion =>
    exact ⟨descriptor.providerVersion, by rw [buildActionProxyDecision, sameDescriptor]; rfl,
      providerVersion⟩
  case schemaVersion =>
    exact ⟨descriptor.policySchemaVersion, by rw [buildActionProxyDecision, sameDescriptor]; rfl,
      schema⟩
  case obligations => rfl
  case reasonCodes => exact reasonCode_of_succeeded sameFailure
  case requirements => exact ⟨_, rfl⟩
  case matched =>
    intro policy listed
    rw [buildActionProxyDecision, sameDescriptor] at *
    simp only [matched, List.mem_singleton] at listed
    subst listed
    exact ⟨congrArg some algorithm, rfl, rfl, rfl, rule⟩

theorem validated_of_sound {toolCall : ToolCallRecord} {decision : ActionProxyDecisionV1}
    (stored : storedDecision toolCall = some decision.json)
    (sound : DecisionSound toolCall decision) :
    validatedActionProxyDecisionForToolCall toolCall = some decision.candidate := by
  rw [validatedActionProxyDecisionForToolCall, ← storedDecision, stored, Option.bind_some,
    decisionCandidate_json, Option.filter_some, if_pos sound.valid]

omit [Runtime] in
theorem ProviderStatus.text_injective {left right : ProviderStatus}
    (same : left.text = right.text) : left = right := by
  cases left <;> cases right <;> first | rfl | exact absurd same (by decide)

theorem active_of_valid {toolCall : ToolCallRecord} {evaluation : PolicyProviderEvaluation}
    {descriptor : PolicyProviderDescriptor} (identified : validDescriptor descriptor = true)
    (known : evaluation.descriptor = descriptor.known) (ok : evaluation.status = .ok)
    {decidedAt decisionInputHash : String}
    (valid : decisionValid toolCall (buildActionProxyDecision
      { decidedAt := decidedAt
        decisionInputHash := decisionInputHash
        providerEvaluation := evaluation
        requestId := toolCall.id
        tenantId := toolCall.workspace }).candidate = true) :
    ProviderActive evaluation toolCall := by
  have matched := matchedPolicies_of_succeeded identified known ok
  generalize built : buildActionProxyDecision _ = decision at valid
  have digest : decision.policyDigest = some descriptor.policyDigest := by
    rw [← built, buildActionProxyDecision, known]
    rfl
  have version : decision.policyVersion = some descriptor.policyVersion := by
    rw [← built, buildActionProxyDecision, known]
    rfl
  have policies : decision.matchedPolicies = matchedPolicies evaluation := by
    rw [← built, buildActionProxyDecision]
  have request : decision.requestId = toolCall.id := by rw [← built, buildActionProxyDecision]
  have tenant : decision.tenantId = toolCall.workspace := by rw [← built, buildActionProxyDecision]
  simp only [decisionValid, Bool.and_eq_true] at valid
  obtain ⟨⟨⟨⟨wellFormed, bound⟩, _⟩, listed⟩, _⟩ := valid
  simp only [decisionWellFormed, Bool.and_eq_true] at wellFormed
  obtain ⟨⟨⟨⟨⟨⟨⟨_, requestNamed⟩, tenantNamed⟩, _⟩, _⟩, _⟩, _⟩, _⟩ := wellFormed
  simp only [decisionBound, Bool.and_eq_true] at bound
  obtain ⟨⟨⟨⟨⟨⟨_, sameDigest⟩, sameVersion⟩, _⟩, _⟩, _⟩, _⟩ := bound
  constructor
  case digest =>
    have same : isText (nullable decision.policyDigest) toolCall.policyVersionHash = true :=
      sameDigest
    rw [digest] at same
    rw [known]
    exact (isText_str _ _).mp same
  case version =>
    have same : isText (nullable decision.policyVersion) toolCall.policyVersionId = true :=
      sameVersion
    rw [version] at same
    rw [known]
    exact (isText_str _ _).mp same
  case request =>
    rw [← request]
    exact requestNamed
  case tenant =>
    rw [← tenant]
    exact tenantNamed
  case rule =>
    have items : (arrayOf (some (.arr (decision.matchedPolicies.map MatchedPolicy.json)))
        (matchedPolicyConsistent decision.candidate)).isSome = true := listed
    rw [policies, matched, arrayOf] at items
    split at items
    · rename_i consistent
      simp only [List.map_cons, List.map_nil, List.all_cons, List.all_nil, Bool.and_true,
        matchedPolicyConsistent, Bool.and_eq_true] at consistent
      exact consistent.1.2
    · cases items

/-- The decision stored at submission is accepted exactly when the provider answered
for the policy version that the tool call records. -/
theorem DecisionSubmitted.accepted_iff {provider : Option DeterministicPolicyProvider}
    {context : PolicyEvaluationContext} {influence : Option ContentInfluenceEvidenceV1}
    {forceApproval : Bool} {toolCall : ToolCallRecord}
    (submitted : DecisionSubmitted provider context influence forceApproval toolCall) :
    (∃ decision : ActionProxyDecisionV1, storedDecision toolCall = some decision.json ∧
        validatedActionProxyDecisionForToolCall toolCall = some decision.candidate) ↔
      (evaluatePolicyProvider provider toolCall.toolName context).status = .ok ∧
        ProviderActive (evaluatePolicyProvider provider toolCall.toolName context) toolCall := by
  constructor
  · rintro ⟨decision, given, accepted⟩
    rw [validatedActionProxyDecisionForToolCall, ← storedDecision, given, Option.bind_some,
      decisionCandidate_json] at accepted
    have valid : decisionValid toolCall decision.candidate = true :=
      (Option.filter_eq_some_iff.mp accepted).2
    have stored := submitted.stored
    have inputHash := submitted.inputHash
    rw [given, decisionForToolCall, if_pos submitted.canonical] at stored
    have succeeded := @evaluationSucceeded_of_ok provider toolCall.toolName context
    generalize evaluatePolicyProvider provider toolCall.toolName context = base at *
    generalize forcedEvaluation forceApproval
      (effectivePolicyEvaluation base.trace.evaluation influence) = evaluation at *
    obtain ⟨sameDescriptor, sameStatus, _, sameRule⟩ := effective_provider base evaluation
    generalize providerEvaluationWithEffectiveDecision base evaluation = final at *
    obtain ⟨hash, known, named⟩ := (Option.any_eq_true _ _).mp inputHash
    rw [known, nonEmpty_of_notBlank named, Option.map_some, Option.map_some,
      Option.some_inj] at stored
    have same := congrArg decisionCandidate stored
    rw [decisionCandidate_json, decisionCandidate_json, Option.some_inj] at same
    rw [same] at valid
    have ok : base.status = .ok := by
      simp only [decisionValid, Bool.and_eq_true, decisionBound] at valid
      obtain ⟨⟨⟨⟨_, ⟨⟨⟨⟨⟨⟨⟨_, status⟩, _⟩, _⟩, _⟩, _⟩, _⟩, _⟩⟩, _⟩, _⟩, _⟩ := valid
      rw [← sameStatus]
      exact ProviderStatus.text_injective (Option.some_inj.mp ((isText_str _ _).mp status)).symm
    obtain ⟨⟨descriptor, identified, describes⟩, _, _⟩ := succeeded ok
    obtain ⟨digest, version, request, tenant, rule⟩ := active_of_valid identified
      (sameDescriptor.trans describes) (sameStatus.trans ok) valid
    rw [sameDescriptor] at digest version
    rw [sameRule] at rule
    exact ⟨ok, digest, version, request, tenant, rule⟩
  · rintro ⟨ok, active⟩
    obtain ⟨decision, stored, sound⟩ := submitted.sound ok active
    exact ⟨decision, stored, validated_of_sound stored sound⟩

/-! ### What is accepted is exact -/

/-- Identity material that agrees, part by part. -/
structure SameIdentity (left right : DecisionIdentityInput) : Prop where
  approvalRequirements : Option.Rel Same left.approvalRequirements right.approvalRequirements
  decisionInputHash : Option.Rel Same left.decisionInputHash right.decisionInputHash
  matchedPolicies : Option.Rel Same left.matchedPolicies right.matchedPolicies
  obligations : Option.Rel Same left.obligations right.obligations
  outcome : Option.Rel Same left.outcome right.outcome
  policyDigest : Option.Rel Same left.policyDigest right.policyDigest
  policyDigestAlgorithm : Option.Rel Same left.policyDigestAlgorithm right.policyDigestAlgorithm
  providerId : Option.Rel Same left.providerId right.providerId
  providerVersion : Option.Rel Same left.providerVersion right.providerVersion
  policySchemaVersion : Option.Rel Same left.policySchemaVersion right.policySchemaVersion
  providerStatus : Option.Rel Same left.providerStatus right.providerStatus
  policyVersion : Option.Rel Same left.policyVersion right.policyVersion
  reasonCodes : Option.Rel Same left.reasonCodes right.reasonCodes
  requestId : Option.Rel Same left.requestId right.requestId
  tenantId : Option.Rel Same left.tenantId right.tenantId
  version : Option.Rel Same left.version right.version

/-- Tool calls that agree on the fields a decision is bound to. -/
structure SameBinding (left right : ToolCallRecord) : Prop where
  id : left.id = right.id
  workspace : left.workspace = right.workspace
  inputHash : left.canonicalDecisionInputHash = right.canonicalDecisionInputHash
  decision : left.decision = right.decision
  policyHash : left.policyVersionHash = right.policyVersionHash
  policyVersion : left.policyVersionId = right.policyVersionId

omit [Runtime] in
theorem DecisionIdentityInput.members_distinct (input : DecisionIdentityInput) :
    (input.members.map Prod.fst).Nodup := by
  simp [DecisionIdentityInput.members]

omit [Runtime] in
theorem DecisionIdentityInput.policyMembers_distinct (input : DecisionIdentityInput) :
    (input.policyMembers.map Prod.fst).Nodup := by
  simp [DecisionIdentityInput.policyMembers]

theorem sameIdentity_of_decisionId (injective : Function.Injective sha256Hex)
    {left right : DecisionIdentityInput} (same : decisionIdOf left = decisionIdOf right) :
    SameIdentity left right := by
  have texts := injective ((String.append_right_inj _).mp same)
  have material : Same (.obj left.members) (.obj right.members) :=
    same_of_textWith_eq (String.ofList_injective texts)
  have parts := same_obj_zip material left.members_distinct rfl
  simp only [DecisionIdentityInput.members, List.zip_cons_cons, List.forall_mem_cons] at parts
  obtain ⟨approvalRequirements, decisionInputHash, matchedPolicies, obligations, outcome, policy,
    reasonCodes, requestId, tenantId, version, _⟩ := parts
  cases policy with
  | some policies =>
      have policyParts := same_obj_zip policies left.policyMembers_distinct rfl
      simp only [DecisionIdentityInput.policyMembers, List.zip_cons_cons,
        List.forall_mem_cons] at policyParts
      obtain ⟨policyDigest, policyDigestAlgorithm, providerId, providerVersion,
        policySchemaVersion, providerStatus, policyVersion, _⟩ := policyParts
      exact {
        approvalRequirements, decisionInputHash, matchedPolicies, obligations, outcome,
        policyDigest, policyDigestAlgorithm, providerId, providerVersion, policySchemaVersion,
        providerStatus, policyVersion, reasonCodes, requestId, tenantId, version }

omit [Runtime] in
theorem expected_eq_of_isText {left right : Option Json} (same : Option.Rel Same left right)
    {leftText rightText : Option String} (leftNames : isText left leftText = true)
    (rightNames : isText right rightText = true) : leftText = rightText := by
  cases same with
  | none =>
      cases leftText with
      | some text => cases leftNames
      | none =>
          cases rightText with
          | some text => cases rightNames
          | none => rfl
  | some value =>
      cases value with
      | str text => rw [(isText_str _ _).mp leftNames, (isText_str _ _).mp rightNames]
      | _ => cases leftText <;> cases leftNames
theorem sameBinding_of_accepted {left right : ToolCallRecord}
    {leftCandidate rightCandidate : DecisionCandidate}
    (leftValid : decisionValid left leftCandidate = true)
    (rightValid : decisionValid right rightCandidate = true)
    (same : SameIdentity leftCandidate.identity rightCandidate.identity) :
    SameBinding left right := by
  simp only [decisionValid, decisionBound, Bool.and_eq_true] at leftValid rightValid
  obtain ⟨⟨⟨⟨_, ⟨⟨⟨⟨⟨⟨⟨⟨⟨⟨leftId, leftTenant⟩, leftHash⟩, leftOutcome⟩, _⟩, leftDigest⟩,
    leftVersion⟩, _⟩, _⟩, _⟩, _⟩⟩, _⟩, _⟩, _⟩ := leftValid
  obtain ⟨⟨⟨⟨_, ⟨⟨⟨⟨⟨⟨⟨⟨⟨⟨rightId, rightTenant⟩, rightHash⟩, rightOutcome⟩, _⟩, rightDigest⟩,
    rightVersion⟩, _⟩, _⟩, _⟩, _⟩⟩, _⟩, _⟩, _⟩ := rightValid
  constructor
  case id => exact Option.some_inj.mp (expected_eq_of_isText same.requestId leftId rightId)
  case workspace =>
    exact Option.some_inj.mp (expected_eq_of_isText same.tenantId leftTenant rightTenant)
  case inputHash => exact expected_eq_of_isText same.decisionInputHash leftHash rightHash
  case decision =>
    exact Option.map_injective PolicyDecision.text_injective
      (expected_eq_of_isText same.outcome leftOutcome rightOutcome)
  case policyHash => exact expected_eq_of_isText same.policyDigest leftDigest rightDigest
  case policyVersion => exact expected_eq_of_isText same.policyVersion leftVersion rightVersion

theorem candidate_of_stored {toolCall : ToolCallRecord} {candidate : DecisionCandidate}
    (accepted : validatedActionProxyDecisionForToolCall toolCall = some candidate) :
    (storedDecision toolCall).bind decisionCandidate = some candidate ∧
      decisionValid toolCall candidate = true := by
  rw [validatedActionProxyDecisionForToolCall, ← storedDecision] at accepted
  obtain ⟨value, stored, valid⟩ := Option.bind_eq_some_iff.mp accepted
  obtain ⟨read, passes⟩ := Option.filter_eq_some_iff.mp valid
  rw [stored, Option.bind_some]
  exact ⟨read, passes⟩

theorem decisionId_of_valid {toolCall : ToolCallRecord} {candidate : DecisionCandidate}
    (valid : decisionValid toolCall candidate = true) :
    candidate.field "decisionId" = some (.str (decisionIdOf candidate.identity)) := by
  simp only [decisionValid, Bool.and_eq_true] at valid
  have named := valid.2
  unfold isText at named
  split at named
  · rename_i absent
    cases absent
  · rename_i text expected found given
    rw [found, beq_iff_eq.mp named, ← Option.some_inj.mp given]
  · cases named

/-- Beside an accepted tool call, a stored decision that keeps the decision id and
alters what it identifies, or alters the id alone, is refused, and so is one that
is kept with another tool call. -/
theorem altered_refused (injective : Function.Injective sha256Hex)
    {toolCall altered : ToolCallRecord} {candidate other : DecisionCandidate}
    (accepted : validatedActionProxyDecisionForToolCall toolCall = some candidate)
    (stored : (storedDecision altered).bind decisionCandidate = some other)
    (kept : other.field "decisionId" = candidate.field "decisionId" ∨
      other.identity = candidate.identity)
    (changed : ¬(other.field "decisionId" = candidate.field "decisionId" ∧
      SameIdentity other.identity candidate.identity ∧ SameBinding altered toolCall)) :
    validatedActionProxyDecisionForToolCall altered = none := by
  cases result : validatedActionProxyDecisionForToolCall altered with
  | none => rfl
  | some again =>
      exfalso
      obtain ⟨read, valid⟩ := candidate_of_stored result
      obtain rfl : again = other := Option.some_inj.mp (read.symm.trans stored)
      obtain ⟨_, originalValid⟩ := candidate_of_stored accepted
      have id := decisionId_of_valid valid
      have originalId := decisionId_of_valid originalValid
      have sameId : decisionIdOf again.identity = decisionIdOf candidate.identity := by
        rcases kept with sameField | sameMaterial
        · rw [id, originalId, Option.some_inj] at sameField
          exact Json.str.inj sameField
        · rw [sameMaterial]
      have same := sameIdentity_of_decisionId injective sameId
      apply changed
      exact ⟨by rw [id, originalId, sameId], same, sameBinding_of_accepted valid originalValid same⟩

/-- Decision evidence is accepted exactly when the provider answered for the recorded
policy version, and is exact: no alteration of it or of the tool call is accepted. -/
theorem decision_evidence_exact (injective : Function.Injective sha256Hex) :
    (∀ (provider : Option DeterministicPolicyProvider) (context : PolicyEvaluationContext)
        (influence : Option ContentInfluenceEvidenceV1) (forceApproval : Bool)
        (toolCall : ToolCallRecord),
      DecisionSubmitted provider context influence forceApproval toolCall →
      ((∃ decision : ActionProxyDecisionV1, storedDecision toolCall = some decision.json ∧
          validatedActionProxyDecisionForToolCall toolCall = some decision.candidate) ↔
        (evaluatePolicyProvider provider toolCall.toolName context).status = .ok ∧
          ProviderActive (evaluatePolicyProvider provider toolCall.toolName context) toolCall)) ∧
    ∀ (toolCall altered : ToolCallRecord) (candidate other : DecisionCandidate),
      validatedActionProxyDecisionForToolCall toolCall = some candidate →
      (storedDecision altered).bind decisionCandidate = some other →
      (other.field "decisionId" = candidate.field "decisionId" ∨
        other.identity = candidate.identity) →
      ¬(other.field "decisionId" = candidate.field "decisionId" ∧
        SameIdentity other.identity candidate.identity ∧ SameBinding altered toolCall) →
      validatedActionProxyDecisionForToolCall altered = none := by
  constructor
  · intro provider context influence forceApproval toolCall submitted
    exact submitted.accepted_iff
  · intro toolCall altered candidate other accepted stored kept changed
    exact altered_refused injective accepted stored kept changed

end

/-! ### Evidence of one payment -/

/-- Every tool is allowed. -/
private def openPolicy : PolicyFile :=
  { version := JsonNumber.ofDigit 1 Nat.one_ne_zero
    default := PolicyRule.plain .never
    tools := KeyedTable.empty }

private def openProvider : DeterministicPolicyProvider :=
  @createYamlPolicyProvider (sampleRuntime []) openPolicy
    (some (String.ofList (List.replicate 64 'a'))) none

private def blankContext : PolicyEvaluationContext :=
  { amount := none
    approverGroup := none
    currency := none
    customerVisible := none
    input := none
    metadata := none
    operationKind := none
    recipientDomain := none
    risk := none }

private def undecidedCall (toolName : String) : ToolCallRecord :=
  { id := "toolcall_1"
    workspaceId := none
    toolName := toolName
    input := []
    inputHash := none
    actionEnvelope := none
    actionEnvelopeHash := none
    canonicalActionRequestHash := none
    canonicalActionRequestVersion := some canonicalActionRequestVersion
    canonicalDecisionInputHash := some "request"
    canonicalPolicyContext := none
    contentInfluence := none
    influenceScopeId := none
    requestedBy := "agent"
    requestedByAuth := none
    agentId := "agent"
    reason := "invoice"
    metadata := []
    status := .pendingApproval
    decision := none
    authorizationDecision := none
    authorizationReason := none
    decisionTrace := none
    policyReason := none
    policyVersionId := some openProvider.descriptor.policyVersion
    policyVersionHash := some openProvider.descriptor.policyDigest
    resultDelivery := none
    resultSource := none
    resultWithheld := none
    risk := none
    result := none
    error := none
    createdAt := "2026-07-10T10:00:00.000Z"
    updatedAt := "2026-07-10T10:00:00.000Z" }

private def answeredFor (toolName : String) : PolicyProviderEvaluation :=
  @evaluatePolicyProvider (some openProvider) toolName blankContext

private def inForce (toolName : String) : PolicyEvaluation :=
  forcedEvaluation true (effectivePolicyEvaluation (answeredFor toolName).trace.evaluation none)

private def paymentDecision (toolName : String) : ActionProxyDecisionV1 :=
  @buildActionProxyDecision (sampleRuntime [])
    { decidedAt := "2026-07-10T10:00:00.000Z"
      decisionInputHash := "request"
      providerEvaluation :=
        providerEvaluationWithEffectiveDecision (answeredFor toolName) (inForce toolName)
      requestId := "toolcall_1"
      tenantId := "default" }

private def decidedCall (toolName : String) (decision : ActionProxyDecisionV1) : ToolCallRecord :=
  { undecidedCall toolName with
    decision := some (inForce toolName).decision
    decisionTrace := some [("decisionV1", some decision.json)] }

private theorem decidedCall_submitted (toolName : String) :
    @DecisionSubmitted (sampleRuntime []) (some openProvider) blankContext none true
      (decidedCall toolName (paymentDecision toolName)) :=
  let _ := sampleRuntime []
  { decision := rfl
    stored := rfl
    canonical := rfl
    inputHash := show notBlank "request" = true by decide
    created := show (@dateParse (sampleRuntime []) "2026-07-10T10:00:00.000Z").isSome = true by
      decide }

private theorem payment_active : ProviderActive (answeredFor "payments.send")
    (decidedCall "payments.send" (paymentDecision "payments.send")) :=
  { digest := rfl
    version := rfl
    request := by decide
    tenant := by decide
    rule := by decide }

private theorem payment_accepted :
    @validatedActionProxyDecisionForToolCall (sampleRuntime [])
        (decidedCall "payments.send" (paymentDecision "payments.send")) =
      some (paymentDecision "payments.send").candidate := by
  let _ := sampleRuntime []
  obtain ⟨decision, stored, accepted⟩ :=
    (decidedCall_submitted "payments.send").accepted_iff.mpr ⟨by decide, payment_active⟩
  have same : decisionCandidate (paymentDecision "payments.send").json =
      decisionCandidate decision.json := congrArg decisionCandidate (Option.some_inj.mp stored)
  rw [decisionCandidate_json, decisionCandidate_json, Option.some_inj] at same
  rw [same]
  exact accepted

private def otherEvaluator : ActionProxyDecisionV1 :=
  { paymentDecision "payments.send" with evaluatorVersion := some "other" }

private theorem otherEvaluator_sound : @DecisionSound (sampleRuntime [])
    (decidedCall "payments.send" otherEvaluator) otherEvaluator :=
  let _ := sampleRuntime []
  { identified := rfl
    evaluator := ⟨"other", rfl, by decide⟩
    dated := show (@dateParse (sampleRuntime []) "2026-07-10T10:00:00.000Z").isSome = true by
      decide
    inputHash := rfl
    inputHashNamed := by decide
    request := rfl
    requestNamed := by decide
    tenant := rfl
    tenantNamed := by decide
    outcome := by decide
    succeeded := by decide
    digest := ⟨_, rfl, rfl⟩
    version := ⟨_, rfl, rfl⟩
    algorithm := rfl
    provider := by decide
    providerVersion := ⟨_, rfl, by decide⟩
    schemaVersion := ⟨_, rfl, by decide⟩
    obligations := rfl
    reasonCodes := by decide
    requirements := ⟨_, rfl⟩
    matched := by
      intro matched listed
      obtain rfl := List.mem_singleton.mp listed
      exact ⟨rfl, rfl, rfl, rfl, by decide⟩ }

/-- The decision of a provider that fails is refused, and a decision that names
another evaluator is accepted. -/
theorem decision_evidence_not_exact :
    (@DecisionSubmitted (sampleRuntime []) (some openProvider) blankContext none true
        (decidedCall "constructor" (paymentDecision "constructor")) ∧
      @validatedActionProxyDecisionForToolCall (sampleRuntime [])
        (decidedCall "constructor" (paymentDecision "constructor")) = none) ∧
    ∃ altered : ActionProxyDecisionV1,
      altered.evaluatorVersion ≠ (paymentDecision "payments.send").evaluatorVersion ∧
      @validatedActionProxyDecisionForToolCall (sampleRuntime [])
          (decidedCall "payments.send" (paymentDecision "payments.send")) =
        some (paymentDecision "payments.send").candidate ∧
      @validatedActionProxyDecisionForToolCall (sampleRuntime [])
          (decidedCall "payments.send" altered) = some altered.candidate := by
  let _ := sampleRuntime []
  refine ⟨⟨decidedCall_submitted _, ?_⟩, otherEvaluator, by decide, ?_, ?_⟩
  · cases result : @validatedActionProxyDecisionForToolCall (sampleRuntime [])
        (decidedCall "constructor" (paymentDecision "constructor")) with
    | none => rfl
    | some candidate =>
        obtain ⟨read, _⟩ := candidate_of_stored result
        obtain rfl : (paymentDecision "constructor").candidate = candidate :=
          Option.some_inj.mp read
        obtain ⟨ok, _⟩ := (decidedCall_submitted "constructor").accepted_iff.mp ⟨_, rfl, result⟩
        exact absurd ok (by decide)
  · exact payment_accepted
  · exact validated_of_sound rfl otherEvaluator_sound

theorem decision_evidence_exact_payment :
    (∃ decision : ActionProxyDecisionV1,
      storedDecision (decidedCall "payments.send" (paymentDecision "payments.send")) =
        some decision.json ∧
      @validatedActionProxyDecisionForToolCall (sampleRuntime [])
        (decidedCall "payments.send" (paymentDecision "payments.send")) =
          some decision.candidate) ∧
    @validatedActionProxyDecisionForToolCall (sampleRuntime [])
      { decidedCall "payments.send" (paymentDecision "payments.send") with id := "toolcall_2" } =
        none := by
  have exact := @decision_evidence_exact (sampleRuntime [])
    (knownDigest_injective (by decide) (by decide))
  constructor
  · exact (exact.1 (some openProvider) blankContext none true _
      (decidedCall_submitted "payments.send")).mpr ⟨by decide, payment_active⟩
  · apply exact.2 _ _ _ (paymentDecision "payments.send").candidate payment_accepted rfl (.inl rfl)
    rintro ⟨_, _, binding⟩
    exact absurd binding.id (by decide)

end ActionProxy
