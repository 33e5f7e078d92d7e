import ActionProxy.Services.Submission

/-!
The publication of a pending approval: the authorization it is published with, and what
an approval and a tool call still have of their publication when they agree with it.
-/

namespace ActionProxy

open JsonText

/-- `DEFAULT_APPROVAL_AUTHORIZATION_TTL_MS`. -/
def defaultApprovalAuthorizationTtlMs : Int := 24 * 60 * 60 * 1000

/-- The users that may approve: those the directory resolves, where there is one and
the rule can be resolved. -/
def approvalApproverUsersFor (rule : PolicyRule) (resolved : Option (List String)) :
    Option (List String) :=
  match resolved with
  | none => rule.approvers.bind PolicyApprovers.users
  | some resolvedUserIds =>
      let explicitUsers := (rule.approvers.bind PolicyApprovers.users).getD []
      let explicitGroups := (rule.approvers.bind PolicyApprovers.groups).getD []
      if !resolvedUserIds.isEmpty || !explicitUsers.isEmpty ||
          (explicitUsers.isEmpty && explicitGroups.isEmpty) then some resolvedUserIds
      else none

/-- What a candidate is built of; the approval's id and the nonce are drawn beforehand. -/
structure PendingApprovalInput where
  actionEnvelope : ActionEnvelope
  actor : String
  auth : Option AuthContext
  input : JsonObject
  now : Instant
  rule : PolicyRule
  toolCall : ToolCallRecord
  workspaceId : String
  resolvedRecipients : Option (List String)
  approvalId : String
  nonce : String

structure PendingApprovalCandidate where
  approval : ApprovalRecord
  toolCall : ToolCallRecord

namespace PendingApprovalInput

def pendingToolCall (input : PendingApprovalInput) : ToolCallRecord :=
  { input.toolCall with status := .pendingApproval, updatedAt := input.now.text }

def approverGroups (input : PendingApprovalInput) : List String :=
  (input.rule.approvers.bind PolicyApprovers.groups).getD []

def approverUsers (input : PendingApprovalInput) : Option (List String) :=
  approvalApproverUsersFor input.rule input.resolvedRecipients

def requiredApprovals (input : PendingApprovalInput) : Int :=
  (input.rule.approvers.bind PolicyApprovers.requiredApprovals).getD 1

def separationOfDuties (input : PendingApprovalInput) : Bool :=
  (input.rule.approvers.bind PolicyApprovers.separationOfDuties).getD false

/-- When the authorization expires; there is no text for a time past the last date. -/
def expiresAt (input : PendingApprovalInput) (config : GateConfig) : Option String :=
  IsoTime.toISOString (input.now.millis +
    max 1 (config.approvalAuthorizationTtlMs.getD defaultApprovalAuthorizationTtlMs))

end PendingApprovalInput

section

variable [Runtime]

namespace PendingApprovalInput

def reviewHash (input : PendingApprovalInput) : String :=
  reviewHashFor input.actionEnvelope.envelopeHash input.approvalId
    input.pendingToolCall.policyVersionHash input.pendingToolCall.id

def authorizationInput (input : PendingApprovalInput) (expiresAt : String) :
    BuildApprovalAuthorizationInput :=
  { approvalId := input.approvalId
    approverGroups := some input.approverGroups
    approverUsers := input.approverUsers
    expiresAt := expiresAt
    issuedAt := input.now.text
    nonce := input.nonce
    originalEnvelopeHash := input.actionEnvelope.envelopeHash
    originalInputHash := input.actionEnvelope.inputHash
    requestedBy := input.actor
    requestedByPrincipalId := input.auth.map AuthContext.principalId
    requiredApprovals := some input.requiredApprovals
    reviewHash := input.reviewHash
    separationOfDuties := some input.separationOfDuties
    toolCall := input.pendingToolCall }

def approval (input : PendingApprovalInput) (authorization : ApprovalAuthorizationV1) :
    ApprovalRecord :=
  { id := input.approvalId
    workspaceId := some input.workspaceId
    toolCallId := input.pendingToolCall.id
    status := .pending
    requestedBy := input.actor
    requestedByAuth := input.auth
    authorization := some authorization
    authorizationConsumedAt := none
    authorizationConsumedReason := none
    approvedBy := none
    cancelledAt := none
    cancelledBy := none
    cancellationReason := none
    expiredAt := none
    finalizedAt := none
    rejectedBy := none
    note := none
    rejectionReason := none
    originalInput := input.input
    originalEnvelopeHash := some input.actionEnvelope.envelopeHash
    originalInputHash := some input.actionEnvelope.inputHash
    editedInput := none
    approvedEnvelopeHash := none
    approvedInputHash := none
    reviewHash := some input.reviewHash
    approverUsers := input.approverUsers
    approverGroups := some input.approverGroups
    requiredApprovals := some input.requiredApprovals
    separationOfDuties := some input.separationOfDuties
    supersededAt := none
    supersededByApprovalId := none
    decisions := some []
    createdAt := input.now.text
    updatedAt := input.now.text }

end PendingApprovalInput

def buildPendingApprovalCandidate (config : GateConfig) (input : PendingApprovalInput) :
    Except String PendingApprovalCandidate :=
  match input.expiresAt config with
  | none => .error "Invalid time value"
  | some expiresAt =>
      (buildApprovalAuthorization (input.authorizationInput expiresAt)).map fun authorization =>
        { approval := input.approval authorization
          toolCall := input.pendingToolCall }

/-- The candidate of a submission for a rule. -/
def Submission.pendingApproval (submission : Submission) (config : GateConfig)
    (toolCall : ToolCallRecord) (rule : PolicyRule) (resolvedRecipients : Option (List String))
    (approvalId nonce : String) : PendingApprovalInput :=
  { actionEnvelope := submission.actionEnvelope
    actor := actorForSubmit submission.effective submission.options.auth
    auth := submission.options.auth
    input := submission.effective.input
    now := submission.now
    rule := rule
    toolCall := toolCall
    workspaceId := submission.workspaceId config
    resolvedRecipients := resolvedRecipients
    approvalId := approvalId
    nonce := nonce }

/-! ### A fresh authorization -/

/-- A tool call that records what its approval is built of. -/
structure RecordsPending (input : PendingApprovalInput) : Prop where
  workspace : input.toolCall.workspaceId = some input.workspaceId
  requestedBy : input.toolCall.requestedBy = input.actor
  inputHash : input.toolCall.inputHash = some input.actionEnvelope.inputHash
  envelopeHash : input.toolCall.actionEnvelopeHash = some input.actionEnvelope.envelopeHash
  decided : input.toolCall.decision.isSome = true

/-- The identities an authorization is bound to are named, and a digest is never empty. -/
structure PendingNamed (input : PendingApprovalInput) : Prop where
  actor : input.actor ≠ ""
  workspace : input.workspaceId ≠ ""
  toolCall : input.toolCall.id ≠ ""
  approval : input.approvalId ≠ ""
  nonce : input.nonce ≠ ""
  envelopeHash : input.actionEnvelope.envelopeHash ≠ ""
  inputHash : input.actionEnvelope.inputHash ≠ ""
  digests : ∀ text : String, sha256Hex text ≠ ""

/-- The authorization a candidate is built with. -/
structure AuthorizedBy (config : GateConfig) (input : PendingApprovalInput)
    (authorization : ApprovalAuthorizationV1) : Prop where
  expires : input.expiresAt config = some authorization.expiresAt
  versioned : nonEmpty input.toolCall.policyVersionHash =
    some authorization.binding.policy.legacyVersionHash
  binding : authorization.binding = (input.authorizationInput authorization.expiresAt).binding
    authorization.binding.policy.legacyVersionHash
  issued : authorization.issuedAt = input.now.text
  nonce : authorization.nonce = input.nonce
  version : authorization.version = approvalAuthorizationVersion
  hash : authorization.authorizationHash = hashCanonicalJson authorization.withoutHash

theorem candidate_shape {config : GateConfig} {input : PendingApprovalInput}
    {candidate : PendingApprovalCandidate}
    (built : buildPendingApprovalCandidate config input = .ok candidate) :
    ∃ authorization, AuthorizedBy config input authorization ∧
      candidate =
        { approval := input.approval authorization
          toolCall := input.pendingToolCall } := by
  unfold buildPendingApprovalCandidate at built
  cases expiry : input.expiresAt config with
  | none =>
      rw [expiry] at built
      cases built
  | some expiresAt =>
      rw [expiry] at built
      dsimp only at built
      cases authorized : buildApprovalAuthorization (input.authorizationInput expiresAt) with
      | error message =>
          rw [authorized] at built
          cases built
      | ok authorization =>
          rw [authorized] at built
          refine ⟨authorization, ?_, (Except.ok.inj built).symm⟩
          unfold buildApprovalAuthorization at authorized
          split at authorized
          · cases authorized
          · cases authorized
          · cases authorized
          · rename_i policyVersionHash issued expires versioned _ _
            split at authorized
            · cases authorized
            · have same := (Except.ok.inj authorized).symm
              subst same
              exact
                { expires := expiry
                  versioned := versioned
                  binding := rfl
                  issued := rfl
                  nonce := rfl
                  version := rfl
                  hash := rfl }

omit [Runtime] in
theorem Instant.text_printed (instant : Instant) :
    IsoTime.toISOString instant.millis = some instant.text :=
  (Option.some_get instant.shown).symm

theorem candidate_built {config : GateConfig} {input : PendingApprovalInput} {expiresAt : String}
    (expires : input.expiresAt config = some expiresAt) {policyVersionHash : String}
    (versioned : nonEmpty input.toolCall.policyVersionHash = some policyVersionHash) :
    ∃ candidate, buildPendingApprovalCandidate config input = .ok candidate := by
  have issued : dateParse input.now.text = some input.now.millis :=
    IsoTime.parseDate_toISOString input.now.text_printed
  have expiry : dateParse expiresAt = some (input.now.millis +
      max 1 (config.approvalAuthorizationTtlMs.getD defaultApprovalAuthorizationTtlMs)) :=
    IsoTime.parseDate_toISOString expires
  have positive : 1 ≤ max 1
      (config.approvalAuthorizationTtlMs.getD defaultApprovalAuthorizationTtlMs) :=
    le_max_left 1 _
  have later : ¬ (input.now.millis +
      max 1 (config.approvalAuthorizationTtlMs.getD defaultApprovalAuthorizationTtlMs) ≤
        input.now.millis) := by
    omega
  unfold buildPendingApprovalCandidate buildApprovalAuthorization
  rw [expires]
  simp only [PendingApprovalInput.authorizationInput, PendingApprovalInput.pendingToolCall,
    versioned, issued, expiry, later, if_false]
  exact ⟨_, rfl⟩

/-- The authorization of a candidate is valid when everything it names has a name. -/
theorem AuthorizedBy.valid {config : GateConfig} {input : PendingApprovalInput}
    {authorization : ApprovalAuthorizationV1} (authorized : AuthorizedBy config input authorization)
    (records : RecordsPending input) (named : PendingNamed input) :
    isValidApprovalAuthorization authorization = true := by
  have expires := authorized.expires
  have issued := input.now.text_printed
  have versioned : authorization.binding.policy.legacyVersionHash ≠ "" := by
    have given := authorized.versioned
    unfold nonEmpty at given
    simpa using (Option.filter_eq_some_iff.mp given).2
  have tenant : input.pendingToolCall.workspace = input.workspaceId := by
    change input.toolCall.workspaceId.getD "default" = input.workspaceId
    rw [records.workspace]
    rfl
  have quorum : 1 ≤ max 1 input.requiredApprovals := le_max_left 1 _
  unfold isValidApprovalAuthorization
  simp only [Bool.and_eq_true, bne_iff_ne, ne_eq, beq_iff_eq, decide_eq_true_eq]
  rw [authorized.binding]
  refine ⟨⟨⟨⟨⟨⟨⟨⟨⟨⟨⟨⟨⟨⟨⟨⟨authorized.version, ?_⟩, ?_⟩, ?_⟩, ?_⟩, ?_⟩, ?_⟩, named.envelopeHash⟩,
    named.inputHash⟩, ?_⟩, named.approval⟩, named.actor⟩, ?_⟩, named.toolCall⟩, versioned⟩, quorum⟩,
    authorized.hash.symm⟩
  · rw [authorized.hash]
    exact named.digests _
  · rw [authorized.nonce]
    exact named.nonce
  · rw [authorized.issued]
    exact IsoTime.toISOString_ne_empty issued
  · exact IsoTime.toISOString_ne_empty expires
  · rw [authorized.issued, dateParse, IsoTime.parseDate_toISOString issued]
    rfl
  · rw [dateParse, IsoTime.parseDate_toISOString expires]
    rfl
  · exact named.digests _
  · change input.pendingToolCall.workspace ≠ ""
    rw [tenant]
    exact named.workspace

theorem AuthorizedBy.agrees {config : GateConfig} {input : PendingApprovalInput}
    {authorization : ApprovalAuthorizationV1} (authorized : AuthorizedBy config input authorization)
    (records : RecordsPending input) (valid : isValidApprovalAuthorization authorization = true) :
    BindingAgrees authorization (input.approval authorization) input.pendingToolCall := by
  have tenant : input.pendingToolCall.workspace = input.workspaceId := by
    change input.toolCall.workspaceId.getD "default" = input.workspaceId
    rw [records.workspace]
    rfl
  obtain ⟨decision, decided⟩ := Option.isSome_iff_exists.mp records.decided
  have versioned : input.toolCall.policyVersionHash =
      some authorization.binding.policy.legacyVersionHash := by
    have given := authorized.versioned
    unfold nonEmpty at given
    exact (Option.filter_eq_some_iff.mp given).1
  exact
    { valid := valid
      approvalId := by rw [authorized.binding]; rfl
      approvalToolCall := by rw [authorized.binding]; rfl
      toolCallId := by rw [authorized.binding]; rfl
      approvalTenant := by rw [authorized.binding]; exact tenant
      toolCallTenant := by rw [authorized.binding]; rfl
      requestedBy := by rw [authorized.binding]; rfl
      toolCallRequestedBy := by rw [authorized.binding]; exact records.requestedBy.symm
      requestedByPrincipal := by rw [authorized.binding]; rfl
      originalInput := by rw [authorized.binding]; rfl
      toolCallInput := by rw [authorized.binding]; exact records.inputHash.symm
      originalEnvelope := by rw [authorized.binding]; rfl
      toolCallEnvelope := by rw [authorized.binding]; exact records.envelopeHash.symm
      review := by rw [authorized.binding]; rfl
      requestHash := by rw [authorized.binding]; rfl
      requestVersion := by rw [authorized.binding]; rfl
      decisionInput := by rw [authorized.binding]; rfl
      decisionVersion := by rw [authorized.binding]; rfl
      decisionId := by rw [authorized.binding]; rfl
      outcome := by
        rw [authorized.binding]
        change some (input.toolCall.decision.getD .requireApproval) = input.toolCall.decision
        rw [decided]
        rfl
      policyHash := versioned.symm
      policyVersionId := by rw [authorized.binding]; rfl
      policyDigest := by rw [authorized.binding]; rfl
      policyVersion := by rw [authorized.binding]; rfl
      provider := by rw [authorized.binding]; rfl
      providerVersion := by rw [authorized.binding]; rfl
      evaluator := by rw [authorized.binding]; rfl
      groups := by rw [authorized.binding]; rfl
      users := by rw [authorized.binding]; rfl
      quorum := by rw [authorized.binding]; rfl
      separation := by rw [authorized.binding]; rfl
      status := rfl }

theorem pendingApproval_records {submission : Submission} {config : GateConfig}
    {toolCall : ToolCallRecord} (stored : submission.toolCall config = .ok toolCall)
    (rule : PolicyRule) (resolvedRecipients : Option (List String)) (approvalId nonce : String) :
    RecordsPending (submission.pendingApproval config toolCall rule resolvedRecipients approvalId
      nonce) := by
  obtain ⟨canonical, context, normalized, read, rfl⟩ := stored_shape stored
  have kept : ∀ record : ToolCallRecord,
      (withheldFromStart record).workspaceId = record.workspaceId ∧
        (withheldFromStart record).requestedBy = record.requestedBy ∧
        (withheldFromStart record).inputHash = record.inputHash ∧
        (withheldFromStart record).actionEnvelopeHash = record.actionEnvelopeHash ∧
        (withheldFromStart record).decision = record.decision := by
    intro record
    unfold withheldFromStart
    split
    · exact ⟨rfl, rfl, rfl, rfl, rfl⟩
    · exact ⟨rfl, rfl, rfl, rfl, rfl⟩
  obtain ⟨workspace, requestedBy, inputHash, envelopeHash, decision⟩ := kept
    { submission.untraced config canonical with
      decisionTrace := some (policyTraceMembers submission.approverResolution
        (submission.untraced config canonical) (submission.evaluate config canonical).provider ++
          submission.tracedEvidence config canonical) }
  exact
    { workspace := workspace
      requestedBy := requestedBy
      inputHash := inputHash
      envelopeHash := envelopeHash
      decided := congrArg Option.isSome decision }

theorem actionEnvelope_digests (submission : Submission) :
    (∃ text, submission.actionEnvelope.envelopeHash = sha256Hex text) ∧
      ∃ text, submission.actionEnvelope.inputHash = sha256Hex text := by
  unfold Submission.actionEnvelope
  cases submission.prepared with
  | none => exact ⟨⟨_, rfl⟩, ⟨_, rfl⟩⟩
  | some prepared => exact ⟨⟨_, rfl⟩, ⟨_, rfl⟩⟩

/-! ### A later agreement -/

theorem same_of_hashCanonicalJson_eq (injective : Function.Injective sha256Hex)
    {left right : Json} (same : hashCanonicalJson left = hashCanonicalJson right) :
    Same left right :=
  same_of_textWith_eq (String.ofList_injective (injective same))

omit [Runtime] in
theorem mem_of_sortedUnique_eq {left right : List String}
    (same : sortedUnique left = sortedUnique right) (text : String) :
    text ∈ left ↔ text ∈ right := by
  have members : ∀ values : List String, text ∈ sortedUnique values ↔ text ∈ values := by
    intro values
    unfold sortedUnique
    rw [List.mem_insertionSort, List.mem_dedup]
  rw [← members left, ← members right, same]

omit [Runtime] in
theorem nullable_eq_of_rel {left right : Option String}
    (same : Option.Rel Same (nullable left) (nullable right)) : left = right := by
  cases left with
  | none =>
      cases right with
      | none => rfl
      | some right =>
          cases same with
          | some values => cases values
  | some left =>
      cases right with
      | none =>
          cases same with
          | some values => cases values
      | some right =>
          cases same with
          | some values => rw [same_str_iff.mp values]

omit [Runtime] in
theorem texts_eq_of_same {left right : List String}
    (same : Same (.arr (left.map .str)) (.arr (right.map .str))) : left = right := by
  cases same with
  | arr items =>
      induction left generalizing right with
      | nil =>
          cases right with
          | nil => rfl
          | cons text rest => cases items
      | cons text rest step =>
          cases right with
          | nil => cases items
          | cons other others =>
              cases items with
              | cons head tail => rw [same_str_iff.mp head, step tail]

omit [Runtime] in
theorem groups_eq_of_rel {left right : List String}
    (same : Option.Rel Same (some (.arr (left.map .str))) (some (.arr (right.map .str)))) :
    left = right := by
  cases same with
  | some values => exact texts_eq_of_same values

omit [Runtime] in
theorem flag_eq_of_rel {left right : Bool}
    (same : Option.Rel Same (some (.bool left)) (some (.bool right))) : left = right := by
  cases same with
  | some values =>
      cases values
      rfl

omit [Runtime] in
theorem users_eq_of_rel {left right : Option (List String)}
    (same : Option.Rel Same
      (some (left.elim .null (fun users => .arr (users.map .str))))
      (some (right.elim .null (fun users => .arr (users.map .str))))) : left = right := by
  cases left with
  | none =>
      cases right with
      | none => rfl
      | some right =>
          cases same with
          | some values => cases values
  | some left =>
      cases right with
      | none =>
          cases same with
          | some values => cases values
      | some right =>
          cases same with
          | some values => rw [texts_eq_of_same values]

omit [Runtime] in
theorem integer_eq_of_rel {left right : Int}
    (same : Option.Rel Same (some (.num (JsonNumber.ofInt left)))
      (some (.num (JsonNumber.ofInt right)))) : left = right := by
  have number : ∀ {left right : JsonNumber}, Same (.num left) (.num right) → left = right := by
    intro left right same
    cases same
    rfl
  have values : JsonNumber.ofInt left = JsonNumber.ofInt right := by
    cases same with
    | some values => exact number values
  rw [← (JsonNumber.ofInt_scaled left).2, values, (JsonNumber.ofInt_scaled right).2]

omit [Runtime] in
theorem outcome_eq_of_rel {left right : PolicyDecision}
    (same : Option.Rel Same (some (.str left.text)) (some (.str right.text))) : left = right :=
  PolicyDecision.text_injective (required_eq_of_rel same)

omit [Runtime] in
theorem rel_obj_zip {left right : JsonObject}
    (same : Option.Rel Same (some (.obj left)) (some (.obj right)))
    (distinct : (left.map Prod.fst).Nodup) (keys : left.map Prod.fst = right.map Prod.fst) :
    ∀ entry ∈ left.zip right, Option.Rel Same entry.1.2 entry.2.2 := by
  cases same with
  | some values => exact same_obj_zip values distinct keys

omit [Runtime] in
theorem binding_eq_of_same {left right : ApprovalAuthorizationBinding}
    (same : Same (bindingJson left) (bindingJson right)) : left = right := by
  have parts := same_obj_zip same (by simp) rfl
  simp only [List.zip_cons_cons, List.forall_mem_cons] at parts
  obtain ⟨action, approval, decision, policy, request, requirements, _⟩ := parts
  have actions := rel_obj_zip action (by simp) rfl
  have approvals := rel_obj_zip approval (by simp) rfl
  have decisions := rel_obj_zip decision (by simp) rfl
  have policies := rel_obj_zip policy (by simp) rfl
  have requests := rel_obj_zip request (by simp) rfl
  have required := rel_obj_zip requirements (by simp) rfl
  simp only [List.zip_cons_cons, List.forall_mem_cons] at actions approvals decisions
  simp only [List.zip_cons_cons, List.forall_mem_cons] at policies requests required
  obtain ⟨⟨_, _, _⟩, ⟨_, _, _, _, _⟩, ⟨_, _, _⟩, ⟨_, _, _, _, _, _, _⟩, ⟨_, _, _⟩,
    ⟨_, _, _, _⟩⟩ := left
  obtain ⟨⟨_, _, _⟩, ⟨_, _, _, _, _⟩, ⟨_, _, _⟩, ⟨_, _, _, _, _, _, _⟩, ⟨_, _, _⟩,
    ⟨_, _, _, _⟩⟩ := right
  obtain ⟨envelopeHash, inputHash, reviewHash, _⟩ := actions
  obtain ⟨approvalId, requestedBy, principal, tenant, toolCall, _⟩ := approvals
  obtain ⟨decisionId, outcome, decisionVersion, _⟩ := decisions
  obtain ⟨digest, evaluator, versionHash, versionId, provider, providerVersion, version, _⟩ :=
    policies
  obtain ⟨decisionInput, requestHash, requestVersion, _⟩ := requests
  obtain ⟨groups, users, quorum, separation, _⟩ := required
  simp only [ApprovalAuthorizationBinding.mk.injEq, AuthorizationAction.mk.injEq,
    AuthorizationApproval.mk.injEq, AuthorizationDecision.mk.injEq, AuthorizationPolicy.mk.injEq,
    AuthorizationRequest.mk.injEq, AuthorizationRequirements.mk.injEq]
  exact
    ⟨⟨required_eq_of_rel envelopeHash, required_eq_of_rel inputHash,
        required_eq_of_rel reviewHash⟩,
      ⟨required_eq_of_rel approvalId, required_eq_of_rel requestedBy,
        nullable_eq_of_rel principal, required_eq_of_rel tenant, required_eq_of_rel toolCall⟩,
      ⟨nullable_eq_of_rel decisionId, outcome_eq_of_rel outcome,
        nullable_eq_of_rel decisionVersion⟩,
      ⟨nullable_eq_of_rel digest, nullable_eq_of_rel evaluator, required_eq_of_rel versionHash,
        nullable_eq_of_rel versionId, nullable_eq_of_rel provider,
        nullable_eq_of_rel providerVersion, nullable_eq_of_rel version⟩,
      ⟨nullable_eq_of_rel decisionInput, nullable_eq_of_rel requestHash,
        nullable_eq_of_rel requestVersion⟩,
      ⟨groups_eq_of_rel groups, users_eq_of_rel users, integer_eq_of_rel quorum,
        flag_eq_of_rel separation⟩⟩

theorem authorization_of_hash (injective : Function.Injective sha256Hex)
    {left right : ApprovalAuthorizationV1}
    (leftHash : left.authorizationHash = hashCanonicalJson left.withoutHash)
    (rightHash : right.authorizationHash = hashCanonicalJson right.withoutHash)
    (same : left.authorizationHash = right.authorizationHash) : left = right := by
  have material := same_of_hashCanonicalJson_eq injective
    (leftHash.symm.trans (same.trans rightHash))
  have parts := same_obj_zip material (by simp) rfl
  simp only [List.zip_cons_cons, List.forall_mem_cons] at parts
  obtain ⟨binding, expires, issued, nonce, version, _⟩ := parts
  have bindings : left.binding = right.binding := by
    cases binding with
    | some values => exact binding_eq_of_same values
  obtain ⟨leftText, leftBinding, leftExpires, leftIssued, leftNonce, leftVersion⟩ := left
  obtain ⟨rightText, rightBinding, rightExpires, rightIssued, rightNonce, rightVersion⟩ := right
  congr 1
  · exact required_eq_of_rel expires
  · exact required_eq_of_rel issued
  · exact required_eq_of_rel nonce
  · exact required_eq_of_rel version

theorem hash_of_valid {authorization : ApprovalAuthorizationV1}
    (valid : isValidApprovalAuthorization authorization = true) :
    authorization.authorizationHash = hashCanonicalJson authorization.withoutHash := by
  unfold isValidApprovalAuthorization at valid
  simp only [Bool.and_eq_true, beq_iff_eq] at valid
  exact valid.2.symm

/-- What an authorization is bound to is what it was published with: the stored
identities, and through them whatever they are the hashes of. -/
structure BoundFieldsKept (published : PendingApprovalCandidate) (approval : ApprovalRecord)
    (toolCall : ToolCallRecord) : Prop where
  approvalId : approval.id = published.approval.id
  approvalToolCall : approval.toolCallId = published.approval.toolCallId
  toolCallId : toolCall.id = published.toolCall.id
  approvalTenant : approval.workspace = published.approval.workspace
  toolCallTenant : toolCall.workspace = published.toolCall.workspace
  requestedBy : approval.requestedBy = published.approval.requestedBy
  toolCallRequestedBy : toolCall.requestedBy = published.toolCall.requestedBy
  requestedByPrincipal : approval.requestedByAuth.map AuthContext.principalId =
    published.approval.requestedByAuth.map AuthContext.principalId
  originalInput : approval.originalInputHash = published.approval.originalInputHash
  toolCallInput : toolCall.inputHash = published.toolCall.inputHash
  originalEnvelope : approval.originalEnvelopeHash = published.approval.originalEnvelopeHash
  toolCallEnvelope : toolCall.actionEnvelopeHash = published.toolCall.actionEnvelopeHash
  review : approval.reviewHash = published.approval.reviewHash
  requestHash : toolCall.canonicalActionRequestHash =
    published.toolCall.canonicalActionRequestHash
  requestVersion : toolCall.canonicalActionRequestVersion =
    published.toolCall.canonicalActionRequestVersion
  decisionInput :
    (toolCall.canonicalDecisionInputHash <|>
        (decisionIdentity toolCall).map DecisionIdentity.decisionInputHash) =
      (published.toolCall.canonicalDecisionInputHash <|>
        (decisionIdentity published.toolCall).map DecisionIdentity.decisionInputHash)
  decisionId : (decisionIdentity toolCall).map DecisionIdentity.decisionId =
    (decisionIdentity published.toolCall).map DecisionIdentity.decisionId
  outcome : toolCall.decision = published.toolCall.decision
  policyHash : toolCall.policyVersionHash = published.toolCall.policyVersionHash
  policyVersionId : toolCall.policyVersionId = published.toolCall.policyVersionId
  policyDigest : (decisionIdentity toolCall).bind DecisionIdentity.digest =
    (decisionIdentity published.toolCall).bind DecisionIdentity.digest
  policyVersion : (decisionIdentity toolCall).bind DecisionIdentity.policyVersion =
    (decisionIdentity published.toolCall).bind DecisionIdentity.policyVersion
  provider : (decisionIdentity toolCall).map DecisionIdentity.providerId =
    (decisionIdentity published.toolCall).map DecisionIdentity.providerId
  providerVersion : (decisionIdentity toolCall).bind DecisionIdentity.providerVersion =
    (decisionIdentity published.toolCall).bind DecisionIdentity.providerVersion
  evaluator : (decisionIdentity toolCall).bind DecisionIdentity.evaluatorVersion =
    (decisionIdentity published.toolCall).bind DecisionIdentity.evaluatorVersion
  groups : ∀ group, group ∈ approval.approverGroups.getD [] ↔
    group ∈ published.approval.approverGroups.getD []
  users : Option.Rel (fun left right => ∀ user : String, user ∈ left ↔ user ∈ right)
    approval.approverUsers published.approval.approverUsers
  quorum : approval.quorum = published.approval.quorum
  separation : approval.separationOfDuties.getD false =
    published.approval.separationOfDuties.getD false
  status : toolCall.status = .pendingApproval
  /-- An input the later record carries the hash of. -/
  input : ∀ later earlier : JsonObject, toolCall.inputHash = some (hashJson (.obj later)) →
    published.toolCall.inputHash = some (hashJson (.obj earlier)) → Same (.obj later) (.obj earlier)
  /-- An envelope it carries the hash of: the tool, the input and the stated context. -/
  envelope : ∀ later earlier : ActionEnvelope,
    toolCall.actionEnvelopeHash = some (hashJson later.withoutHash) →
    published.toolCall.actionEnvelopeHash = some (hashJson earlier.withoutHash) →
    Same later.withoutHash earlier.withoutHash
  /-- A canonical request it carries the decision-input hash of: the policy context. -/
  context : ∀ later earlier : CanonicalActionRequest,
    toolCall.canonicalDecisionInputHash = some (hashCanonicalJson later.decisionInputMaterial) →
    published.toolCall.canonicalDecisionInputHash =
      some (hashCanonicalJson earlier.decisionInputMaterial) →
    Same later.decisionInputMaterial earlier.decisionInputMaterial
  /-- A policy it carries the version hash of. -/
  policy : ∀ later earlier : PolicyFile, toolCall.policyVersionHash = some later.versionHash →
    published.toolCall.policyVersionHash = some earlier.versionHash →
    Same later.json earlier.json
  /-- A decision it carries the id of: the selected rule and what it requires. -/
  decision : ∀ later earlier : DecisionIdentityInput,
    (decisionIdentity toolCall).map DecisionIdentity.decisionId = some (decisionIdOf later) →
    (decisionIdentity published.toolCall).map DecisionIdentity.decisionId =
      some (decisionIdOf earlier) →
    SameIdentity later earlier

theorem boundFieldsKept (injective : Function.Injective sha256Hex)
    {published : PendingApprovalCandidate} {original authorization : ApprovalAuthorizationV1}
    {approval : ApprovalRecord} {toolCall : ToolCallRecord}
    (fresh : BindingAgrees original published.approval published.toolCall)
    (later : BindingAgrees authorization approval toolCall)
    (same : authorization.binding = original.binding) :
    BoundFieldsKept published approval toolCall := by
  have usersSame : approval.approverUsers.map sortedUnique =
      published.approval.approverUsers.map sortedUnique := by
    rw [← later.users, ← fresh.users, same]
  have decisionSame : (decisionIdentity toolCall).map DecisionIdentity.decisionId =
      (decisionIdentity published.toolCall).map DecisionIdentity.decisionId := by
    rw [← later.decisionId, ← fresh.decisionId, same]
  have inputSame : toolCall.inputHash = published.toolCall.inputHash := by
    rw [← later.toolCallInput, ← fresh.toolCallInput, same]
  have envelopeSame : toolCall.actionEnvelopeHash = published.toolCall.actionEnvelopeHash := by
    rw [← later.toolCallEnvelope, ← fresh.toolCallEnvelope, same]
  have policySame : toolCall.policyVersionHash = published.toolCall.policyVersionHash := by
    rw [← later.policyHash, ← fresh.policyHash, same]
  have decisionInputSame :
      (toolCall.canonicalDecisionInputHash <|>
          (decisionIdentity toolCall).map DecisionIdentity.decisionInputHash) =
        (published.toolCall.canonicalDecisionInputHash <|>
          (decisionIdentity published.toolCall).map DecisionIdentity.decisionInputHash) := by
    rw [← later.decisionInput, ← fresh.decisionInput, same]
  exact
    { approvalId := by rw [← later.approvalId, ← fresh.approvalId, same]
      approvalToolCall := by rw [← later.approvalToolCall, ← fresh.approvalToolCall, same]
      toolCallId := by rw [← later.toolCallId, ← fresh.toolCallId, same]
      approvalTenant := by rw [← later.approvalTenant, ← fresh.approvalTenant, same]
      toolCallTenant := by rw [← later.toolCallTenant, ← fresh.toolCallTenant, same]
      requestedBy := by rw [← later.requestedBy, ← fresh.requestedBy, same]
      toolCallRequestedBy := by
        rw [← later.toolCallRequestedBy, ← fresh.toolCallRequestedBy, same]
      requestedByPrincipal := by
        rw [← later.requestedByPrincipal, ← fresh.requestedByPrincipal, same]
      originalInput := by rw [← later.originalInput, ← fresh.originalInput, same]
      toolCallInput := inputSame
      originalEnvelope := by rw [← later.originalEnvelope, ← fresh.originalEnvelope, same]
      toolCallEnvelope := envelopeSame
      review := by rw [← later.review, ← fresh.review, same]
      requestHash := by rw [← later.requestHash, ← fresh.requestHash, same]
      requestVersion := by rw [← later.requestVersion, ← fresh.requestVersion, same]
      decisionInput := decisionInputSame
      decisionId := decisionSame
      outcome := by rw [← later.outcome, ← fresh.outcome, same]
      policyHash := policySame
      policyVersionId := by rw [← later.policyVersionId, ← fresh.policyVersionId, same]
      policyDigest := by rw [← later.policyDigest, ← fresh.policyDigest, same]
      policyVersion := by rw [← later.policyVersion, ← fresh.policyVersion, same]
      provider := by rw [← later.provider, ← fresh.provider, same]
      providerVersion := by rw [← later.providerVersion, ← fresh.providerVersion, same]
      evaluator := by rw [← later.evaluator, ← fresh.evaluator, same]
      groups := mem_of_sortedUnique_eq (by rw [← later.groups, ← fresh.groups, same])
      users := by
        cases mine : approval.approverUsers with
        | none =>
            cases theirs : published.approval.approverUsers with
            | none => exact .none
            | some users =>
                rw [mine, theirs] at usersSame
                cases usersSame
        | some users =>
            cases theirs : published.approval.approverUsers with
            | none =>
                rw [mine, theirs] at usersSame
                cases usersSame
            | some others =>
                rw [mine, theirs] at usersSame
                exact .some (mem_of_sortedUnique_eq (Option.some.inj usersSame))
      quorum := by rw [← later.quorum, ← fresh.quorum, same]
      separation := by rw [← later.separation, ← fresh.separation, same]
      status := later.status
      input := by
        intro left right leftHash rightHash
        rw [inputSame, rightHash] at leftHash
        exact same_of_hashJson_eq injective (Option.some.inj leftHash).symm
      envelope := by
        intro left right leftHash rightHash
        rw [envelopeSame, rightHash] at leftHash
        exact same_of_hashJson_eq injective (Option.some.inj leftHash).symm
      context := by
        intro left right leftHash rightHash
        rw [leftHash, rightHash] at decisionInputSame
        exact same_of_hashCanonicalJson_eq injective (Option.some.inj decisionInputSame)
      policy := by
        intro left right leftHash rightHash
        rw [policySame, rightHash] at leftHash
        exact same_of_hashJson_eq injective (Option.some.inj leftHash).symm
      decision := by
        intro left right leftId rightId
        rw [decisionSame, rightId] at leftId
        exact sameIdentity_of_decisionId injective (Option.some.inj leftId).symm }

/-! ### The published authorization -/

/-- What names a submission and its approval is not empty. -/
structure SubmissionNamed (submission : Submission) (config : GateConfig)
    (approvalId nonce : String) : Prop where
  actor : actorForSubmit submission.effective submission.options.auth ≠ ""
  workspace : submission.workspaceId config ≠ ""
  toolCall : submission.toolCallId ≠ ""
  approval : approvalId ≠ ""
  nonce : nonce ≠ ""

theorem stored_identity {submission : Submission} {config : GateConfig}
    {toolCall : ToolCallRecord} (stored : submission.toolCall config = .ok toolCall) :
    toolCall.id = submission.toolCallId ∧
      toolCall.policyVersionHash = some submission.policy.versionHash := by
  obtain ⟨canonical, context, normalized, read, rfl⟩ := stored_shape stored
  unfold withheldFromStart
  split
  · exact ⟨rfl, rfl⟩
  · exact ⟨rfl, rfl⟩

/-- A submission's approval is published with an authorization that agrees with its records. -/
theorem published_agrees (digests : ∀ text : String, sha256Hex text ≠ "")
    {submission : Submission} {config : GateConfig} {toolCall : ToolCallRecord}
    (stored : submission.toolCall config = .ok toolCall) {rule : PolicyRule}
    {resolvedRecipients : Option (List String)} {approvalId nonce : String}
    (named : SubmissionNamed submission config approvalId nonce)
    (dated : ((submission.pendingApproval config toolCall rule resolvedRecipients approvalId
      nonce).expiresAt config).isSome = true) :
    ∃ candidate authorization,
      buildPendingApprovalCandidate config (submission.pendingApproval config toolCall rule
        resolvedRecipients approvalId nonce) = .ok candidate ∧
      candidate.approval.authorization = some authorization ∧
      BindingAgrees authorization candidate.approval candidate.toolCall := by
  obtain ⟨expiresAt, expires⟩ := Option.isSome_iff_exists.mp dated
  obtain ⟨id, versionHash⟩ := stored_identity stored
  have versioned : nonEmpty toolCall.policyVersionHash = some submission.policy.versionHash := by
    rw [versionHash, nonEmpty, Option.filter_some, if_pos]
    exact decide_eq_true (digests _)
  obtain ⟨candidate, built⟩ := candidate_built expires versioned
  obtain ⟨authorization, authorized, rfl⟩ := candidate_shape built
  have records := pendingApproval_records stored rule resolvedRecipients approvalId nonce
  obtain ⟨⟨envelopeText, envelopeHash⟩, ⟨inputText, inputHash⟩⟩ :=
    actionEnvelope_digests submission
  have names : PendingNamed (submission.pendingApproval config toolCall rule resolvedRecipients
      approvalId nonce) :=
    { actor := named.actor
      workspace := named.workspace
      toolCall := id ▸ named.toolCall
      approval := named.approval
      nonce := named.nonce
      envelopeHash := envelopeHash ▸ digests envelopeText
      inputHash := inputHash ▸ digests inputText
      digests := digests }
  exact ⟨_, authorization, built, rfl, authorized.agrees records (authorized.valid records names)⟩

/-- The authorization a required approval is published with is valid and agrees with the
published records, and no authorization of its hash agrees with later records unless it
is the same and everything it is bound to is what it was at publication. -/
theorem published_authorization_exact (injective : Function.Injective sha256Hex)
    (digests : ∀ text : String, sha256Hex text ≠ "") {submission : Submission}
    {config : GateConfig} {toolCall : ToolCallRecord}
    (stored : submission.toolCall config = .ok toolCall)
    (required : toolCall.decision = some .requireApproval) (rule : PolicyRule)
    (resolvedRecipients : Option (List String)) {approvalId nonce : String}
    (named : SubmissionNamed submission config approvalId nonce)
    (dated : ((submission.pendingApproval config toolCall rule resolvedRecipients approvalId
      nonce).expiresAt config).isSome = true) :
    ∃ candidate authorization,
      buildPendingApprovalCandidate config (submission.pendingApproval config toolCall rule
        resolvedRecipients approvalId nonce) = .ok candidate ∧
      candidate.approval.authorization = some authorization ∧
      isValidApprovalAuthorization authorization = true ∧
      approvalAuthorizationMismatch authorization candidate.approval candidate.toolCall = none ∧
      ∀ (later : ApprovalAuthorizationV1) (approval : ApprovalRecord)
        (laterToolCall : ToolCallRecord),
        later.authorizationHash = authorization.authorizationHash →
        approvalAuthorizationMismatch later approval laterToolCall = none →
        later = authorization ∧ laterToolCall.decision = some .requireApproval ∧
          BoundFieldsKept candidate approval laterToolCall := by
  obtain ⟨candidate, authorization, built, published, agrees⟩ :=
    published_agrees digests stored named dated
  refine ⟨candidate, authorization, built, published, agrees.valid, agrees.no_mismatch, ?_⟩
  intro later approval laterToolCall sameHash clean
  have laterAgrees := bindingAgrees_of_no_mismatch clean
  have same : later = authorization :=
    authorization_of_hash injective (hash_of_valid laterAgrees.valid) (hash_of_valid agrees.valid)
      sameHash
  have kept := boundFieldsKept injective agrees laterAgrees
    (congrArg ApprovalAuthorizationV1.binding same)
  obtain ⟨_, authorized, rfl⟩ := candidate_shape built
  exact ⟨same, kept.outcome.trans required, kept⟩

end

private def gatedPolicy : PolicyFile :=
  { version := JsonNumber.ofDigit 1 Nat.one_ne_zero
    default := PolicyRule.plain .required
    tools := KeyedTable.empty }

private def gatedConfig : GateConfig :=
  { policyProvider := some (@createYamlPolicyProvider (sampleRuntime []) gatedPolicy
      (some (String.ofList (List.replicate 64 'a'))) none)
    workspaceId := none
    receiptSigningSecret := none
    localExecutionDisabled := false
    tools := fun _ => none
    approvalAuthorizationTtlMs := none }

private def gatedSubmission : Submission :=
  { request :=
      { toolName := "payments.send"
        input := [("amount", some (.num (JsonNumber.ofInt 5000)))]
        requestedBy := "agent"
        agentId := "agent"
        reason := "Refund."
        action := none
        metadata := none }
    options :=
      { auth := none
        forceApproval := false
        idempotencyKey := none
        ingress := none }
    prepared := none
    toolCallId := "toolcall_1"
    now := { millis := 0, shown := epoch_shown }
    policy := gatedPolicy
    listContentExposures := fun _ => none
    approverResolution := .null }

private def gatedApproval [Runtime] (toolCall : ToolCallRecord) : PendingApprovalInput :=
  gatedSubmission.pendingApproval gatedConfig toolCall (PolicyRule.plain .required) none
    "approval_1" "nonce_1"

private theorem gated_named : SubmissionNamed gatedSubmission gatedConfig "approval_1" "nonce_1" :=
  { actor := by decide
    workspace := by decide
    toolCall := by decide
    approval := by decide
    nonce := by decide }

private theorem gated_dated [Runtime] (toolCall : ToolCallRecord) :
    ((gatedApproval toolCall).expiresAt gatedConfig).isSome = true :=
  show (IsoTime.toISOString (24 * 60 * 60 * 1000)).isSome = true by decide

private theorem gated_stored :
    ∃ toolCall, @Submission.toolCall (sampleRuntime []) gatedSubmission gatedConfig =
        .ok toolCall ∧
      toolCall.decision = some .requireApproval ∧ toolCall.toolName = "payments.send" ∧
      toolCall.input = gatedSubmission.request.input ∧ toolCall.contentInfluence = none := by
  let _ := sampleRuntime []
  obtain ⟨toolCall, stored⟩ :=
    @stored_of_unprepared (sampleRuntime []) gatedSubmission gatedConfig rfl
  obtain ⟨canonical, context, normalized, read, rfl⟩ := stored_shape stored
  have legacy : canonical = none :=
    (Except.ok.inj ((canonical_ok _ _).symm.trans normalized)).symm
  subst legacy
  refine ⟨_, stored, ?_⟩
  unfold withheldFromStart
  split
  · exact ⟨rfl, rfl, rfl, rfl⟩
  · exact ⟨rfl, rfl, rfl, rfl⟩

theorem published_authorization_exact_payment :
    ∃ toolCall candidate authorization,
      @Submission.toolCall (sampleRuntime []) gatedSubmission gatedConfig = .ok toolCall ∧
      @buildPendingApprovalCandidate (sampleRuntime []) gatedConfig
          (@gatedApproval (sampleRuntime []) toolCall) = .ok candidate ∧
      candidate.approval.authorization = some authorization ∧
      @isValidApprovalAuthorization (sampleRuntime []) authorization = true ∧
      @approvalAuthorizationMismatch (sampleRuntime []) authorization candidate.approval
          candidate.toolCall = none ∧
      ∀ (later : ApprovalAuthorizationV1) (approval : ApprovalRecord)
        (laterToolCall : ToolCallRecord),
        later.authorizationHash = authorization.authorizationHash →
        @approvalAuthorizationMismatch (sampleRuntime []) later approval laterToolCall = none →
        later = authorization ∧ laterToolCall.decision = some .requireApproval ∧
          @BoundFieldsKept (sampleRuntime []) candidate approval laterToolCall := by
  obtain ⟨toolCall, stored, required, _⟩ := gated_stored
  obtain ⟨candidate, authorization, exact⟩ :=
    @published_authorization_exact (sampleRuntime []) (knownDigest_injective (by decide) (by decide))
      (knownDigest_ne_empty (by decide)) _ _ _ stored required (PolicyRule.plain .required) none
      "approval_1" "nonce_1" gated_named
      (@gated_dated (sampleRuntime []) _)
  exact ⟨toolCall, candidate, authorization, stored, exact⟩

/-- Evidence of content that nothing was published of. -/
private def laterEvidence : ContentInfluenceEvidenceV1 :=
  { baseDecision := .requireApproval
    bindingHash := ""
    effectiveDecision := .requireApproval
    evaluatedAt := ""
    exposureRevision := 1
    exposureSnapshotHash := ""
    influenceScope := { id := none, verified := false }
    observedSources := [some .publicUntrusted]
    policy := { versionHash := "", versionId := none }
    selectedRule := { allowFrom := [none], otherwise := .required, narrows := nofun }
    sourceCount := 1
    sourceCountIsLowerBound := false
    sourceReferences := []
    version := "" }

/-- An agreement says nothing of the tool, the input and the content evidence that a later
record states beside its hashes. -/
theorem published_authorization_other_action :
    ∃ candidate authorization,
      (∃ toolCall, @Submission.toolCall (sampleRuntime []) gatedSubmission gatedConfig =
          .ok toolCall ∧
        @buildPendingApprovalCandidate (sampleRuntime []) gatedConfig
          (@gatedApproval (sampleRuntime []) toolCall) = .ok candidate) ∧
      candidate.approval.authorization = some authorization ∧
      ∃ later : ToolCallRecord,
        @approvalAuthorizationMismatch (sampleRuntime []) authorization candidate.approval later =
          none ∧
        later.toolName ≠ candidate.toolCall.toolName ∧
        later.input.length ≠ candidate.toolCall.input.length ∧
        later.contentInfluence.isSome ≠ candidate.toolCall.contentInfluence.isSome := by
  let _ := sampleRuntime []
  obtain ⟨toolCall, stored, _, toolName, input, influence⟩ := gated_stored
  obtain ⟨candidate, authorization, built, published, agrees⟩ :=
    @published_agrees (sampleRuntime []) (knownDigest_ne_empty (by decide)) _ _ _ stored
      (PolicyRule.plain .required) none "approval_1" "nonce_1" gated_named
      (@gated_dated (sampleRuntime []) _)
  refine ⟨candidate, authorization, ⟨toolCall, stored, built⟩, published,
    { candidate.toolCall with
      toolName := "files.delete", input := [], contentInfluence := some laterEvidence },
    agrees.no_mismatch, ?_⟩
  obtain ⟨_, _, rfl⟩ := candidate_shape built
  change "files.delete" ≠ toolCall.toolName ∧ 0 ≠ toolCall.input.length ∧
    true ≠ toolCall.contentInfluence.isSome
  rw [toolName, input, influence]
  decide

end ActionProxy
