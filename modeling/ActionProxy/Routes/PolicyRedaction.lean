import ActionProxy.Routes.Projections
import ActionProxy.Security.RedactionPaths

/-!
Which policy the routes redact by. The options are derived from the policy the
server starts with and given to every route; a policy that is put in its place
changes what calls are decided by, and not the options.
-/

namespace ActionProxy

open JsonText

/-! ### The server's policy and its options -/

structure ServerRedaction where
  policy : PolicyFile
  redaction : RedactionOptions

def buildComposedApp (policy : PolicyFile) : ServerRedaction :=
  { policy := policy, redaction := redactionOptionsFromPolicy policy }

/-- `PolicyManager.replacePolicy` with a policy that was accepted. -/
def ServerRedaction.replacePolicy (server : ServerRedaction) (next : PolicyFile) :
    ServerRedaction :=
  { server with policy := next }

/-- The server after policies replaced one another. -/
def serverAfter (first : PolicyFile) (replacements : List PolicyFile) : ServerRedaction :=
  replacements.foldl ServerRedaction.replacePolicy (buildComposedApp first)

/-- The paths that a policy lists, as they are compared. -/
def listedPaths (policy : PolicyFile) : List String :=
  pathSet ((redactionOptionsFromPolicy policy).fields.getD [])

theorem serverAfter_redaction (first : PolicyFile) (replacements : List PolicyFile) :
    (serverAfter first replacements).redaction = redactionOptionsFromPolicy first := by
  have kept : ∀ server : ServerRedaction,
      (replacements.foldl ServerRedaction.replacePolicy server).redaction = server.redaction := by
    induction replacements with
    | nil => exact fun _ => rfl
    | cons next rest ih => exact fun server => ih (server.replacePolicy next)
  exact kept (buildComposedApp first)

/-! ### The objects that projections redact -/

/-- An object of a record, and the path its members are compared below. -/
abbrev RedactionSite := List String × JsonObject

def resultSite : Option Json → List RedactionSite
  | some (.obj members) => [([], members)]
  | _ => []

def ToolCallRecord.sites (toolCall : ToolCallRecord) : List RedactionSite :=
  (["input"], toolCall.input) :: ([], toolCall.metadata) ::
    toolCall.actionEnvelope.toList.map (fun envelope => (["input"], envelope.input)) ++
      resultSite toolCall.result

def ApprovalRecord.sites (approval : ApprovalRecord) : List RedactionSite :=
  (["input"], approval.originalInput) ::
    approval.editedInput.toList.map (fun input => (["input"], input)) ++
      approval.recorded.flatMap (fun decision =>
        decision.editedInput.toList.map (fun input => (["input"], input)))

/-- Every object of the sites has the replacement wherever it has the path. -/
def AllMasked (listed : String) (sites : List RedactionSite) : Prop :=
  ∀ site ∈ sites, Masked site.1 listed site.2

section

variable [Runtime]

/-- What clients read has the replacement at the path. -/
structure ReadsMasked (redaction : RedactionOptions) (listed : String) : Prop where
  toolCalls : ∀ toolCall, AllMasked listed (redactToolCall toolCall redaction).sites
  approvals : ∀ approval, AllMasked listed (redactApproval approval redaction).sites
  auditEvents : ∀ event, Masked [] listed (redactAuditEvent event redaction).data
  results : ∀ result members, safeResult result redaction = some members →
    Masked [] listed members

/-- The answer to a reported outcome has the replacement at the path. -/
def ReportsMasked (listed : String) : Prop :=
  ∀ toolCall, AllMasked listed (reportedToolCall toolCall).sites

/-! ### What redaction does to what is there -/

omit [Runtime] in
theorem at_nil {value found : Json} (located : At value [] found) : found = value := by
  cases located
  rfl

/-- What a redacted value has at a path is the replacement or what was there,
redacted. -/
theorem at_redacted {redactedPaths path rest : List String} {value found : Json}
    (located : At (redactValue redactedPaths redactedText path value) rest found) :
    found = .str redactedText ∨ ∃ original, At value rest original ∧
      found = redactValue redactedPaths redactedText (path ++ rest) original := by
  induction rest generalizing path value with
  | nil =>
      rw [at_nil located]
      exact Or.inr ⟨value, At.here value, by rw [List.append_nil]⟩
  | cons key rest ih =>
      cases value with
      | obj members =>
          rw [redactValue] at located
          cases located with
          | member listed below =>
              obtain ⟨-, ⟨-, rfl⟩ | ⟨-, child, given, rfl⟩⟩ := mem_redactMembers listed
              · exact Or.inl (at_replaced below)
              · refine (ih below).imp_right ?_
                rintro ⟨original, there, rfl⟩
                exact ⟨original, At.member given there, by rw [List.append_assoc]; rfl⟩
      | arr items =>
          rw [redactValue] at located
          cases located with
          | item child below =>
              rw [redactItems_getElem?, Nat.zero_add, Option.map_eq_some_iff] at child
              obtain ⟨item, given, rfl⟩ := child
              refine (ih below).imp_right ?_
              rintro ⟨original, there, rfl⟩
              exact ⟨original, At.item given there, by rw [List.append_assoc]; rfl⟩
      | _ =>
          rw [redactValue] at located
          · cases located
          all_goals simp

theorem again_replaced {redactedPaths rest : List String} {members : JsonObject} {found : Json}
    (replaced : ∀ original, At (.obj members) rest original → original = .str redactedText)
    (located : At (.obj (redactMembers redactedPaths redactedText [] members)) rest found) :
    found = .str redactedText := by
  have whole : At (redactValue redactedPaths redactedText [] (.obj members)) rest found := by
    rw [redactValue]
    exact located
  rcases at_redacted whole with same | ⟨original, there, rfl⟩
  · exact same
  · rw [replaced original there, redactValue]
    all_goals simp

theorem masked_withResult {listed : String} {data result : JsonObject} (masked : Masked [] listed data)
    (there : ("result", some (.obj result)) ∈ data) (redactedPaths : List String) :
    Masked [] listed (withResult data (redactMembers redactedPaths redactedText [] result)) := by
  intro path found located spelled
  cases located with
  | here =>
      cases masked [] _ (At.here _) spelled
  | member inside below =>
      obtain ⟨⟨key, value⟩, given, same⟩ := List.mem_map.mp inside
      dsimp only at same
      split at same
      · rename_i isResult
        cases same
        subst isResult
        exact again_replaced
          (fun original at' => masked _ original (At.member there at') spelled) below
      · cases same
        exact masked _ found (At.member given below) spelled

/-! ### Covered paths and masked reads -/

variable {redactedPaths : List String} {listed : String}

/-- The options of a policy with these paths. -/
def RedactionOptions.Lists (options : RedactionOptions) (redactedPaths : List String) : Prop :=
  pathSet (options.fields.getD []) = redactedPaths ∧ options.replacement = some redactedText

theorem RedactionOptions.Lists.redact {options : RedactionOptions}
    (lists : options.Lists redactedPaths) (members : JsonObject) (path : List String) :
    redactJsonObjectAtPath members path options =
      redactMembers redactedPaths redactedText path members := by
  unfold redactJsonObjectAtPath
  rw [lists.1, lists.2]
  rfl

theorem RedactionOptions.Lists.result {options : RedactionOptions}
    (lists : options.Lists redactedPaths) :
    ∃ more : List String, (∀ path ∈ redactedPaths, path ∈ more) ∧ ∀ members : JsonObject,
      redactToolCallResult members options = redactMembers more redactedText [] members := by
  refine ⟨pathSet (options.fields.getD [] ++ toolCallResultAuthorizationPaths).dedup, ?_, ?_⟩
  · intro path member
    rw [← lists.1] at member
    obtain ⟨text, given, content⟩ := List.mem_filterMap.mp member
    exact List.mem_filterMap.mpr
      ⟨text, List.mem_dedup.mpr (List.mem_append_left _ given), content⟩
  · intro members
    unfold redactToolCallResult redactJsonObject redactJsonObjectAtPath
    dsimp only
    rw [lists.2]
    rfl

theorem redactToolCall_masked {options : RedactionOptions} (lists : options.Lists redactedPaths)
    (inputs : Covered redactedPaths ["input"] listed) (whole : Covered redactedPaths [] listed)
    (toolCall : ToolCallRecord) : AllMasked listed (redactToolCall toolCall options).sites := by
  intro site member
  unfold redactToolCall ToolCallRecord.sites at member
  simp only [List.cons_append, List.mem_cons, List.mem_append, List.mem_map,
    Option.mem_toList] at member
  rcases member with rfl | rfl | ⟨envelope, found, rfl⟩ | result
  · rw [lists.redact]
    exact masked_of_covered inputs _
  · rw [redactJsonObject, lists.redact]
    exact masked_of_covered whole _
  · obtain ⟨envelope, -, rfl⟩ := Option.map_eq_some_iff.mp found
    unfold redactActionEnvelope
    rw [lists.redact]
    exact masked_of_covered inputs _
  · split at result
    · cases result
    · cases shown : toolCall.result with
      | none =>
          rw [shown] at result
          cases result
      | some value =>
          rw [shown] at result
          obtain ⟨more, wider, redacts⟩ := lists.result
          cases value with
          | obj members =>
              rw [Option.map_some] at result
              dsimp only at result
              rw [redacts] at result
              rw [List.mem_singleton.mp result]
              exact masked_of_covered (whole.mono wider) _
          | _ => cases result

theorem redactApproval_masked {options : RedactionOptions} (lists : options.Lists redactedPaths)
    (inputs : Covered redactedPaths ["input"] listed) (approval : ApprovalRecord) :
    AllMasked listed (redactApproval approval options).sites := by
  have input : ∀ original redacted : Option JsonObject,
      redacted = original.map (redactJsonObjectAtPath · ["input"] options) →
        ∀ site ∈ redacted.toList.map (fun input => (["input"], input)),
          Masked site.1 listed site.2 := by
    rintro original - rfl site member
    obtain ⟨members, found, rfl⟩ := List.mem_map.mp member
    obtain ⟨members, -, rfl⟩ := Option.map_eq_some_iff.mp (Option.mem_toList.mp found)
    rw [lists.redact]
    exact masked_of_covered inputs _
  intro site member
  rcases List.mem_append.mp member with first | decided
  · rcases List.mem_cons.mp first with rfl | edited
    · unfold redactApproval
      rw [lists.redact]
      exact masked_of_covered inputs _
    · exact input _ _ rfl site edited
  · obtain ⟨decision, recorded, edited⟩ := List.mem_flatMap.mp decided
    unfold ApprovalRecord.recorded redactApproval at recorded
    cases decisions : approval.decisions with
    | none =>
        rw [decisions] at recorded
        cases recorded
    | some given =>
        rw [decisions] at recorded
        obtain ⟨original, -, rfl⟩ := List.mem_map.mp recorded
        exact input _ _ rfl site edited

theorem redactAuditEvent_masked {options : RedactionOptions} (lists : options.Lists redactedPaths)
    (whole : Covered redactedPaths [] listed) (event : AuditEvent) :
    Masked [] listed (redactAuditEvent event options).data := by
  have masked : Masked [] listed (redactJsonObject event.data options) := by
    rw [redactJsonObject, lists.redact]
    exact masked_of_covered whole _
  unfold redactAuditEvent
  dsimp only
  split
  · split
    · rename_i result found
      exact masked_withResult masked (mem_of_mem_definedMembers (mem_of_lookup found)) _
    · exact masked
  · exact masked

theorem safeResult_masked {options : RedactionOptions} (lists : options.Lists redactedPaths)
    (whole : Covered redactedPaths [] listed) {result : Option Json} {members : JsonObject}
    (safe : safeResult result options = some members) : Masked [] listed members := by
  obtain ⟨value, -, rfl⟩ := Option.map_eq_some_iff.mp safe
  dsimp only
  rw [redactJsonObject, lists.redact]
  exact masked_of_covered whole _

/-- An approval of an input. -/
def approvalOf (input : JsonObject) : ApprovalRecord :=
  { id := "", workspaceId := none, toolCallId := "", status := .pending, requestedBy := ""
    requestedByAuth := none, authorization := none, authorizationConsumedAt := none
    authorizationConsumedReason := none, approvedBy := none, cancelledAt := none
    cancelledBy := none, cancellationReason := none, expiredAt := none, finalizedAt := none
    rejectedBy := none, note := none, rejectionReason := none, originalInput := input
    originalEnvelopeHash := none, originalInputHash := none, editedInput := none
    approvedEnvelopeHash := none, approvedInputHash := none, reviewHash := none
    approverUsers := none, approverGroups := none, requiredApprovals := none
    separationOfDuties := none, supersededAt := none, supersededByApprovalId := none
    decisions := none, createdAt := "", updatedAt := "" }

/-- An audit event with data. -/
def eventOf (data : JsonObject) : AuditEvent :=
  { id := "", type := "", workspaceId := none, toolCallId := none, approvalId := none
    actor := none, auth := none, inputHash := none, policyVersionId := none
    policyVersionHash := none, previousEventHash := none, eventHash := none, timestamp := ""
    data := data }

/-- Reads are masked at a path exactly when it is covered below `input` and from the
top. -/
theorem readsMasked_iff {options : RedactionOptions} (lists : options.Lists redactedPaths) :
    ReadsMasked options listed ↔
      Covered redactedPaths ["input"] listed ∧ Covered redactedPaths [] listed := by
  constructor
  · intro reads
    constructor
    · apply masked_iff_covered.mp
      intro input
      have masked := reads.approvals (approvalOf input) _ List.mem_cons_self
      unfold redactApproval at masked
      rw [lists.redact] at masked
      exact masked
    · apply masked_iff_covered.mp
      intro data
      have masked := reads.auditEvents (eventOf data)
      unfold redactAuditEvent at masked
      rw [redactJsonObject, lists.redact] at masked
      exact masked
  · rintro ⟨inputs, whole⟩
    exact
      { toolCalls := redactToolCall_masked lists inputs whole
        approvals := redactApproval_masked lists inputs
        auditEvents := redactAuditEvent_masked lists whole
        results := fun _ _ safe => safeResult_masked lists whole safe }

/-- A tool call with metadata, whose input is empty. -/
def toolCallOf (metadata : JsonObject) : ToolCallRecord :=
  { id := "", workspaceId := none, toolName := "", input := [], inputHash := none
    actionEnvelope := none, actionEnvelopeHash := none, canonicalActionRequestHash := none
    canonicalActionRequestVersion := none, canonicalDecisionInputHash := none
    canonicalPolicyContext := none, contentInfluence := none, influenceScopeId := none
    requestedBy := "", requestedByAuth := none, agentId := "", reason := "", metadata := metadata
    status := .authorized, decision := none, authorizationDecision := none
    authorizationReason := none, decisionTrace := none, policyReason := none
    policyVersionId := none, policyVersionHash := none, resultDelivery := none
    resultSource := none, resultWithheld := none, risk := none, result := none, error := none
    createdAt := "", updatedAt := "" }

/-- The answer to a reported outcome masks no path: inputs and metadata are as they are
stored. -/
theorem not_reportsMasked (listed : String) : ¬ ReportsMasked listed := by
  intro masked
  have metadata := masked (toolCallOf [(listed, some .null)]) ([], [(listed, some .null)])
    (List.mem_cons_of_mem _ List.mem_cons_self)
  cases metadata [listed] .null (At.member List.mem_cons_self (At.here _)) rfl

omit [Runtime] in
theorem listed_options (policy : PolicyFile) :
    (redactionOptionsFromPolicy policy).Lists (listedPaths policy) := ⟨rfl, rfl⟩

/-- After any replacements, reads mask the paths of the policy in force exactly when
the policy the server started with covers them; the answer to a reported outcome masks
them only when there are none. -/
theorem redaction_follows_policy_iff (first : PolicyFile) (replacements : List PolicyFile) :
    ((∀ listed ∈ listedPaths (serverAfter first replacements).policy,
        ReadsMasked (serverAfter first replacements).redaction listed) ↔
      ∀ listed ∈ listedPaths (serverAfter first replacements).policy,
        Covered (listedPaths first) ["input"] listed ∧ Covered (listedPaths first) [] listed) ∧
    ((∀ listed ∈ listedPaths (serverAfter first replacements).policy, ReportsMasked listed) ↔
      listedPaths (serverAfter first replacements).policy = []) := by
  rw [serverAfter_redaction]
  refine ⟨forall₂_congr (fun listed _ => readsMasked_iff (listed_options first)), ?_⟩
  rw [List.eq_nil_iff_forall_not_mem]
  exact forall₂_congr (fun listed _ => iff_false_intro (not_reportsMasked listed))

end

/-! ### A field listed after the start -/

private def withoutFields : PolicyFile :=
  { version := JsonNumber.ofInt 1, default := PolicyRule.plain .required, tools := KeyedTable.empty }

private def listingBody : PolicyFile :=
  { withoutFields with
    default :=
      { PolicyRule.plain .required with
        redaction := some { fields := some ["input.body"], replacement := none } } }

/-- The names of the example are in lower case. -/
private abbrev redactionRuntime : Runtime :=
  { sampleRuntime [] with toLowerCase := fun text => text }

/-- The body of the input is shown although the policy in force lists it. -/
theorem later_field_is_shown :
    withoutFields.accepted = true ∧ listingBody.accepted = true ∧
      ∃ listed ∈ listedPaths (serverAfter withoutFields [listingBody]).policy,
        ¬ @ReadsMasked redactionRuntime (serverAfter withoutFields [listingBody]).redaction
          listed := by
  refine ⟨by decide, by decide, "input.body", by decide, ?_⟩
  rw [serverAfter_redaction]
  intro reads
  have inputs := ((@readsMasked_iff redactionRuntime _ _ _ (listed_options withoutFields)).mp
    reads).1
  rcases inputs ["body"] (by decide) with (proto | sensitive) | below
  · exact absurd proto (by decide)
  · exact absurd sensitive (by decide)
  · exact below

end ActionProxy
