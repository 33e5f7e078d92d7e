import ActionProxy.Services.ReportOutcome
import ActionProxy.Storage.ExternalAtomicity

/-!
The recording of a prepared action's outcome. What a report builds to be recorded is
checked again by the store, field by field; which of the reports that have passed their
own checks pass these as well.
-/

namespace ActionProxy

open JsonText Interleaving

section

variable [Runtime]

/-- `assertKnownExternalExecutionOutcomeRecordingCandidate` does not throw. -/
def AssertionPasses (input : AtomicKnownExternalExecutionOutcomeRecordingInput) : Prop :=
  ∃ resultDiffers, recordedResultDiffers input = .ok resultDiffers ∧
    mismatchNames (recordingChecks input resultDiffers) = []

/-! ### What a report builds -/

omit [Runtime] in
theorem lookup_withoutMembers (name : String) (members : JsonObject) :
    (definedMembers (withoutMembers [name] members)).lookup name = none := by
  apply List.lookup_eq_none_iff.mpr
  rintro ⟨key, value⟩ member
  obtain ⟨_, kept⟩ := List.mem_filter.mp (mem_of_mem_definedMembers member)
  apply bne_iff_ne.mpr
  rintro rfl
  simp only [List.contains_cons, beq_self_eq_true, Bool.true_or, Bool.not_true] at kept
  cases kept

omit [Runtime] in
/-- The result of a tool call holds the outcome that was put into it, and no other. -/
theorem outcome_of_resultWithOutcome (stored : Option Json) (outcome : JsonObject) :
    field? (resultWithOutcome stored outcome) "externalExecutionOutcome" =
      some (.obj outcome) := by
  have added : ∀ kept : JsonObject,
      (definedMembers kept).lookup "externalExecutionOutcome" = none →
        member? (kept ++ [("externalExecutionOutcome", some (.obj outcome))])
          "externalExecutionOutcome" = some (.obj outcome) := by
    intro kept absent
    unfold member? definedMembers
    rw [List.filterMap_append, List.lookup_append]
    change ((definedMembers kept).lookup _).or _ = _
    rw [absent]
    rfl
  apply added
  split
  · exact lookup_withoutMembers _ _
  · rfl

variable {report : CheckedReport} {records : ReportedRecords}

omit [Runtime] in
theorem succeededResult_of_status {input : ReportExecutionGrantOutcomeInput}
    (succeeded : input.status = .succeeded) :
    input.succeededResult = some (input.result.getD okResult) := if_pos succeeded

theorem recorded_result_agrees (auth : AuthContext) (now : String)
    (reported : report.input.status = .succeeded ∨ report.input.status = .failed) :
    recordedResultDiffers (report.recordingInput auth now records) = .ok false := by
  have status : (report.recordingInput auth now records).attemptOutcome.status =
      attemptStateForReport report.input.status := rfl
  unfold recordedResultDiffers
  rw [status]
  rcases reported with succeeded | failed
  · have received : (report.recordingInput auth now records).receiptOutcome.result =
        some (report.input.result.getD okResult) := succeededResult_of_status succeeded
    have stored : (report.recordingInput auth now records).toolCall.result =
        some (resultWithOutcome records.toolCall.result (report.input.result.getD okResult)) := by
      show (report.terminalToolCall records.toolCall now).result = _
      unfold CheckedReport.terminalToolCall
      rw [succeededResult_of_status succeeded]
    have told : externalExecutionOutcome (report.recordingInput auth now records).toolCall =
        some (.obj (report.input.result.getD okResult)) := by
      unfold externalExecutionOutcome resultMember
      rw [stored]
      exact outcome_of_resultWithOutcome _ _
    have completes : attemptStateForReport report.input.status = .succeeded := by
      rw [succeeded]
      rfl
    rw [if_pos completes, told, received]
    show Except.ok (_ != _) = _
    rw [bne_self_eq_false]
  · rw [failed]
    rfl

/-! ### Which reports are recorded -/

/-- A prepared action is reported on with the server's own authorization, which names the
intent. -/
theorem PassesChecks.intended {service : ReportService} {input : ReportExecutionGrantOutcomeInput}
    {auth : AuthContext} {continuation : OutcomeContinuation}
    (passes : PassesChecks service input auth continuation records report)
    (prepared : isPrepared records.toolCall = true) :
    (preparedActionText records.toolCall "intentHash").isSome := by
  have continued := passes.continued
  unfold continuationFailure at continued
  split at continued
  · split at continued
    · cases continued
    · rename_i named
      rw [named]
      rfl
  · rw [if_pos prepared] at continued
    cases continued

/-- The records that a report is checked against lie in one workspace, and the stored hash
of the input is the hash of the input. -/
theorem PassesChecks.consistent {service : ReportService}
    {input : ReportExecutionGrantOutcomeInput} {auth : AuthContext}
    {continuation : OutcomeContinuation}
    (passes : PassesChecks service input auth continuation records report) :
    records.toolCall.workspace = records.attempt.workspaceId ∧
      records.toolCall.hashOfInput = hashJson (.obj records.toolCall.input) := by
  obtain ⟨workspace, -, -, hashed⟩ := currentToolCall_matched passes.current
  have bound := passes.bound
  simp only [attemptMatchesGrant, Bool.and_eq_true, beq_iff_eq, and_assoc] at bound
  obtain ⟨-, -, -, -, attemptWorkspace, -⟩ := bound
  exact ⟨workspace.trans attemptWorkspace.symm, hashed⟩

/-- The outcome of a report that has passed its checks is recorded exactly when the report
does not give a result to a failure and the records have the texts that the store asks
for. -/
theorem recording_candidate_passes_iff {service : ReportService}
    {input : ReportExecutionGrantOutcomeInput} {auth : AuthContext}
    {continuation : OutcomeContinuation}
    (passes : PassesChecks service input auth continuation records report)
    (prepared : recordsPreparedOutcome report records.toolCall = true) (now : String) :
    AssertionPasses (report.recordingInput auth now records) ↔
      (input.status = .succeeded ∨ input.result = none) ∧
        records.attempt.id ≠ "" ∧ records.attempt.reservationOwner ≠ "" ∧
        (nonEmpty records.toolCall.inputHash).isSome ∧
        (preparedActionText records.toolCall "intentId").isSome := by
  obtain ⟨sameStatus, sameResult⟩ := checkReport_ok passes.checked
  obtain ⟨workspace, hashed⟩ := passes.consistent
  simp only [recordsPreparedOutcome, Bool.and_eq_true, Bool.or_eq_true, beq_iff_eq] at prepared
  have intended := passes.intended prepared.1
  have assertion : AssertionPasses (report.recordingInput auth now records) ↔
      ∀ check ∈ recordingChecks (report.recordingInput auth now records) false,
        check.1 = false := by
    rw [← mismatchNames_eq_nil_iff]
    unfold AssertionPasses
    rw [recorded_result_agrees auth now prepared.2]
    simp
  rw [assertion, ← sameStatus, ← sameResult]
  have workspaceAgrees : ((report.recordingInput auth now records).toolCall.workspace !=
      (report.recordingInput auth now records).workspaceId) = false :=
    bne_eq_false_iff_eq.mpr workspace
  have inputHashed : toolCallInputHashFails (report.recordingInput auth now records).toolCall =
      (nonEmpty records.toolCall.inputHash).isNone := by
    change toolCallInputHashFails records.toolCall = _
    unfold toolCallInputHashFails
    unfold ToolCallRecord.hashOfInput at hashed
    cases stored : records.toolCall.inputHash with
    | none => rfl
    | some inputHash =>
        rw [stored] at hashed
        rw [← hashed]
        simp
  have preparedText : ∀ name, nonEmpty
      (((report.recordingInput auth now records).toolCall.actionEnvelope.bind
        ActionEnvelope.preparedAction).bind fun prepared =>
          (member? prepared name).bind asString?) = preparedActionText records.toolCall name :=
    fun _ => rfl
  simp only [recordingChecks, List.forall_mem_cons, workspaceAgrees, inputHashed, preparedText]
  rcases prepared.2 with succeeded | failed
  · simp [CheckedReport.recordingInput, CheckedReport.attemptOutcome,
      CheckedReport.receiptOutcome, CheckedReport.terminalToolCall, executionAttemptOutcome,
      legacyOutcomeForReport, succeeded, attemptStateForReport, intended,
      ReportExecutionGrantOutcomeInput.succeededResult]
  · simp [CheckedReport.recordingInput, CheckedReport.attemptOutcome,
      CheckedReport.receiptOutcome, CheckedReport.terminalToolCall, executionAttemptOutcome,
      legacyOutcomeForReport, failed, attemptStateForReport, intended,
      ReportExecutionGrantOutcomeInput.succeededResult,
      ReportExecutionGrantOutcomeInput.succeededRemediation]
    have unhashed : hashOptional (report.input.result.map .obj) = hashOptional none ↔
        report.input.result = none := by
      cases report.input.result with
      | none => simp [hashOptional]
      | some result => simp [hashOptional]
    rw [unhashed]
    tauto

/-- What the assertion refuses is recorded nowhere. -/
theorem recording_refused {store : MemoryStore}
    {recording : AtomicKnownExternalExecutionOutcomeRecordingInput}
    (refused : ¬ AssertionPasses recording) :
    ∃ message, store.recordKnownExternalExecutionOutcomeAtomically recording =
      (.error message, store) := by
  unfold MemoryStore.recordKnownExternalExecutionOutcomeAtomically
  cases compared : recordedResultDiffers recording with
  | error thrown => exact ⟨thrown, rfl⟩
  | ok resultDiffers =>
      have mismatched : mismatchNames (recordingChecks recording resultDiffers) ≠ [] :=
        fun sound => refused ⟨resultDiffers, compared, sound⟩
      exact ⟨_, if_pos mismatched⟩

end

/-! ### A prepared transfer -/

section

variable [Runtime]

private def transferEnvelope : ActionEnvelope :=
  let envelope : ActionEnvelope :=
    { envelopeHash := ""
      executionMode := .externalGrant
      input := []
      inputHash := hashJson (.obj [])
      preparedAction := some
        [("intentHash", some (.str "intent")), ("intentId", some (.str "intent_1"))]
      body := [("toolName", some (.str "transfer"))] }
  { envelope with envelopeHash := hashJson envelope.withoutHash }

private def transferCall : ToolCallRecord :=
  { id := "toolcall_1"
    workspaceId := some "default"
    toolName := "transfer"
    input := []
    inputHash := some (hashJson (.obj []))
    actionEnvelope := some transferEnvelope
    actionEnvelopeHash := some transferEnvelope.envelopeHash
    canonicalActionRequestHash := none
    canonicalActionRequestVersion := none
    canonicalDecisionInputHash := none
    canonicalPolicyContext := none
    contentInfluence := none
    influenceScopeId := none
    requestedBy := "agent"
    requestedByAuth := none
    agentId := "agent"
    reason := "transfer"
    metadata := []
    status := .authorized
    decision := some .requireApproval
    authorizationDecision := some .requireApproval
    authorizationReason := none
    decisionTrace := none
    policyReason := none
    policyVersionId := none
    policyVersionHash := some "policy"
    resultDelivery := none
    resultSource := none
    resultWithheld := none
    risk := none
    result := none
    error := none
    createdAt := "2026-07-10T10:00:00.000Z"
    updatedAt := "2026-07-10T10:00:00.000Z" }

private def transferReceipt : ActionReceiptRecord :=
  signReceipt "secret"
    { approvalId := some "approval_1"
      approvedEnvelopeHash := transferEnvelope.envelopeHash
      approvedInputHash := hashJson (.obj [])
      createdAt := "2026-07-10T10:00:00.000Z"
      decisionActor := "reviewer"
      decisionAuth := none
      decisionKind := .humanApproval
      executionMode := .externalGrant
      expiresAt := none
      id := "receipt_1"
      issuedAt := "2026-07-10T10:00:00.000Z"
      keyId := "key_1"
      operation := .obj []
      originalEnvelopeHash := transferEnvelope.envelopeHash
      originalInputHash := hashJson (.obj [])
      outcome := none
      policyDecision := some .requireApproval
      policyReason := none
      policyRisk := none
      policyVersionHash := some "policy"
      policyVersionId := none
      protocol := "mcp"
      receiptHash := ""
      reviewHash := none
      signature := ""
      signatureAlg := "hmac-sha256"
      source := .obj []
      toolCallId := "toolcall_1"
      toolName := "transfer"
      version := "actionproxy.receipt.v1"
      workspaceId := "default" }

private def transferGrant : ExecutionGrantRecord :=
  let grant : ExecutionGrantRecord :=
    { id := "grant_1"
      workspaceId := "default"
      toolCallId := "toolcall_1"
      toolName := "transfer"
      inputHash := hashJson (.obj [])
      approvedEnvelopeHash := some transferEnvelope.envelopeHash
      approvedInputHash := some (hashJson (.obj []))
      policyVersionHash := some "policy"
      receiptHash := some transferReceipt.receiptHash
      receiptId := some "receipt_1"
      actor := "agent"
      auth := none
      expiresAt := "2026-07-10T11:00:00.000Z"
      nonce := "nonce"
      signature := ""
      consumedAt := some "2026-07-10T10:01:00.000Z"
      createdAt := "2026-07-10T10:00:00.000Z" }
  { grant with signature := signGrant "secret" grant }

private def transferAttempt : ExecutionAttemptRecordV1 :=
  { attemptNumber := 1
    binding :=
      { actionEnvelopeHash := some transferEnvelope.envelopeHash
        approvalAuthorizationHash := some "authorization"
        approvalAuthorizationNonce := some "nonce"
        approvalId := some "approval_1"
        canonicalActionRequestHash := none
        canonicalActionRequestVersion := none
        canonicalDecisionInputHash := none
        contentInfluenceBindingHash := none
        decisionId := none
        decisionVersion := none
        influenceScopeId := none
        policyVersionHash := some "policy"
        receiptHash := some transferReceipt.receiptHash
        receiptId := some "receipt_1"
        resultSourceHash := some (hashOrNull none) }
    completedAt := none
    dispatchedAt := some "2026-07-10T10:01:00.000Z"
    executionMode := .externalGrant
    executorId := externalExecutorId
    grantId := some "grant_1"
    id := "attempt_1"
    inputHash := hashJson (.obj [])
    outcome := none
    providerIdempotency := "none"
    reservedAt := "2026-07-10T10:00:00.000Z"
    reservationOwner := "server"
    retryPolicy := "never_automatic"
    state := .dispatched
    toolCallId := "toolcall_1"
    updatedAt := "2026-07-10T10:01:00.000Z"
    version := "actionproxy.execution-attempt.v1"
    workspaceId := "default" }

private def transferRecords : ReportedRecords :=
  { grant := transferGrant
    toolCall := transferCall
    attempt := transferAttempt
    receipt := some transferReceipt }

private def transferService : ReportService :=
  { secret := "secret"
    preparedNativeWriteRequired := fun _ => true
    nativeExecutionAuthorizations := true }

private def transferAuth : AuthContext :=
  { principalId := "executor"
    principalType := .serviceAccount
    displayName := "Executor"
    email := none
    groups := []
    scopes := []
    authProvider := .apiKey
    clientId := none
    workspaceId := "default" }

private def transferContinuation : OutcomeContinuation :=
  { nativeExecutionAuthorization := some fun _ => .consumed
    wrapperSessionId := none }

private def transferReport (status : ReportedStatus) : ReportExecutionGrantOutcomeInput :=
  { error := if status = .failed then some "The account is closed." else none
    remediation := none
    result := some [("accountId", some (.str "account_1"))]
    resultDelivery := none
    status := status }

private def transferChecked (status : ReportedStatus) : CheckedReport :=
  { input := transferReport status
    resultDelivery := none }

private theorem transfer_passes {status : ReportedStatus} :
    PassesChecks transferService (transferReport status) transferAuth transferContinuation
      transferRecords (transferChecked status) := by
  constructor
  · have signed : ¬ transferRecords.grant.signature ≠
        signGrant transferService.secret transferRecords.grant := not_not.mpr rfl
    exact if_neg signed
  · rfl
  · simp [attemptMatchesGrant, transferRecords, transferAttempt, transferGrant,
      externalExecutorId]
  · rfl
  · have decided : grantDecisionIdentity transferCall = none := rfl
    have hashed : transferCall.hashOfInput = hashJson (.obj []) := rfl
    have enveloped : transferEnvelope.envelopeHash = hashJson transferEnvelope.withoutHash := rfl
    have unbound : validContentInfluenceBindingHash transferCall.contentInfluence = none := rfl
    have classified : (requiresMcpResultDelivery transferCall &&
      transferCall.status == .authorized && transferCall.resultWithheld != some true) = false := rfl
    have named : envelopeMember transferCall "toolName" = some "transfer" := rfl
    have bound : transferAttempt.binding.resultSourceHash =
      some (hashOrNull transferCall.resultSource) := rfl
    show currentToolCallMismatch transferCall transferAttempt transferGrant false = none
    unfold currentToolCallMismatch
    simp only [Option.orElse_eq_orElse, Option.orElse_eq_or, Option.or_eq_none_iff]
    refine ⟨?_, ?_, ?_⟩
    · rw [classified, hashed]
      exact firstFailure_eq_none_iff.mpr (by simp [transferCall, transferGrant, transferAttempt,
        statusMismatch, ToolCallRecord.workspace])
    · show firstFailure _ = none
      rw [named, hashed, enveloped]
      exact firstFailure_eq_none_iff.mpr (by simp [transferCall, transferEnvelope])
    · rw [decided, unbound, bound]
      exact firstFailure_eq_none_iff.mpr (by simp [transferCall, transferAttempt])
  · rfl
  · intro _
    have verified : verifyReceipt "secret" transferReceipt = true :=
      verifyReceipt_signed "secret" _ none
    show (firstFailure _).map ServiceError.forbidden = none
    rw [show (!verifyReceipt transferService.secret transferReceipt) = false from
      congrArg (! ·) verified]
    rw [firstFailure_eq_none_iff.mpr (by simp [transferRecords, transferGrant, transferReceipt,
      signReceipt])]
    rfl
  · rfl

private theorem transfer_refused (now : String) : ¬ AssertionPasses
    ((transferChecked .failed).recordingInput transferAuth now transferRecords) := by
  rintro ⟨resultDiffers, -, sound⟩
  have hashes := mismatchNames_eq_nil_iff.mp sound
    (some (hashJson (.obj [("accountId", some (.str "account_1"))])) != none, "result_hash")
    (List.mem_of_getElem? (i := 14) rfl)
  cases hashes

end

/-- A transfer was declined after it was dispatched, and the report says with what result:
it passes every check of a report, and what it builds to be recorded is refused. -/
theorem recording_candidate_refused :
    @PassesChecks (sampleRuntime []) transferService (transferReport .failed) transferAuth
      transferContinuation (@transferRecords (sampleRuntime [])) (transferChecked .failed) ∧
    recordsPreparedOutcome (transferChecked .failed)
      (@transferRecords (sampleRuntime [])).toolCall = true ∧
    ¬ @AssertionPasses (sampleRuntime [])
      (@CheckedReport.recordingInput (sampleRuntime []) (transferChecked .failed) transferAuth
        "2026-07-10T10:02:00.000Z" (@transferRecords (sampleRuntime []))) :=
  ⟨@transfer_passes (sampleRuntime []) .failed, rfl, @transfer_refused (sampleRuntime []) _⟩

/-- The same transfer, when it is reported as done. -/
theorem recording_candidate_passes_transfer :
    @AssertionPasses (sampleRuntime [])
      (@CheckedReport.recordingInput (sampleRuntime []) (transferChecked .succeeded) transferAuth
        "2026-07-10T10:02:00.000Z" (@transferRecords (sampleRuntime []))) := by
  let _ := sampleRuntime []
  apply (recording_candidate_passes_iff (@transfer_passes _ .succeeded) rfl _).mpr
  refine ⟨Or.inl rfl, by decide, by decide, ?_, by decide⟩
  exact Option.isSome_iff_exists.mpr ⟨"#\x7b\x7d", by decide +kernel⟩

end ActionProxy
