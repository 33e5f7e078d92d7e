import ActionProxy.Storage.ExternalOutcomes

/-!
Publication, adoption and recording as all-or-nothing steps: when one writes, what
it leaves stored, and what the same input does right after.
-/

namespace ActionProxy

open JsonText

/-! ### What an operation leaves -/

/-- The four records name each other, and repeat one input, envelope and policy. -/
structure MutuallyBound (records : ExternalRecords) : Prop where
  attempt_workspace : records.attempt.workspaceId = records.toolCall.workspace
  grant_workspace : records.grant.workspaceId = records.toolCall.workspace
  receipt_workspace : records.receipt.workspaceId = records.toolCall.workspace
  attempt_toolCall : records.attempt.toolCallId = records.toolCall.id
  grant_toolCall : records.grant.toolCallId = records.toolCall.id
  receipt_toolCall : records.receipt.toolCallId = records.toolCall.id
  attempt_grant : records.attempt.grantId = some records.grant.id
  attempt_receipt : records.attempt.binding.receiptId = some records.receipt.id
  grant_receipt : records.grant.receiptId = some records.receipt.id
  attempt_receiptHash : records.attempt.binding.receiptHash = some records.receipt.receiptHash
  grant_receiptHash : records.grant.receiptHash = some records.receipt.receiptHash
  toolCall_inputHash : records.toolCall.inputHash = some records.attempt.inputHash
  grant_inputHash : records.grant.inputHash = records.attempt.inputHash
  grant_approvedInput : records.grant.approvedInputHash = some records.attempt.inputHash
  receipt_approvedInput : records.receipt.approvedInputHash = records.attempt.inputHash
  toolCall_envelope :
    records.toolCall.actionEnvelopeHash = records.attempt.binding.actionEnvelopeHash
  grant_envelope :
    records.grant.approvedEnvelopeHash = records.attempt.binding.actionEnvelopeHash
  receipt_envelope :
    some records.receipt.approvedEnvelopeHash = records.attempt.binding.actionEnvelopeHash
  attempt_policy : records.attempt.binding.policyVersionHash = records.toolCall.policyVersionHash
  grant_policy : records.grant.policyVersionHash = records.toolCall.policyVersionHash
  receipt_policy : records.receipt.policyVersionHash = records.toolCall.policyVersionHash

/-- Attempt, receipt and tool call tell one outcome, or that there is none yet. -/
def StatusesAgree (records : ExternalRecords) : Prop :=
  let reported := records.receipt.outcome.map ActionReceiptOutcome.status
  if records.attempt.state = .reserved then
    records.attempt.outcome = none ∧ records.grant.consumedAt = none ∧ reported = none ∧
      records.toolCall.status = .authorized
  else
    records.attempt.state.isTerminal = true ∧ records.attempt.state.undecided = false ∧
      records.attempt.outcome.map ExecutionAttemptOutcomeV1.status = some records.attempt.state ∧
      if records.attempt.state = .succeeded then
        reported = some .succeeded ∧ records.toolCall.status = .executed
      else reported = some .failed ∧ records.toolCall.status = .failed

/-- Each record is the one stored under its id. -/
structure StoredIn (store : MemoryStore) (records : ExternalRecords) : Prop where
  attempt : store.executionAttempts.get? records.attempt.id = some records.attempt
  grant : store.executionGrants.get? records.grant.id = some records.grant
  receipt : store.actionReceipts.get? records.receipt.id = some records.receipt
  toolCall : store.toolCalls.get? records.toolCall.id = some records.toolCall

structure Names (result : ExternalResult) (records : ExternalRecords) : Prop where
  attempt : result.attempt = some records.attempt
  grant : result.grant = some records.grant
  receipt : result.receipt = some records.receipt
  toolCall : result.toolCall = some records.toolCall

theorem mismatchNames_eq_nil_iff {checks : List (Bool × String)} :
    mismatchNames checks = [] ↔ ∀ check ∈ checks, check.1 = false := by
  unfold mismatchNames
  rw [List.map_eq_nil_iff, List.filter_eq_nil_iff]
  simp only [Bool.not_eq_true]

inductive ExternalOperation where
  | publish (input : AtomicApprovedExternalAuthorizationPublicationInput)
  | adopt (input : AtomicKnownExternalExecutionOutcomeAdoptionInput)
  | record (input : AtomicKnownExternalExecutionOutcomeRecordingInput)

section

variable [Runtime]

def ExternalOperation.run (store : MemoryStore) :
    ExternalOperation → Except String ExternalResult × MemoryStore
  | .publish input => store.publishApprovedExternalAuthorizationAtomically input
  | .adopt input => store.adoptKnownExternalExecutionOutcomeAtomically input
  | .record input => store.recordKnownExternalExecutionOutcomeAtomically input

/-- The operation answered that it wrote the records. -/
def Succeeded (answer : Except String ExternalResult) : Prop :=
  ∃ result, answer = .ok result ∧ result.outcome.isSuccess = true

/-- What the operation promises in a store: all records or none, bound to each
other, and a replay when it is asked again. -/
structure AtomicAndReplayable (store : MemoryStore) (operation : ExternalOperation) : Prop where
  unchanged : ¬ Succeeded (operation.run store).1 → (operation.run store).2 = store
  bound : ∀ result, (operation.run store).1 = .ok result → result.outcome.isSuccess = true →
    ∃ records, Names result records ∧ StoredIn (operation.run store).2 records ∧
      MutuallyBound records ∧ StatusesAgree records
  replays : Succeeded (operation.run store).1 →
    (operation.run (operation.run store).2).2 = (operation.run store).2 ∧
    ∃ result, (operation.run (operation.run store).2).1 = .ok result ∧ result.outcome = .replay

/-! ### Publication -/

namespace MemoryStore

/-- Everything publication checks, for the approval and the tool call it finds. -/
structure Publishes (store : MemoryStore)
    (input : AtomicApprovedExternalAuthorizationPublicationInput) (approval : ApprovalRecord)
    (toolCall : ToolCallRecord) : Prop where
  sound : mismatchNames (publicationChecks input) = []
  approval_found : store.approvals.get? input.approvalId = some approval
  toolCall_found : store.toolCalls.get? input.toolCall.id = some toolCall
  workspace : toolCall.workspace = input.toolCall.workspace
  attempt_new : store.getExecutionAttemptByToolCallId input.toolCall.workspace toolCall.id = none
  receipt_new : store.actionReceipts.values.find? (fun candidate =>
    candidate.workspaceId == input.toolCall.workspace && candidate.toolCallId == toolCall.id) = none
  grant_new : store.executionGrants.values.find? (fun candidate =>
    candidate.workspaceId == input.toolCall.workspace && candidate.toolCallId == toolCall.id) = none
  approved : approval.status = .approved
  waiting : toolCall.status = .pendingApproval
  current : approvedExternalAuthorizationMatchesCurrent input approval toolCall = true
  attempt_unused : store.executionAttempts.get? input.attempt.id = none
  grant_unused : store.executionGrants.get? input.grant.id = none
  receipt_unused : store.actionReceipts.get? input.receipt.id = none

/-- The answer of a publication that wrote. -/
def publishedResult (input : AtomicApprovedExternalAuthorizationPublicationInput)
    (approval : ApprovalRecord) : ExternalResult :=
  ⟨some approval, some input.attempt, some input.grant, .created, some input.receipt,
    some input.toolCall⟩

theorem Publishes.run {store : MemoryStore}
    {input : AtomicApprovedExternalAuthorizationPublicationInput} {approval : ApprovalRecord}
    {toolCall : ToolCallRecord} (publishes : Publishes store input approval toolCall) :
    store.publishApprovedExternalAuthorizationAtomically input =
      (.ok (publishedResult input approval), store.publish input toolCall.id) := by
  unfold publishApprovedExternalAuthorizationAtomically publishedResult
  simp [publishes.sound, publishes.approval_found, publishes.toolCall_found, publishes.workspace,
    publishes.attempt_new, publishes.receipt_new, publishes.grant_new, publishes.approved,
    publishes.waiting, publishes.current, publishes.attempt_unused, publishes.grant_unused,
    publishes.receipt_unused]

theorem publish_cases (store : MemoryStore)
    (input : AtomicApprovedExternalAuthorizationPublicationInput) :
    (∃ approval toolCall, Publishes store input approval toolCall) ∨
      (¬ Succeeded (store.publishApprovedExternalAuthorizationAtomically input).1 ∧
        (store.publishApprovedExternalAuthorizationAtomically input).2 = store) := by
  unfold publishApprovedExternalAuthorizationAtomically Succeeded
  dsimp only
  split
  · exact Or.inr ⟨by simp, rfl⟩
  rename_i sound
  split
  · rename_i approval toolCall approvalFound toolCallFound
    split
    · exact Or.inr ⟨by simp [ExternalOutcome.isSuccess], rfl⟩
    rename_i workspace
    split
    · refine Or.inr ⟨?_, rfl⟩
      rintro ⟨result, answer, success⟩
      cases answer
      revert success
      dsimp only
      split <;> simp [ExternalOutcome.isSuccess]
    rename_i present
    split
    · exact Or.inr ⟨by simp [ExternalOutcome.isSuccess], rfl⟩
    rename_i statuses
    split
    · exact Or.inr ⟨by simp [ExternalOutcome.isSuccess], rfl⟩
    rename_i current
    split
    · exact Or.inr ⟨by simp [ExternalOutcome.isSuccess], rfl⟩
    rename_i unused
    simp only [not_or, Bool.or_eq_true, Option.isSome_iff_ne_none, ne_eq, not_not] at present unused
    obtain ⟨⟨⟨attemptNew, receiptNew⟩, grantNew⟩, _⟩ := present
    obtain ⟨⟨attemptUnused, grantUnused⟩, receiptUnused⟩ := unused
    have decided : approval.status = .approved ∧ toolCall.status = .pendingApproval := by
      simpa using statuses
    exact Or.inl ⟨approval, toolCall,
      { sound := not_not.mp sound
        approval_found := approvalFound
        toolCall_found := toolCallFound
        workspace := not_not.mp workspace
        attempt_new := attemptNew
        receipt_new := receiptNew
        grant_new := grantNew
        approved := decided.1
        waiting := decided.2
        current := by simpa using current
        attempt_unused := attemptUnused
        grant_unused := grantUnused
        receipt_unused := receiptUnused }⟩
  · exact Or.inr ⟨by simp [ExternalOutcome.isSuccess], rfl⟩

/-- The records a publication brings. -/
def publishedRecords (input : AtomicApprovedExternalAuthorizationPublicationInput) :
    ExternalRecords :=
  ⟨input.attempt, input.grant, input.receipt, input.toolCall⟩

/-- A sound publication binds its records, if the grant and the tool call carry
one policy. -/
theorem publishedRecords_bound {input : AtomicApprovedExternalAuthorizationPublicationInput}
    (sound : mismatchNames (publicationChecks input) = []) :
    (MutuallyBound (publishedRecords input) ↔
        input.grant.policyVersionHash = input.toolCall.policyVersionHash) ∧
      StatusesAgree (publishedRecords input) := by
  have clear := mismatchNames_eq_nil_iff.mp sound
  simp only [publicationChecks, List.forall_mem_cons, bne_eq_false_iff_eq, Bool.or_eq_false_iff,
    Option.isSome_eq_false_iff, Option.isNone_iff_eq_none, beq_eq_false_iff_ne] at clear
  obtain ⟨-, status, -, -, -, -, -, noOutcome, -, receiptWorkspace, receiptToolCall, -,
    receiptInput, receiptEnvelope, grantWorkspace, grantToolCall, -, grantInput, grantApprovedInput,
    grantApprovedEnvelope, grantPolicy, grantReceipt, grantReceiptHash, unconsumed, -, -, reserved,
    -, -, -, -, ⟨⟨noAttemptOutcome, -⟩, -⟩, attemptWorkspace, attemptToolCall, attemptInput,
    attemptGrant, -, attemptReceipt, attemptReceiptHash, attemptEnvelope, -, -, -, attemptPolicy,
    -⟩ := clear
  constructor
  · constructor
    · intro bound
      exact bound.grant_policy
    · intro linked
      have sameInput : input.receipt.approvedInputHash = input.attempt.inputHash :=
        Option.some.inj (receiptInput.trans attemptInput.symm)
      exact
        { attempt_workspace := attemptWorkspace
          grant_workspace := grantWorkspace
          receipt_workspace := receiptWorkspace
          attempt_toolCall := attemptToolCall
          grant_toolCall := grantToolCall
          receipt_toolCall := receiptToolCall
          attempt_grant := attemptGrant
          attempt_receipt := attemptReceipt
          grant_receipt := grantReceipt
          attempt_receiptHash := attemptReceiptHash
          grant_receiptHash := grantReceiptHash
          toolCall_inputHash := attemptInput.symm
          grant_inputHash := Option.some.inj (grantInput.trans attemptInput.symm)
          grant_approvedInput := grantApprovedInput.trans (congrArg some sameInput)
          receipt_approvedInput := sameInput
          toolCall_envelope := attemptEnvelope.symm
          grant_envelope :=
            grantApprovedEnvelope.trans (receiptEnvelope.trans attemptEnvelope.symm)
          receipt_envelope := receiptEnvelope.trans attemptEnvelope.symm
          attempt_policy := attemptPolicy
          grant_policy := linked
          receipt_policy := grantPolicy.symm.trans linked }
  · unfold StatusesAgree publishedRecords
    simp only [reserved, noAttemptOutcome, unconsumed, noOutcome, status, if_true, Option.map_none,
      and_self]

omit [Runtime] in
theorem publishedRecords_stored (store : MemoryStore)
    (input : AtomicApprovedExternalAuthorizationPublicationInput) (toolCallId : String) :
    StoredIn (store.publish input toolCallId) (publishedRecords input) :=
  { attempt := KeyedTable.get?_set_self _ _ _
    grant := KeyedTable.get?_set_self _ _ _
    receipt := KeyedTable.get?_set_self _ _ _
    toolCall := KeyedTable.get?_set_self _ _ _ }

theorem Publishes.sameId {store : MemoryStore}
    {input : AtomicApprovedExternalAuthorizationPublicationInput} {approval : ApprovalRecord}
    {toolCall : ToolCallRecord} (publishes : Publishes store input approval toolCall) :
    toolCall.id = input.toolCall.id := by
  have current := publishes.current
  simp only [approvedExternalAuthorizationMatchesCurrent, Bool.and_eq_true, beq_iff_eq] at current
  exact current.1.1.1.1.1.1.2

/-- The same publication again finds what the first one wrote, unless the attempt
has the empty id, under which its tool call does not find it. -/
theorem Publishes.again {store : MemoryStore}
    {input : AtomicApprovedExternalAuthorizationPublicationInput} {approval : ApprovalRecord}
    {toolCall : ToolCallRecord} (publishes : Publishes store input approval toolCall) :
    (store.publish input toolCall.id).publishApprovedExternalAuthorizationAtomically input =
      (.ok ⟨some approval, if input.attempt.id = "" then none else some input.attempt,
        some input.grant, if input.attempt.id = "" then .conflict else .replay,
        some input.receipt, some input.toolCall⟩, store.publish input toolCall.id) := by
  have clear := mismatchNames_eq_nil_iff.mp publishes.sound
  simp only [publicationChecks, List.forall_mem_cons, bne_eq_false_iff_eq] at clear
  obtain ⟨-, -, -, -, -, -, -, -, -, receiptWorkspace, receiptToolCall, -, -, -, grantWorkspace,
    grantToolCall, -⟩ := clear
  have attemptFound : (store.publish input toolCall.id).getExecutionAttemptByToolCallId
      input.toolCall.workspace input.toolCall.id =
        if input.attempt.id = "" then none else some input.attempt := by
    simp only [getExecutionAttemptByToolCallId, MemoryStore.publish, publishes.sameId,
      KeyedTable.get?_set_self, nonEmpty, Option.filter]
    by_cases empty : input.attempt.id = ""
    · simp [empty]
    · simp [empty]
  have receiptFound : (store.publish input toolCall.id).actionReceipts.values.find?
      (fun candidate => candidate.workspaceId == input.toolCall.workspace &&
        candidate.toolCallId == input.toolCall.id) = some input.receipt := by
    apply KeyedTable.find?_values_set_new publishes.receipt_unused
    · rw [← publishes.sameId]
      exact publishes.receipt_new
    · simp [receiptWorkspace, receiptToolCall]
  have grantFound : (store.publish input toolCall.id).executionGrants.values.find?
      (fun candidate => candidate.workspaceId == input.toolCall.workspace &&
        candidate.toolCallId == input.toolCall.id) = some input.grant := by
    apply KeyedTable.find?_values_set_new publishes.grant_unused
    · rw [← publishes.sameId]
      exact publishes.grant_new
    · simp [grantWorkspace, grantToolCall]
  have toolCallFound : (store.publish input toolCall.id).toolCalls.get? input.toolCall.id =
      some input.toolCall := KeyedTable.get?_set_self _ _ _
  have approvalFound : (store.publish input toolCall.id).approvals.get? input.approvalId =
      some approval := publishes.approval_found
  unfold publishApprovedExternalAuthorizationAtomically
  simp only [publishes.sound, approvalFound, toolCallFound, attemptFound, receiptFound, grantFound,
    ne_eq, not_true_eq_false, if_false, Option.isSome_some, Bool.or_true, Bool.true_or, if_true,
    sameApprovedExternalAuthorizationPublication, Option.any_some, beq_self_eq_true, Bool.and_true]
  split <;> simp

/-! ### Adoption -/

/-- Everything adoption checks, for the records it finds. -/
structure Adopts (store : MemoryStore) (input : AtomicKnownExternalExecutionOutcomeAdoptionInput)
    (current : ExternalRecords) : Prop where
  sound : mismatchNames (adoptionChecks input) = []
  attempt_found : store.executionAttempts.get? input.attemptId = some current.attempt
  toolCall_found : store.toolCalls.get? input.toolCall.id = some current.toolCall
  receipt_found : store.actionReceipts.get? input.receipt.id = some current.receipt
  grant_found : store.attemptGrant current.attempt = some current.grant
  adoptable : externalOutcomeAdoptionState current.attempt = none
  not_adopted : sameKnownExternalOutcomeProjection input current.receipt current.toolCall = false
  matched : knownExternalOutcomeMatchesCurrent input current = .ok true
  compatible : outcomeProjectionCanBeAdopted input current.receipt current.toolCall = true

/-- The records with the outcome adopted. -/
def adoptedRecords (input : AtomicKnownExternalExecutionOutcomeAdoptionInput)
    (current : ExternalRecords) : ExternalRecords :=
  { current with
    receipt := if current.receipt.outcome.isSome then current.receipt else input.receipt
    toolCall := if current.toolCall.status = .authorized then input.toolCall else current.toolCall }

theorem Adopts.run {store : MemoryStore}
    {input : AtomicKnownExternalExecutionOutcomeAdoptionInput} {current : ExternalRecords}
    (adopts : Adopts store input current) :
    store.adoptKnownExternalExecutionOutcomeAtomically input =
      (.ok ((adoptedRecords input current).result .adopted),
        store.adopt (adoptedRecords input current).receipt
          (adoptedRecords input current).toolCall) := by
  unfold adoptKnownExternalExecutionOutcomeAtomically
  simp only [adopts.sound, adopts.attempt_found, adopts.toolCall_found, adopts.receipt_found,
    Option.bind_some, adopts.grant_found, adopts.adoptable, adopts.not_adopted, adopts.matched,
    adopts.compatible, ne_eq, not_true_eq_false, if_false, Bool.false_eq_true, Bool.not_true]
  rfl

theorem adopt_cases (store : MemoryStore)
    (input : AtomicKnownExternalExecutionOutcomeAdoptionInput) :
    (∃ current, Adopts store input current) ∨
      (¬ Succeeded (store.adoptKnownExternalExecutionOutcomeAtomically input).1 ∧
        (store.adoptKnownExternalExecutionOutcomeAtomically input).2 = store) := by
  unfold adoptKnownExternalExecutionOutcomeAtomically Succeeded
  dsimp only
  split
  · exact Or.inr ⟨by simp, rfl⟩
  rename_i sound
  split
  · rename_i attempt toolCall receipt grant attemptFound toolCallFound receiptFound grantFound
    rw [attemptFound, Option.bind_some] at grantFound
    split
    · rename_i disposition state
      refine Or.inr ⟨?_, rfl⟩
      rintro ⟨result, answer, success⟩
      cases answer
      revert success
      unfold externalOutcomeAdoptionState at state
      split at state
      · cases state
        simp [ExternalRecords.result, ExternalOutcome.isSuccess]
      · split at state
        · cases state
          simp [ExternalRecords.result, ExternalOutcome.isSuccess]
        · split at state
          · cases state
          · cases state
            simp [ExternalRecords.result, ExternalOutcome.isSuccess]
    rename_i adoptable
    split
    · exact Or.inr ⟨by simp [ExternalRecords.result, ExternalOutcome.isSuccess], rfl⟩
    rename_i notAdopted
    split
    · exact Or.inr ⟨by simp, rfl⟩
    · exact Or.inr ⟨by simp [ExternalRecords.result, ExternalOutcome.isSuccess], rfl⟩
    · rename_i matched
      split
      · exact Or.inr ⟨by simp [ExternalRecords.result, ExternalOutcome.isSuccess], rfl⟩
      rename_i compatible
      exact Or.inl ⟨⟨attempt, grant, receipt, toolCall⟩,
        { sound := not_not.mp sound
          attempt_found := attemptFound
          toolCall_found := toolCallFound
          receipt_found := receiptFound
          grant_found := grantFound
          adoptable := adoptable
          not_adopted := by simpa using notAdopted
          matched := matched
          compatible := by simpa using compatible }⟩
  · exact Or.inr ⟨by simp [ExternalOutcome.isSuccess], rfl⟩

theorem adoption_matched {input : AtomicKnownExternalExecutionOutcomeAdoptionInput}
    {current : ExternalRecords}
    (matched : knownExternalOutcomeMatchesCurrent input current = .ok true) :
    adoptionBindingsMatch input current = true ∧ ∃ candidate outcome,
      input.receipt.outcome = some candidate ∧ current.attempt.outcome = some outcome ∧
        adoptionOutcomeMatches input outcome candidate (current.attempt.state == .succeeded)
          current.toolCall = true := by
  unfold knownExternalOutcomeMatchesCurrent at matched
  split at matched
  · rename_i candidate outcome candidateFound outcomeFound
    dsimp only at matched
    split at matched
    · cases matched
    split at matched
    · cases matched
    rename_i passes
    have both : adoptionBindingsMatch input current = true ∧
        adoptionOutcomeMatches input outcome candidate (current.attempt.state == .succeeded)
          current.toolCall = true := by
      simpa using passes
    exact ⟨both.1, candidate, outcome, candidateFound, outcomeFound, both.2⟩
  · cases matched

/-- The stored records carry one policy version. -/
def SamePolicyVersion (current : ExternalRecords) : Prop :=
  current.attempt.binding.policyVersionHash = current.toolCall.policyVersionHash ∧
    current.grant.policyVersionHash = current.toolCall.policyVersionHash ∧
    current.receipt.policyVersionHash = current.toolCall.policyVersionHash

/-- The stored receipt and grant carry the input and the envelope of the attempt. -/
def SameApproval (current : ExternalRecords) : Prop :=
  current.receipt.approvedInputHash = current.attempt.inputHash ∧
    current.grant.approvedInputHash = some current.attempt.inputHash ∧
    some current.receipt.approvedEnvelopeHash = current.attempt.binding.actionEnvelopeHash

/-- The adopted records are stored ones, or equal them in everything that binds
them. -/
theorem Adopts.adopted {store : MemoryStore}
    {input : AtomicKnownExternalExecutionOutcomeAdoptionInput} {current : ExternalRecords}
    (adopts : Adopts store input current) :
    (adoptedRecords input current).toolCall = input.toolCall ∧
      (adoptedRecords input current).receipt.id = input.receipt.id ∧
      receiptOutcomeHash (adoptedRecords input current).receipt =
        receiptOutcomeHash input.receipt := by
  obtain ⟨bindings, -⟩ := adoption_matched adopts.matched
  simp only [adoptionBindingsMatch, Bool.and_eq_true, beq_iff_eq] at bindings
  have compatible := adopts.compatible
  simp only [outcomeProjectionCanBeAdopted, Bool.and_eq_true, Bool.or_eq_true, beq_iff_eq]
    at compatible
  have receiptId : current.receipt.id = input.receipt.id := by tauto
  have authorized : current.toolCall.status = .authorized := by tauto
  refine ⟨if_pos authorized, ?_, ?_⟩
  · unfold adoptedRecords
    dsimp only
    split
    · exact receiptId
    · rfl
  · unfold adoptedRecords
    dsimp only
    split
    · rename_i present
      rcases compatible.1 with absent | same
      · rw [Option.isNone_iff_eq_none] at absent
        rw [absent] at present
        cases present
      · exact same
    · rfl

/-- Two families of records that name and hash the same things. -/
structure SameBinding (left right : ExternalRecords) : Prop where
  attempt_workspace : left.attempt.workspaceId = right.attempt.workspaceId
  attempt_toolCall : left.attempt.toolCallId = right.attempt.toolCallId
  attempt_grant : left.attempt.grantId = right.attempt.grantId
  attempt_binding : left.attempt.binding = right.attempt.binding
  attempt_input : left.attempt.inputHash = right.attempt.inputHash
  grant : left.grant = right.grant
  receipt_id : left.receipt.id = right.receipt.id
  receipt_workspace : left.receipt.workspaceId = right.receipt.workspaceId
  receipt_toolCall : left.receipt.toolCallId = right.receipt.toolCallId
  receipt_hash : left.receipt.receiptHash = right.receipt.receiptHash
  receipt_input : left.receipt.approvedInputHash = right.receipt.approvedInputHash
  receipt_envelope : left.receipt.approvedEnvelopeHash = right.receipt.approvedEnvelopeHash
  receipt_policy : left.receipt.policyVersionHash = right.receipt.policyVersionHash
  toolCall_id : left.toolCall.id = right.toolCall.id
  toolCall_workspace : left.toolCall.workspace = right.toolCall.workspace
  toolCall_input : left.toolCall.inputHash = right.toolCall.inputHash
  toolCall_envelope : left.toolCall.actionEnvelopeHash = right.toolCall.actionEnvelopeHash
  toolCall_policy : left.toolCall.policyVersionHash = right.toolCall.policyVersionHash

omit [Runtime] in
theorem SameBinding.symm {left right : ExternalRecords} (same : SameBinding left right) :
    SameBinding right left := by
  cases same
  constructor <;> apply Eq.symm <;> assumption

omit [Runtime] in
theorem SameBinding.bound {left right : ExternalRecords} (same : SameBinding left right)
    (bound : MutuallyBound left) : MutuallyBound right := by
  cases same
  cases bound
  constructor <;> grind

theorem Adopts.sameBinding {store : MemoryStore}
    {input : AtomicKnownExternalExecutionOutcomeAdoptionInput} {current : ExternalRecords}
    (injective : Function.Injective sha256Hex) (adopts : Adopts store input current) :
    SameBinding (adoptedRecords input current) current := by
  obtain ⟨bindings, -⟩ := adoption_matched adopts.matched
  obtain ⟨toolCallIs, receiptId, -⟩ := adopts.adopted
  have clear := mismatchNames_eq_nil_iff.mp adopts.sound
  simp only [adoptionChecks, List.forall_mem_cons, bne_eq_false_iff_eq] at clear
  simp only [adoptionBindingsMatch, Bool.and_eq_true, beq_iff_eq, and_assoc] at bindings
  obtain ⟨-, -, -, -, -, -, -, -, -, -, -, -, -, -, -, sameId, sameToolCall, sameWorkspace,
    receiptSame, toolCallWorkspace, toolCallId, -, -, -, toolCallSame⟩ := bindings
  obtain ⟨-, -, suppliedWorkspace, suppliedToolCall, suppliedCallWorkspace, -⟩ := clear
  obtain ⟨sameInput, sameEnvelope, samePolicy⟩ :=
    toolCall_hashes_of_outcomeSemantics injective toolCallSame
  obtain ⟨receiptEnvelope, receiptInput, receiptHash, receiptPolicy⟩ :=
    receipt_binding_of_hash injective receiptSame
  have receiptIs : (adoptedRecords input current).receipt = current.receipt ∨
      (adoptedRecords input current).receipt = input.receipt := by
    unfold adoptedRecords
    dsimp only
    split
    · exact Or.inl rfl
    · exact Or.inr rfl
  constructor <;> first
    | rfl
    | rcases receiptIs with same | same <;> grind

theorem Adopts.bound_iff {store : MemoryStore}
    {input : AtomicKnownExternalExecutionOutcomeAdoptionInput} {current : ExternalRecords}
    (injective : Function.Injective sha256Hex) (adopts : Adopts store input current) :
    MutuallyBound (adoptedRecords input current) ↔
      SameApproval current ∧ SamePolicyVersion current := by
  have same := adopts.sameBinding injective
  obtain ⟨bindings, -⟩ := adoption_matched adopts.matched
  simp only [adoptionBindingsMatch, Bool.and_eq_true, beq_iff_eq, and_assoc, sameText] at bindings
  obtain ⟨-, attemptWorkspace, attemptToolCall, -, -, attemptGrant, grantWorkspace, grantToolCall,
    -, grantInput, grantReceipt, grantReceiptHash, attemptReceipt, attemptReceiptHash,
    grantEnvelope, -, receiptToolCall, receiptWorkspace, -, toolCallWorkspace, toolCallId, -,
    toolCallInput, -, toolCallEnvelope, -⟩ := bindings
  constructor
  · intro bound
    have stored := same.bound bound
    exact ⟨⟨stored.receipt_approvedInput, stored.grant_approvedInput, stored.receipt_envelope⟩,
      stored.attempt_policy, stored.grant_policy, stored.receipt_policy⟩
  · rintro ⟨⟨receiptInput, grantApprovedInput, receiptEnvelope⟩, attemptPolicy, grantPolicy,
      receiptPolicy⟩
    apply same.symm.bound
    exact
      { attempt_workspace := attemptWorkspace.trans toolCallWorkspace.symm
        grant_workspace := grantWorkspace.trans toolCallWorkspace.symm
        receipt_workspace := receiptWorkspace.trans toolCallWorkspace.symm
        attempt_toolCall := attemptToolCall.trans toolCallId.symm
        grant_toolCall := grantToolCall.trans toolCallId.symm
        receipt_toolCall := receiptToolCall.trans toolCallId.symm
        attempt_grant := attemptGrant
        attempt_receipt := attemptReceipt
        grant_receipt := grantReceipt
        attempt_receiptHash := attemptReceiptHash
        grant_receiptHash := grantReceiptHash
        toolCall_inputHash := toolCallInput
        grant_inputHash := grantInput
        grant_approvedInput := grantApprovedInput
        receipt_approvedInput := receiptInput
        toolCall_envelope := toolCallEnvelope
        grant_envelope := grantEnvelope.symm
        receipt_envelope := receiptEnvelope
        attempt_policy := attemptPolicy
        grant_policy := grantPolicy
        receipt_policy := receiptPolicy }

omit [Runtime] in
/-- An attempt whose outcome can be adopted has ended, and its outcome says how. -/
theorem adoptable_iff {attempt : ExecutionAttemptRecordV1}
    (adoptable : externalOutcomeAdoptionState attempt = none) :
    attempt.state.undecided = false ∧ attempt.state ≠ .reserved ∧
      ∃ outcome, attempt.outcome = some outcome ∧ outcome.known = true ∧
        outcome.status = attempt.state := by
  unfold externalOutcomeAdoptionState at adoptable
  split at adoptable
  · cases adoptable
  rename_i decided
  split at adoptable
  · cases adoptable
  rename_i started
  split at adoptable
  · rename_i known
    refine ⟨by simpa using decided, started, ?_⟩
    cases found : attempt.outcome with
    | none =>
        rw [found] at known
        cases known
    | some outcome =>
        rw [found] at known
        exact ⟨outcome, rfl, by simpa using known⟩
  · cases adoptable

omit [Runtime] in
theorem isTerminal_of_decided {state : ExecutionAttemptState} (decided : state.undecided = false)
    (started : state ≠ .reserved) : state.isTerminal = true := by
  cases state <;> simp_all [ExecutionAttemptState.undecided, ExecutionAttemptState.isTerminal]

theorem status_of_outcomeHash (injective : Function.Injective sha256Hex)
    {left right : ActionReceiptRecord} (same : receiptOutcomeHash left = receiptOutcomeHash right) :
    left.outcome.map ActionReceiptOutcome.status =
      right.outcome.map ActionReceiptOutcome.status := by
  have values := same_of_hashJson_eq injective same
  cases leftFound : left.outcome with
  | none =>
      cases rightFound : right.outcome with
      | none => rfl
      | some supplied =>
          rw [leftFound, rightFound] at values
          cases values
  | some stored =>
      cases rightFound : right.outcome with
      | none =>
          rw [leftFound, rightFound] at values
          cases values
      | some supplied =>
          rw [leftFound, rightFound] at values
          have distinct : ∀ outcome : ActionReceiptOutcome,
              (outcome.members.map Prod.fst).Nodup := by
            intro outcome
            simp only [ActionReceiptOutcome.members, List.map_cons, List.map_nil]
            decide
          have listed : ∀ outcome : ActionReceiptOutcome,
              ("status", some (Json.str outcome.status.text)) ∈ outcome.members := by
            intro outcome
            simp [ActionReceiptOutcome.members]
          have texts : stored.status.text = supplied.status.text :=
            required_eq_of_rel (same_obj_listed values (distinct stored) (distinct supplied)
              (listed stored) (listed supplied))
          rw [Option.map_some, Option.map_some]
          cases storedIs : stored.status <;> cases suppliedIs : supplied.status <;>
            simp_all [ReceiptOutcomeStatus.text]

theorem Adopts.statusesAgree {store : MemoryStore}
    {input : AtomicKnownExternalExecutionOutcomeAdoptionInput} {current : ExternalRecords}
    (injective : Function.Injective sha256Hex) (adopts : Adopts store input current) :
    StatusesAgree (adoptedRecords input current) := by
  obtain ⟨toolCallIs, -, outcomeSame⟩ := adopts.adopted
  obtain ⟨-, candidate, outcome, candidateFound, outcomeFound, agrees⟩ :=
    adoption_matched adopts.matched
  obtain ⟨decided, started, known, knownFound, -, status⟩ := adoptable_iff adopts.adoptable
  have reported := status_of_outcomeHash injective outcomeSame
  rw [candidateFound, Option.map_some] at reported
  simp only [adoptionOutcomeMatches, Bool.and_eq_true, beq_iff_eq, and_assoc] at agrees
  obtain ⟨-, candidateStatus, -, -, -, -, toolCallStatus, -⟩ := agrees
  have terminal := isTerminal_of_decided decided started
  have attemptSame : (adoptedRecords input current).attempt = current.attempt := rfl
  unfold StatusesAgree
  dsimp only
  rw [reported, toolCallIs, attemptSame, if_neg started, knownFound, Option.map_some, status]
  refine ⟨terminal, decided, rfl, ?_⟩
  split
  · rename_i succeeded
    rw [if_pos succeeded] at candidateStatus toolCallStatus
    exact ⟨congrArg some candidateStatus, toolCallStatus⟩
  · rename_i failed
    rw [if_neg failed] at candidateStatus toolCallStatus
    exact ⟨congrArg some candidateStatus, toolCallStatus⟩

omit [Runtime] in
theorem grant_of_attemptGrant {store : MemoryStore} {attempt : ExecutionAttemptRecordV1}
    {grant : ExecutionGrantRecord} {grantId : String}
    (found : store.attemptGrant attempt = some grant) (named : attempt.grantId = some grantId) :
    store.executionGrants.get? grantId = some grant := by
  unfold attemptGrant at found
  rw [named] at found
  obtain ⟨key, present, grantFound⟩ := Option.bind_eq_some_iff.mp found
  obtain rfl : grantId = key := Option.some.inj (Option.eq_some_of_filter_eq_some present)
  exact grantFound

theorem Adopts.stored {store : MemoryStore}
    {input : AtomicKnownExternalExecutionOutcomeAdoptionInput} {current : ExternalRecords}
    (adopts : Adopts store input current) :
    StoredIn (store.adopt (adoptedRecords input current).receipt
      (adoptedRecords input current).toolCall) (adoptedRecords input current) := by
  obtain ⟨bindings, -⟩ := adoption_matched adopts.matched
  simp only [adoptionBindingsMatch, Bool.and_eq_true, beq_iff_eq, and_assoc] at bindings
  obtain ⟨attemptId, -, -, -, -, attemptGrant, -⟩ := bindings
  have attemptFound := adopts.attempt_found
  rw [← attemptId] at attemptFound
  exact
    { attempt := attemptFound
      grant := grant_of_attemptGrant adopts.grant_found attemptGrant
      receipt := KeyedTable.get?_set_self _ _ _
      toolCall := KeyedTable.get?_set_self _ _ _ }

theorem sameTerminalToolCallProjection_self (toolCall : ToolCallRecord) :
    sameTerminalToolCallProjection toolCall toolCall = true := by
  simp [sameTerminalToolCallProjection, resultWithheldCompatible]

theorem Adopts.again {store : MemoryStore}
    {input : AtomicKnownExternalExecutionOutcomeAdoptionInput} {current : ExternalRecords}
    (adopts : Adopts store input current) :
    (store.adopt (adoptedRecords input current).receipt
        (adoptedRecords input current).toolCall).adoptKnownExternalExecutionOutcomeAtomically input =
      (.ok ((adoptedRecords input current).result .replay),
        store.adopt (adoptedRecords input current).receipt
          (adoptedRecords input current).toolCall) := by
  obtain ⟨toolCallIs, receiptId, outcomeSame⟩ := adopts.adopted
  have toolCallFound : (store.adopt (adoptedRecords input current).receipt
      (adoptedRecords input current).toolCall).toolCalls.get? input.toolCall.id =
        some (adoptedRecords input current).toolCall := by
    rw [toolCallIs]
    exact KeyedTable.get?_set_self _ _ _
  have receiptFound : (store.adopt (adoptedRecords input current).receipt
      (adoptedRecords input current).toolCall).actionReceipts.get? input.receipt.id =
        some (adoptedRecords input current).receipt := by
    rw [← receiptId]
    exact KeyedTable.get?_set_self _ _ _
  have projected : sameKnownExternalOutcomeProjection input (adoptedRecords input current).receipt
      (adoptedRecords input current).toolCall = true := by
    rw [toolCallIs, sameKnownExternalOutcomeProjection, outcomeSame,
      sameTerminalToolCallProjection_self, beq_self_eq_true]
    rfl
  have attemptFound : (store.adopt (adoptedRecords input current).receipt
      (adoptedRecords input current).toolCall).executionAttempts.get? input.attemptId =
        some current.attempt := adopts.attempt_found
  have grantFound : (store.adopt (adoptedRecords input current).receipt
      (adoptedRecords input current).toolCall).attemptGrant current.attempt =
        some current.grant := adopts.grant_found
  unfold adoptKnownExternalExecutionOutcomeAtomically
  simp only [adopts.sound, attemptFound, toolCallFound, receiptFound, Option.bind_some, grantFound,
    adopts.adoptable, projected, ne_eq, not_true_eq_false, if_false, if_true]
  rfl

/-! ### Recording -/

/-- Everything recording checks, for the records it finds. -/
structure Records (store : MemoryStore) (input : AtomicKnownExternalExecutionOutcomeRecordingInput)
    (current : ExternalRecords) : Prop where
  sound : ∃ resultDiffers, recordedResultDiffers input = .ok resultDiffers ∧
    mismatchNames (recordingChecks input resultDiffers) = []
  attempt_found : store.executionAttempts.get? input.attemptId = some current.attempt
  workspace : current.attempt.workspaceId = input.workspaceId
  toolCall_found : store.toolCalls.get? current.attempt.toolCallId = some current.toolCall
  receipt_found : (nonEmpty current.attempt.binding.receiptId).bind store.actionReceipts.get? =
    some current.receipt
  grant_found : store.attemptGrant current.attempt = some current.grant
  owner : current.attempt.reservationOwner = input.reservationOwner
  bindings : knownExternalOutcomeRecordingBindingsMatch input current = true
  not_recorded : sameRecordedKnownExternalOutcomeProjection input current.attempt current.receipt
    current.toolCall = false
  matched : knownExternalOutcomeRecordingMatchesCurrent input current = true
  dispatched : current.attempt.state = .dispatched

/-- The records with the outcome recorded. -/
def recordedRecords (input : AtomicKnownExternalExecutionOutcomeRecordingInput)
    (current : ExternalRecords) : ExternalRecords :=
  { current with
    attempt := completedAttempt current.attempt input.attemptOutcome
    receipt := { current.receipt with outcome := some input.receiptOutcome }
    toolCall := input.toolCall }

theorem Records.run {store : MemoryStore}
    {input : AtomicKnownExternalExecutionOutcomeRecordingInput} {current : ExternalRecords}
    (records : Records store input current) :
    store.recordKnownExternalExecutionOutcomeAtomically input =
      (.ok ((recordedRecords input current).result .recorded),
        store.complete (recordedRecords input current)) := by
  obtain ⟨resultDiffers, checked, none_found⟩ := records.sound
  unfold recordKnownExternalExecutionOutcomeAtomically
  simp only [checked, none_found, records.attempt_found, records.workspace, records.toolCall_found,
    records.receipt_found, records.grant_found, records.owner, records.bindings,
    records.not_recorded, records.matched, records.dispatched, ne_eq, not_true_eq_false, if_false,
    Bool.not_true, Bool.false_eq_true]
  rfl

omit [Runtime] in
theorem disposition_not_success (attempt : ExecutionAttemptRecordV1) :
    (knownExternalOutcomeRecordingConflictDisposition attempt).isSuccess = false := by
  unfold knownExternalOutcomeRecordingConflictDisposition
  split
  · rfl
  · split
    · rfl
    · rfl

theorem record_cases (store : MemoryStore)
    (input : AtomicKnownExternalExecutionOutcomeRecordingInput) :
    (∃ current, Records store input current) ∨
      (¬ Succeeded (store.recordKnownExternalExecutionOutcomeAtomically input).1 ∧
        (store.recordKnownExternalExecutionOutcomeAtomically input).2 = store) := by
  unfold recordKnownExternalExecutionOutcomeAtomically Succeeded
  split
  · exact Or.inr ⟨by simp, rfl⟩
  rename_i resultDiffers checked
  split
  · exact Or.inr ⟨by simp, rfl⟩
  rename_i sound
  split
  · exact Or.inr ⟨by simp [ExternalOutcome.isSuccess], rfl⟩
  rename_i attempt attemptFound
  split
  · exact Or.inr ⟨by simp [ExternalOutcome.isSuccess], rfl⟩
  rename_i workspace
  split
  · rename_i toolCall receipt grant toolCallFound receiptFound grantFound
    dsimp only
    split
    · exact Or.inr ⟨by simp [ExternalRecords.result, ExternalOutcome.isSuccess], rfl⟩
    rename_i owner
    split
    · exact Or.inr ⟨by simp [ExternalRecords.result, ExternalOutcome.isSuccess], rfl⟩
    rename_i bindings
    split
    · exact Or.inr ⟨by simp [ExternalRecords.result, ExternalOutcome.isSuccess], rfl⟩
    rename_i notRecorded
    split
    · exact Or.inr ⟨by simp [ExternalRecords.result, disposition_not_success], rfl⟩
    rename_i matched
    split
    · exact Or.inr ⟨by simp [ExternalRecords.result, disposition_not_success], rfl⟩
    rename_i dispatched
    exact Or.inl ⟨⟨attempt, grant, receipt, toolCall⟩,
      { sound := ⟨resultDiffers, checked, not_not.mp sound⟩
        attempt_found := attemptFound
        workspace := not_not.mp workspace
        toolCall_found := toolCallFound
        receipt_found := receiptFound
        grant_found := grantFound
        owner := not_not.mp owner
        bindings := by simpa using bindings
        not_recorded := by simpa using notRecorded
        matched := by simpa using matched
        dispatched := not_not.mp dispatched }⟩
  · exact Or.inr ⟨by simp [ExternalOutcome.isSuccess], rfl⟩

theorem recording_sound {input : AtomicKnownExternalExecutionOutcomeRecordingInput}
    {resultDiffers : Bool}
    (sound : mismatchNames (recordingChecks input resultDiffers) = []) :
    (input.attemptOutcome.status = .succeeded ∨
        input.attemptOutcome.status = .failedAfterDispatch) ∧
      input.receiptOutcome.status =
        (if input.attemptOutcome.status = .succeeded then .succeeded else .failed) ∧
      input.toolCall.status =
        (if input.attemptOutcome.status = .succeeded then .executed else .failed) ∧
      input.toolCall.workspace = input.workspaceId := by
  have clear := mismatchNames_eq_nil_iff.mp sound
  simp only [recordingChecks, List.forall_mem_cons, bne_eq_false_iff_eq, Bool.and_eq_false_iff,
    Bool.not_eq_false', beq_iff_eq] at clear
  obtain ⟨-, -, -, status, -, receiptStatus, -, toolCallStatus, -, workspace, -⟩ := clear
  exact ⟨status, receiptStatus, toolCallStatus, workspace⟩

theorem Records.sameBinding {store : MemoryStore}
    {input : AtomicKnownExternalExecutionOutcomeRecordingInput} {current : ExternalRecords}
    (injective : Function.Injective sha256Hex) (records : Records store input current) :
    SameBinding (recordedRecords input current) current := by
  obtain ⟨resultDiffers, -, sound⟩ := records.sound
  obtain ⟨-, -, -, suppliedWorkspace⟩ := recording_sound sound
  have bindings := records.bindings
  simp only [knownExternalOutcomeRecordingBindingsMatch, Bool.and_eq_true, beq_iff_eq, and_assoc]
    at bindings
  obtain ⟨-, -, -, -, -, -, -, -, -, -, -, -, -, -, -, -, -, -, -, -, -, -, -, -, -, -, -,
    toolCallWorkspace, toolCallId, -, -, -, -, toolCallSame⟩ := bindings
  obtain ⟨sameInput, sameEnvelope, samePolicy⟩ :=
    toolCall_hashes_of_outcomeSemantics injective toolCallSame
  constructor <;> first
    | rfl
    | exact toolCallId.symm
    | exact suppliedWorkspace.trans toolCallWorkspace.symm
    | exact sameInput.symm
    | exact sameEnvelope.symm
    | exact samePolicy.symm

theorem Records.bound_iff {store : MemoryStore}
    {input : AtomicKnownExternalExecutionOutcomeRecordingInput} {current : ExternalRecords}
    (injective : Function.Injective sha256Hex) (records : Records store input current) :
    MutuallyBound (recordedRecords input current) ↔ SamePolicyVersion current := by
  have same := records.sameBinding injective
  have bindings := records.bindings
  simp only [knownExternalOutcomeRecordingBindingsMatch, Bool.and_eq_true, beq_iff_eq, and_assoc,
    sameText] at bindings
  obtain ⟨-, attemptWorkspace, attemptToolCall, -, -, -, -, -, attemptGrant, grantWorkspace,
    grantToolCall, -, -, grantInput, grantApprovedInput, grantApprovedEnvelope, grantReceipt,
    grantReceiptHash, attemptReceipt, attemptReceiptHash, grantEnvelope, receiptWorkspace,
    receiptToolCall, -, -, receiptInput, receiptEnvelope, toolCallWorkspace, toolCallId, -,
    toolCallInput, -, toolCallEnvelope, -⟩ := bindings
  constructor
  · intro bound
    have stored := same.bound bound
    exact ⟨stored.attempt_policy, stored.grant_policy, stored.receipt_policy⟩
  · rintro ⟨attemptPolicy, grantPolicy, receiptPolicy⟩
    apply same.symm.bound
    exact
      { attempt_workspace := attemptWorkspace.trans toolCallWorkspace.symm
        grant_workspace := grantWorkspace.trans toolCallWorkspace.symm
        receipt_workspace := receiptWorkspace.trans toolCallWorkspace.symm
        attempt_toolCall := attemptToolCall.trans toolCallId.symm
        grant_toolCall := grantToolCall.trans toolCallId.symm
        receipt_toolCall := receiptToolCall.trans toolCallId.symm
        attempt_grant := attemptGrant
        attempt_receipt := attemptReceipt
        grant_receipt := grantReceipt
        attempt_receiptHash := attemptReceiptHash
        grant_receiptHash := grantReceiptHash
        toolCall_inputHash := toolCallInput
        grant_inputHash := grantInput
        grant_approvedInput := grantApprovedInput.trans (congrArg some receiptInput)
        receipt_approvedInput := receiptInput
        toolCall_envelope := toolCallEnvelope
        grant_envelope := grantEnvelope.symm
        receipt_envelope := receiptEnvelope
        attempt_policy := attemptPolicy
        grant_policy := grantPolicy
        receipt_policy := receiptPolicy }

theorem Records.statusesAgree {store : MemoryStore}
    {input : AtomicKnownExternalExecutionOutcomeRecordingInput} {current : ExternalRecords}
    (records : Records store input current) : StatusesAgree (recordedRecords input current) := by
  obtain ⟨resultDiffers, -, sound⟩ := records.sound
  obtain ⟨status, receiptStatus, toolCallStatus, -⟩ := recording_sound sound
  unfold StatusesAgree recordedRecords completedAttempt
  dsimp only
  rw [Option.map_some, receiptStatus, toolCallStatus]
  rcases status with succeeded | failed
  · simp [succeeded, ExecutionAttemptState.isTerminal, ExecutionAttemptState.undecided]
  · simp [failed, ExecutionAttemptState.isTerminal, ExecutionAttemptState.undecided]

theorem Records.stored {store : MemoryStore}
    {input : AtomicKnownExternalExecutionOutcomeRecordingInput} {current : ExternalRecords}
    (records : Records store input current) :
    StoredIn (store.complete (recordedRecords input current)) (recordedRecords input current) := by
  have bindings := records.bindings
  simp only [knownExternalOutcomeRecordingBindingsMatch, Bool.and_eq_true, beq_iff_eq, and_assoc]
    at bindings
  obtain ⟨-, -, -, -, -, -, -, -, attemptGrant, -⟩ := bindings
  exact
    { attempt := KeyedTable.get?_set_self _ _ _
      grant := grant_of_attemptGrant records.grant_found attemptGrant
      receipt := KeyedTable.get?_set_self _ _ _
      toolCall := KeyedTable.get?_set_self _ _ _ }

theorem Records.bindings_again {store : MemoryStore}
    {input : AtomicKnownExternalExecutionOutcomeRecordingInput} {current : ExternalRecords}
    (injective : Function.Injective sha256Hex) (records : Records store input current) :
    knownExternalOutcomeRecordingBindingsMatch input (recordedRecords input current) = true := by
  obtain ⟨resultDiffers, -, sound⟩ := records.sound
  obtain ⟨-, -, -, suppliedWorkspace⟩ := recording_sound sound
  have bindings := records.bindings
  have same := records.sameBinding injective
  have input_same : input.toolCall.inputHash = current.toolCall.inputHash := same.toolCall_input
  have envelope_same : input.toolCall.actionEnvelopeHash = current.toolCall.actionEnvelopeHash :=
    same.toolCall_envelope
  simp only [knownExternalOutcomeRecordingBindingsMatch, Bool.and_eq_true, beq_iff_eq, and_assoc]
    at bindings
  obtain ⟨attemptId, attemptWorkspace, attemptToolCall, owner, mode, executor, idempotency, retry,
    attemptGrant, grantWorkspace, grantToolCall, grantName, consumed, grantInput,
    grantApprovedInput, grantApprovedEnvelope, grantReceipt, grantReceiptHash, attemptReceipt,
    attemptReceiptHash, grantEnvelope, receiptWorkspace, receiptToolCall, receiptName, receiptMode,
    receiptInput, receiptEnvelope, -, -, -, toolCallInput, toolCallEnvelope, prepared, -⟩ :=
    bindings
  obtain ⟨action, found⟩ :
      ∃ action, input.toolCall.actionEnvelope.bind ActionEnvelope.preparedAction = some action := by
    split at prepared
    · exact ⟨_, ‹_›⟩
    · cases prepared
  have recorded : (recordedRecords input current).toolCall.actionEnvelope.bind
      ActionEnvelope.preparedAction = some action := found
  have same_action : (hashJson (.obj action) == hashJson (.obj action)) = true :=
    beq_self_eq_true _
  simp only [knownExternalOutcomeRecordingBindingsMatch, Bool.and_eq_true, beq_iff_eq, and_assoc]
  exact ⟨attemptId, attemptWorkspace, attemptToolCall, owner, mode, executor, idempotency, retry,
    attemptGrant, grantWorkspace, grantToolCall, grantName, consumed, grantInput,
    grantApprovedInput, grantApprovedEnvelope, grantReceipt, grantReceiptHash, attemptReceipt,
    attemptReceiptHash, grantEnvelope, receiptWorkspace, receiptToolCall, receiptName, receiptMode,
    receiptInput, receiptEnvelope, suppliedWorkspace, rfl, rfl, input_same.trans toolCallInput,
    envelope_same ▸ toolCallEnvelope, by rw [recorded, found]; exact same_action, rfl⟩

theorem Records.again {store : MemoryStore}
    {input : AtomicKnownExternalExecutionOutcomeRecordingInput} {current : ExternalRecords}
    (injective : Function.Injective sha256Hex) (records : Records store input current) :
    (store.complete (recordedRecords input current)).recordKnownExternalExecutionOutcomeAtomically
        input =
      (.ok ((recordedRecords input current).result .replay),
        store.complete (recordedRecords input current)) := by
  obtain ⟨resultDiffers, checked, sound⟩ := records.sound
  have bindings := records.bindings
  simp only [knownExternalOutcomeRecordingBindingsMatch, Bool.and_eq_true, beq_iff_eq, and_assoc]
    at bindings
  obtain ⟨attemptId, -, attemptToolCall, -, -, -, -, -, -, -, -, -, -, -, -, -, -, -,
    attemptReceipt, -⟩ := bindings
  have receiptId : nonEmpty current.attempt.binding.receiptId = some current.receipt.id := by
    obtain ⟨key, present, -⟩ := Option.bind_eq_some_iff.mp records.receipt_found
    have named := Option.eq_some_of_filter_eq_some present
    rw [present, ← named, attemptReceipt]
  have attemptFound : (store.complete (recordedRecords input current)).executionAttempts.get?
      input.attemptId = some (recordedRecords input current).attempt := by
    rw [← attemptId]
    exact KeyedTable.get?_set_self _ _ _
  have toolCallFound : (store.complete (recordedRecords input current)).toolCalls.get?
      (recordedRecords input current).attempt.toolCallId = some input.toolCall := by
    show (store.toolCalls.set input.toolCall.id input.toolCall).get? current.attempt.toolCallId = _
    rw [attemptToolCall]
    exact KeyedTable.get?_set_self _ _ _
  have receiptFound : (nonEmpty (recordedRecords input current).attempt.binding.receiptId).bind
      (store.complete (recordedRecords input current)).actionReceipts.get? =
        some (recordedRecords input current).receipt := by
    show (nonEmpty current.attempt.binding.receiptId).bind _ = _
    rw [receiptId, Option.bind_some]
    exact KeyedTable.get?_set_self _ _ _
  have grantFound : (store.complete (recordedRecords input current)).attemptGrant
      (recordedRecords input current).attempt = some current.grant := records.grant_found
  have workspace : (recordedRecords input current).attempt.workspaceId = input.workspaceId :=
    records.workspace
  have owner : (recordedRecords input current).attempt.reservationOwner = input.reservationOwner :=
    records.owner
  have projected : sameRecordedKnownExternalOutcomeProjection input
      (recordedRecords input current).attempt (recordedRecords input current).receipt
      input.toolCall = true := by
    simp [sameRecordedKnownExternalOutcomeProjection, recordedRecords, completedAttempt,
      receiptOutcomeHash, hashOrNull, sameTerminalToolCallProjection_self]
  have again := records.bindings_again injective
  unfold recordKnownExternalExecutionOutcomeAtomically
  simp only [checked, sound, attemptFound, workspace, toolCallFound, receiptFound, grantFound,
    owner, projected, ne_eq, not_true_eq_false, if_false]
  rw [if_neg (by simpa [recordedRecords] using again), if_pos trivial]
  rfl

end MemoryStore

/-! ### All or nothing -/

/-- The operation's own checks, all passed. -/
def ExternalOperation.Accepted (store : MemoryStore) : ExternalOperation → Prop
  | .publish input => ∃ approval toolCall, store.Publishes input approval toolCall
  | .adopt input => ∃ current, store.Adopts input current
  | .record input => ∃ current, store.Records input current

/-- What the operation takes for granted of the records it binds: a publication,
that the attempt has an id and that grant and tool call carry one policy version;
an adoption, that the stored receipt and grant carry what the attempt ran, under
one policy version; a recording, that one policy version. -/
def ExternalOperation.Linked (store : MemoryStore) : ExternalOperation → Prop
  | .publish input =>
      input.attempt.id ≠ "" ∧ input.grant.policyVersionHash = input.toolCall.policyVersionHash
  | .adopt input => ∀ current : ExternalRecords,
      store.executionAttempts.get? input.attemptId = some current.attempt →
        store.attemptGrant current.attempt = some current.grant →
          store.actionReceipts.get? input.receipt.id = some current.receipt →
            store.toolCalls.get? input.toolCall.id = some current.toolCall →
              MemoryStore.SameApproval current ∧ MemoryStore.SamePolicyVersion current
  | .record input => ∀ current : ExternalRecords,
      store.executionAttempts.get? input.attemptId = some current.attempt →
        store.attemptGrant current.attempt = some current.grant →
          (nonEmpty current.attempt.binding.receiptId).bind store.actionReceipts.get? =
              some current.receipt →
            store.toolCalls.get? current.attempt.toolCallId = some current.toolCall →
              MemoryStore.SamePolicyVersion current

theorem ExternalOperation.succeeded_iff (store : MemoryStore) (operation : ExternalOperation) :
    Succeeded (operation.run store).1 ↔ operation.Accepted store := by
  cases operation with
  | publish input =>
      constructor
      · intro success
        exact (store.publish_cases input).resolve_right (fun refused => refused.1 success)
      · rintro ⟨approval, toolCall, publishes⟩
        exact ⟨_, congrArg Prod.fst publishes.run, rfl⟩
  | adopt input =>
      constructor
      · intro success
        exact (store.adopt_cases input).resolve_right (fun refused => refused.1 success)
      · rintro ⟨current, adopts⟩
        exact ⟨_, congrArg Prod.fst adopts.run, rfl⟩
  | record input =>
      constructor
      · intro success
        exact (store.record_cases input).resolve_right (fun refused => refused.1 success)
      · rintro ⟨current, records⟩
        exact ⟨_, congrArg Prod.fst records.run, rfl⟩

theorem ExternalOperation.unchanged (store : MemoryStore) (operation : ExternalOperation)
    (refused : ¬ Succeeded (operation.run store).1) : (operation.run store).2 = store := by
  have rejected := fun accepted => refused ((operation.succeeded_iff store).mpr accepted)
  cases operation with
  | publish input => exact ((store.publish_cases input).resolve_left rejected).2
  | adopt input => exact ((store.adopt_cases input).resolve_left rejected).2
  | record input => exact ((store.record_cases input).resolve_left rejected).2

/-- A run that wrote is bound and replayable when it wrote bound records and its
repetition answers `replay` without a change. -/
theorem AtomicAndReplayable.of_written (operation : ExternalOperation)
    {store after : MemoryStore} {result : ExternalResult} {records : ExternalRecords}
    (run : operation.run store = (.ok result, after)) (success : result.outcome.isSuccess = true)
    (names : Names result records) (stored : StoredIn after records)
    (statuses : StatusesAgree records) {again : ExternalResult}
    (repeated : operation.run after = (.ok again, after)) :
    AtomicAndReplayable store operation ↔
      MutuallyBound records ∧ again.outcome = .replay := by
  constructor
  · intro atomic
    obtain ⟨written, writtenNames, -, bound, -⟩ :=
      atomic.bound result (congrArg Prod.fst run) success
    obtain ⟨-, replayed, replayedRun, replay⟩ :=
      atomic.replays ⟨result, congrArg Prod.fst run, success⟩
    rw [run, repeated] at replayedRun
    cases replayedRun
    have same : written = records := by
      cases written
      cases records
      obtain ⟨attempt, grant, receipt, toolCall⟩ := names
      obtain ⟨attempt', grant', receipt', toolCall'⟩ := writtenNames
      cases Option.some.inj (attempt.symm.trans attempt')
      cases Option.some.inj (grant.symm.trans grant')
      cases Option.some.inj (receipt.symm.trans receipt')
      cases Option.some.inj (toolCall.symm.trans toolCall')
      rfl
    exact ⟨same ▸ bound, replay⟩
  · rintro ⟨bound, replay⟩
    constructor
    · intro refused
      exact absurd ⟨result, congrArg Prod.fst run, success⟩ refused
    · intro other answered _
      rw [run] at answered ⊢
      cases answered
      exact ⟨records, names, stored, bound, statuses⟩
    · intro _
      rw [run, repeated]
      exact ⟨rfl, again, rfl, replay⟩

theorem ExternalOperation.atomic_iff_of_accepted (injective : Function.Injective sha256Hex)
    {store : MemoryStore} {operation : ExternalOperation} (accepted : operation.Accepted store) :
    AtomicAndReplayable store operation ↔ operation.Linked store := by
  cases operation with
  | publish input =>
      obtain ⟨approval, toolCall, publishes⟩ := accepted
      obtain ⟨bound_iff, statuses⟩ := MemoryStore.publishedRecords_bound publishes.sound
      have names : Names (MemoryStore.publishedResult input approval)
          (MemoryStore.publishedRecords input) := ⟨rfl, rfl, rfl, rfl⟩
      rw [AtomicAndReplayable.of_written (.publish input) publishes.run rfl names
        (MemoryStore.publishedRecords_stored store input toolCall.id) statuses publishes.again,
        bound_iff]
      show _ ↔ _ ∧ _
      by_cases empty : input.attempt.id = ""
      · simp [empty]
      · simp [empty]
  | adopt input =>
      obtain ⟨current, adopts⟩ := accepted
      have names : Names ((MemoryStore.adoptedRecords input current).result .adopted)
          (MemoryStore.adoptedRecords input current) := ⟨rfl, rfl, rfl, rfl⟩
      rw [AtomicAndReplayable.of_written (.adopt input) adopts.run rfl names adopts.stored
        (adopts.statusesAgree injective) adopts.again, adopts.bound_iff injective]
      constructor
      · rintro ⟨linked, -⟩ found attempt grant receipt toolCall
        obtain ⟨foundAttempt, foundGrant, foundReceipt, foundToolCall⟩ := found
        obtain rfl := Option.some.inj (adopts.attempt_found.symm.trans attempt)
        obtain rfl := Option.some.inj (adopts.grant_found.symm.trans grant)
        obtain rfl := Option.some.inj (adopts.receipt_found.symm.trans receipt)
        obtain rfl := Option.some.inj (adopts.toolCall_found.symm.trans toolCall)
        exact linked
      · intro linked
        exact ⟨linked current adopts.attempt_found adopts.grant_found adopts.receipt_found
          adopts.toolCall_found, rfl⟩
  | record input =>
      obtain ⟨current, records⟩ := accepted
      have names : Names ((MemoryStore.recordedRecords input current).result .recorded)
          (MemoryStore.recordedRecords input current) := ⟨rfl, rfl, rfl, rfl⟩
      rw [AtomicAndReplayable.of_written (.record input) records.run rfl names records.stored
        records.statusesAgree (records.again injective), records.bound_iff injective]
      constructor
      · rintro ⟨linked, -⟩ found attempt grant receipt toolCall
        obtain ⟨foundAttempt, foundGrant, foundReceipt, foundToolCall⟩ := found
        obtain rfl := Option.some.inj (records.attempt_found.symm.trans attempt)
        obtain rfl := Option.some.inj (records.grant_found.symm.trans grant)
        obtain rfl := Option.some.inj (records.receipt_found.symm.trans receipt)
        obtain rfl := Option.some.inj (records.toolCall_found.symm.trans toolCall)
        exact linked
      · intro linked
        exact ⟨linked current records.attempt_found records.grant_found records.receipt_found
          records.toolCall_found, rfl⟩

/-- Each operation is atomic and replayable exactly where what it takes for granted
holds, or its checks refuse it. -/
theorem external_operations_atomic_iff (injective : Function.Injective sha256Hex)
    (store : MemoryStore) (operation : ExternalOperation) :
    AtomicAndReplayable store operation ↔
      (operation.Accepted store → operation.Linked store) := by
  by_cases accepted : operation.Accepted store
  · rw [ExternalOperation.atomic_iff_of_accepted injective accepted]
    exact ⟨fun linked _ => linked, fun linked => linked accepted⟩
  · have refused := fun success => accepted ((operation.succeeded_iff store).mp success)
    constructor
    · intro _ now
      exact absurd now accepted
    · intro _
      constructor
      · exact operation.unchanged store
      · intro result answered success
        exact absurd ⟨result, answered, success⟩ refused
      · intro success
        exact absurd success refused

end

/-! ### An adoption of another input -/

private def adoptedCall : ToolCallRecord :=
  { id := "call_1", workspaceId := some "default", toolName := "crm.update", input := []
    inputHash := some "input_1", actionEnvelope := none, actionEnvelopeHash := some "envelope_1"
    canonicalActionRequestHash := none, canonicalActionRequestVersion := none
    canonicalDecisionInputHash := none, canonicalPolicyContext := none, contentInfluence := none
    influenceScopeId := none, requestedBy := "agent", requestedByAuth := none, agentId := "agent"
    reason := "", metadata := [], status := .authorized, decision := some .requireApproval
    authorizationDecision := none, authorizationReason := none, decisionTrace := none
    policyReason := none, policyVersionId := none, policyVersionHash := some "policy_1"
    resultDelivery := none, resultSource := none, resultWithheld := none, risk := none
    result := none, error := none, createdAt := "1", updatedAt := "1" }

private def adoptedReceipt : ActionReceiptRecord :=
  { approvalId := none, approvedEnvelopeHash := "envelope_1", approvedInputHash := "input_2"
    createdAt := "1", decisionActor := "approver", decisionAuth := none
    decisionKind := .humanApproval, executionMode := .externalGrant, expiresAt := none
    id := "receipt_1", issuedAt := "1", keyId := "key_1", operation := .null
    originalEnvelopeHash := "envelope_1", originalInputHash := "input_1", outcome := none
    policyDecision := none, policyReason := none, policyRisk := none
    policyVersionHash := some "policy_1", policyVersionId := none, protocol := "mcp"
    receiptHash := "hash_1", reviewHash := none, signature := "", signatureAlg := "hmac"
    source := .null, toolCallId := "call_1", toolName := "crm.update", version := "1"
    workspaceId := "default" }

private def adoptedGrant : ExecutionGrantRecord :=
  { id := "grant_1", workspaceId := "default", toolCallId := "call_1", toolName := "crm.update"
    inputHash := "input_1", approvedEnvelopeHash := some "envelope_1"
    approvedInputHash := some "input_2", policyVersionHash := some "policy_1"
    receiptHash := some "hash_1", receiptId := some "receipt_1", actor := "runner", auth := none
    expiresAt := "9", nonce := "1", signature := "", consumedAt := some "2", createdAt := "1" }

private def failedOutcome : ExecutionAttemptOutcomeV1 :=
  { known := true, errorClass := none, errorCode := none, errorMessage := some "refused"
    remediationHash := none, recordedAt := "3", resultDeliveryHash := none, resultHash := none
    retryDisposition := .none, status := .failedAfterDispatch }

private def adoptedAttempt : ExecutionAttemptRecordV1 :=
  { attemptNumber := 1
    binding :=
      { actionEnvelopeHash := some "envelope_1", approvalAuthorizationHash := none
        approvalAuthorizationNonce := none, approvalId := none, canonicalActionRequestHash := none
        canonicalActionRequestVersion := none, canonicalDecisionInputHash := none
        contentInfluenceBindingHash := none, decisionId := none, decisionVersion := none
        influenceScopeId := none, policyVersionHash := some "policy_1"
        receiptHash := some "hash_1", receiptId := some "receipt_1", resultSourceHash := none }
    completedAt := some "3", dispatchedAt := some "2", executionMode := .externalGrant
    executorId := "actionproxy.external-runner", grantId := some "grant_1", id := "attempt_1"
    inputHash := "input_1", outcome := some failedOutcome, providerIdempotency := "none"
    reservedAt := "1", reservationOwner := "owner_1", retryPolicy := "never_automatic"
    state := .failedAfterDispatch, toolCallId := "call_1", updatedAt := "3"
    version := executionAttemptVersion, workspaceId := "default" }

/-- A failed attempt at `input_1`; its receipt and grant carry the approval of `input_2`. -/
private def adoptedStore : MemoryStore :=
  { toolCalls := KeyedTable.empty.set "call_1" adoptedCall
    contentExposureScopes := KeyedTable.empty
    approvals := KeyedTable.empty
    executionGrants := KeyedTable.empty.set "grant_1" adoptedGrant
    executionAttempts := KeyedTable.empty.set "attempt_1" adoptedAttempt
    executionAttemptByToolCall := KeyedTable.empty.set ("default", "call_1") "attempt_1"
    actionReceipts := KeyedTable.empty.set "receipt_1" adoptedReceipt }

private def otherInputAdoption : AtomicKnownExternalExecutionOutcomeAdoptionInput :=
  { attemptId := "attempt_1"
    receipt :=
      { adoptedReceipt with
        outcome := some
          { auth := none, error := some "refused", recordedAt := "3", recordedBy := "runner"
            remediation := none, result := none, resultDelivery := none, status := .failed } }
    toolCall := { adoptedCall with status := .failed, error := some "refused" }
    workspaceId := "default" }

private abbrev plainRuntime : Runtime := sampleRuntime []

private theorem otherInput_matched :
    @knownExternalOutcomeMatchesCurrent plainRuntime otherInputAdoption
      ⟨adoptedAttempt, adoptedGrant, adoptedReceipt, adoptedCall⟩ = .ok true := by
  have bindings : @adoptionBindingsMatch plainRuntime otherInputAdoption
      ⟨adoptedAttempt, adoptedGrant, adoptedReceipt, adoptedCall⟩ = true := by
    simp only [adoptionBindingsMatch, Bool.and_eq_true, beq_iff_eq]
    repeat' constructor
  have outcome : ∃ candidate, otherInputAdoption.receipt.outcome = some candidate ∧
      @adoptionOutcomeMatches plainRuntime otherInputAdoption failedOutcome candidate false
        adoptedCall = true := ⟨_, rfl, by decide⟩
  obtain ⟨candidate, found, agrees⟩ := outcome
  have ended : externalOutcomeAdoptionState adoptedAttempt = none := by decide
  have failed : (adoptedAttempt.state == .succeeded) = false := by decide
  have reported : adoptedAttempt.outcome = some failedOutcome := rfl
  unfold knownExternalOutcomeMatchesCurrent
  rw [found, reported]
  dsimp only
  rw [ended, failed, bindings, agrees]
  exact congrArg Except.ok (beq_self_eq_true _)

private theorem otherInput_adopts :
    @MemoryStore.Adopts plainRuntime adoptedStore otherInputAdoption
      ⟨adoptedAttempt, adoptedGrant, adoptedReceipt, adoptedCall⟩ := by
  let runtime : Runtime := plainRuntime
  exact
    { sound := by decide
      attempt_found := rfl
      toolCall_found := rfl
      receipt_found := rfl
      grant_found := rfl
      adoptable := by decide
      not_adopted := by
        simp [sameKnownExternalOutcomeProjection, sameTerminalToolCallProjection,
          otherInputAdoption, adoptedCall]
      matched := otherInput_matched
      compatible := rfl }

/-- The adoption succeeds and leaves a receipt and a grant for another input. -/
theorem adoption_of_other_input :
    Function.Injective plainRuntime.sha256Hex ∧
      @Succeeded (@ExternalOperation.run plainRuntime adoptedStore (.adopt otherInputAdoption)).1 ∧
      ¬ @AtomicAndReplayable plainRuntime adoptedStore (.adopt otherInputAdoption) := by
  have injective : Function.Injective plainRuntime.sha256Hex :=
    knownDigest_injective (by decide) (by decide)
  have accepted : @ExternalOperation.Accepted plainRuntime adoptedStore
      (.adopt otherInputAdoption) := ⟨_, otherInput_adopts⟩
  refine ⟨injective, (@ExternalOperation.succeeded_iff plainRuntime _ _).mpr accepted, ?_⟩
  intro atomic
  have linked := (@ExternalOperation.atomic_iff_of_accepted plainRuntime injective _ _
    accepted).mp atomic
  have approval := (linked ⟨adoptedAttempt, adoptedGrant, adoptedReceipt, adoptedCall⟩ rfl rfl rfl
    rfl).1.1
  exact absurd approval (by decide)

theorem external_operations_atomic_iff_other_input :
    @AtomicAndReplayable plainRuntime adoptedStore (.adopt otherInputAdoption) ↔
      (@ExternalOperation.Accepted plainRuntime adoptedStore (.adopt otherInputAdoption) →
        @ExternalOperation.Linked adoptedStore (.adopt otherInputAdoption)) :=
  @external_operations_atomic_iff plainRuntime (knownDigest_injective (by decide) (by decide))
    adoptedStore (.adopt otherInputAdoption)

end ActionProxy
