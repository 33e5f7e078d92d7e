import ActionProxy.Services.GovernedStore

/-!
Every call of the gate keeps what the store says of its approvals, step by step, and answers
for the tool call it is about.
-/

namespace ActionProxy

open JsonText Interleaving MemoryStore

section

variable [Runtime] {rules : GateRules} {α : Type} {answers : α → Prop}
  {config : LocalConfig} {execution : ToolCallExecution} {toolCall record updated : ToolCallRecord}
  {attempt dispatched : ExecutionAttemptRecordV1} {authorization : IssuedAuthorization}
  {auth : Option AuthContext} {error : GateError} {type errorClass errorCode message : String}

/-- The store is governed, the policy is one that may be in force, and executors were invoked
for warranted tool calls alone. -/
structure Lawful (rules : GateRules) (state : LocalServer) : Prop where
  governed : Governed rules state.server.store
  enforced : rules.enforced state.server.policy.policy
  invoked : ∀ invocation ∈ state.invocations, ∃ inputHash envelopeHash,
    Warrant rules invocation.toolCallId inputHash envelopeHash

/-- The state stays lawful, and a stored idempotency record stays as it is. -/
def governance (rules : GateRules) : Contract LocalServer where
  inv := Lawful rules
  guar now next := ∀ key record, now.server.idempotency.get? key = some record →
    next.server.idempotency.get? key = some record
  refl _ _ _ found := found
  trans one other key record found := other key record (one key record found)

/-- The computation keeps to the contract, and its answer passes a check. -/
abbrev Governs (rules : GateRules) (answers : α → Prop) (prog : LocalCall α) : Prop :=
  (governance rules).Obeyed answers prog

/-- The computation keeps to the contract, whatever it answers. -/
abbrev Harmless (rules : GateRules) (prog : LocalCall α) : Prop :=
  Governs rules (fun _ => True) prog

/-! ### Steps that do not ask the store -/

/-- What the contract speaks of in a server. -/
def Server.governed (server : Server) :
    MemoryStore × PolicyMoment × KeyedTable (String × String × String) IdempotencyRecord :=
  (server.store, server.policy, server.idempotency)

theorem harmless_gate {prog : Gate α} (quiet : Ownership.Quiet Server.governed prog) :
    Harmless rules (LocalCall.gate prog) := by
  have within : Ownership.Quiet
      (fun state : LocalServer => (state.server.governed, state.invocations))
      (LocalCall.gate prog) := by
    apply quiet.within
    intro server state same
    exact Prod.ext same rfl
  apply Contract.Obeyed.quiet within
  intro now after same lawful
  obtain ⟨server, invocations⟩ := Prod.mk.inj same
  obtain ⟨store, rest⟩ := Prod.mk.inj server
  obtain ⟨policy, idempotency⟩ := Prod.mk.inj rest
  refine ⟨⟨store ▸ lawful.governed, policy ▸ lawful.enforced, ?_⟩, ?_⟩
  · intro invocation listed
    exact lawful.invoked invocation (invocations ▸ listed)
  · intro key record found
    rw [idempotency]
    exact found

omit [Runtime] in
theorem governed_read (view : Server → α) :
    Ownership.Quiet Server.governed (Prog.read view : Gate α) :=
  Ownership.Quiet.call fun _ => rfl

omit [Runtime] in
theorem governed_audit (type : String) : Ownership.Quiet Server.governed (Gate.audit type) := by
  apply Ownership.Quiet.bind
  · exact Ownership.Quiet.call fun _ => rfl
  · intro appended
    cases appended <;> trivial

omit [Runtime] in
theorem governed_bestEffort (type : String) :
    Ownership.Quiet Server.governed (Gate.auditBestEffort type) :=
  (governed_audit type).handle fun _ => trivial

theorem governed_influence (toolCall : ToolCallRecord)
    (current : Option ContentInfluenceEvidenceV1) (expected : Bool) :
    Ownership.Quiet Server.governed
      (contentInfluenceBindingFailure toolCall current expected) := by
  unfold contentInfluenceBindingFailure
  split
  · trivial
  · exact (governed_bestEffort _).bind fun _ => trivial

theorem harmless_now : Harmless rules (LocalCall.gate Gate.now) :=
  harmless_gate (governed_read _)

theorem governs_policy :
    Governs rules (fun active => rules.enforced active.policy)
      (LocalCall.gate (Prog.read Server.policy)) :=
  fun _ _ _ _ lawful _ => ⟨lawful, fun _ _ found => found, fun _ _ _ => lawful.enforced⟩

theorem harmless_randomUUID [RandomSource] : Harmless rules (LocalCall.gate Gate.randomUUID) :=
  harmless_gate (Ownership.Quiet.call fun _ => rfl)

theorem harmless_audit : Harmless rules (LocalCall.audit type) :=
  harmless_gate (governed_audit type)

theorem harmless_bestEffort : Harmless rules (LocalCall.auditBestEffort type) :=
  harmless_gate (governed_bestEffort type)

theorem harmless_revalidation {config : GateConfig} {input : JsonObject} :
    Harmless rules (LocalCall.gate (finalPolicyRevalidation config toolCall input)) := by
  apply harmless_gate
  apply (governed_read _).bind
  intro compared
  split
  · trivial
  · trivial
  · exact (governed_influence _ _ _).bind fun _ => trivial

/-! ### Calls of the store -/

theorem governs_onStore {operation : Instant → MemoryStore → α × MemoryStore}
    (steps : ∀ clock store, Governed rules store →
      Governed rules (operation clock store).2 ∧ answers (operation clock store).1) :
    Governs rules answers (LocalCall.onStore operation) := by
  have asked : (governance rules).Obeyed (fun ended => ∀ value, ended = .ok value → answers value)
      (Prog.call (LocalCall.askStore operation) : LocalCall (Except GateError α)) := by
    apply Contract.Obeyed.call
    intro now lawful
    obtain ⟨kept, passed⟩ := steps now.server.clock now.server.store lawful.governed
    have stays : Lawful rules (now.setStore (operation now.server.clock now.server.store).2) :=
      ⟨kept, lawful.enforced, lawful.invoked⟩
    rcases askStore_cases operation now with answered | ⟨error, refused | lost⟩
    · rw [answered]
      refine ⟨stays, fun _ _ found => found, ?_⟩
      intro value same
      cases same
      exact passed
    · rw [refused]
      exact ⟨lawful, fun _ _ found => found, fun _ same => by cases same⟩
    · rw [lost]
      exact ⟨stays, fun _ _ found => found, fun _ same => by cases same⟩
  exact asked.bind fun ended passed => (Contract.Obeyed.ofExcept ended).mono passed

theorem governs_readStore {view : MemoryStore → α}
    (reads : ∀ store, Governed rules store → answers (view store)) :
    Governs rules answers (LocalCall.readStore view) :=
  governs_onStore fun _ store governed => ⟨governed, reads store governed⟩

theorem harmless_readStore {view : MemoryStore → α} : Harmless rules (LocalCall.readStore view) :=
  governs_readStore fun _ _ => trivial

theorem harmless_elsewhere {operation : Instant → MemoryStore → α × MemoryStore}
    (elsewhere : ∀ clock store, (operation clock store).2.approvals = store.approvals ∧
      (operation clock store).2.toolCalls = store.toolCalls ∧
      (operation clock store).2.executionAttempts = store.executionAttempts) :
    Harmless rules (LocalCall.onStore operation) := by
  apply governs_onStore
  intro clock store governed
  obtain ⟨approvals, toolCalls, attempts⟩ := elsewhere clock store
  exact ⟨governed.of_same approvals toolCalls (attempts ▸ governed.warranted), trivial⟩

theorem harmless_updateToolCall :
    Harmless rules (LocalCall.onStore fun _ store => ((), store.updateToolCall record)) :=
  governs_onStore fun _ _ governed => ⟨governed.updateToolCall record, trivial⟩

theorem governs_transition {input : AtomicExecutionAttemptTransitionInput} :
    Governs rules (fun result => result.outcome = .transitioned → ∀ attempt,
        result.attempt = some attempt → attempt.Warranted rules)
      (LocalCall.onStore fun _ store => store.transitionExecutionAttemptAtomically input) := by
  apply governs_onStore
  intro clock store governed
  obtain ⟨kept, moved⟩ := governed.attempt (.transition input) clock.millis (fun _ _ => AttemptOperation.noConfusion)
  exact ⟨kept, moved _ rfl⟩

theorem harmless_reserve {record : ExecutionAttemptRecordV1}
    {authorization : Option ApprovalAuthorizationV1} (warranted : record.Warranted rules) :
    Harmless rules (LocalCall.onStore fun clock store =>
      store.reserveExecutionAttemptAtomically clock.millis record authorization) := by
  apply governs_onStore
  intro clock store governed
  refine ⟨(governed.attempt (.reserve record authorization) clock.millis ?_).1, trivial⟩
  intro other _ same
  cases same
  exact warranted

theorem harmless_bind {input : AtomicExecutionAttemptGrantBindingInput} :
    Harmless rules (LocalCall.onStore fun _ store => store.bindExecutionAttemptGrantAtomically
      input) := by
  apply governs_onStore
  intro clock store governed
  exact ⟨(governed.attempt (.bind input) clock.millis (fun _ _ => AttemptOperation.noConfusion)).1,
    trivial⟩

theorem harmless_exposure {record : ContentExposureRecord} :
    Harmless rules (LocalCall.onStore fun _ store => store.recordContentExposure record) := by
  apply harmless_elsewhere
  intro clock store
  unfold MemoryStore.recordContentExposure
  dsimp only
  split <;> exact ⟨rfl, rfl, rfl⟩

/-! ### Executing a tool call -/

/-- The computation answers for the tool call. -/
abbrev AnswersFor (rules : GateRules) (id : String) (prog : LocalCall ToolCallRecord) :
    Prop :=
  Governs rules (fun toolCall => toolCall.id = id) prog

theorem harmless_outcomeOfReceipt {status : ReceiptOutcomeStatus} {error : Option String}
    {remediation result : Option JsonObject} :
    Harmless rules (recordOutcomeOfReceipt execution status error remediation result) := by
  unfold recordOutcomeOfReceipt
  split
  · exact .pure trivial
  · refine harmless_now.bind fun now _ => ?_
    refine (harmless_elsewhere fun _ _ => ⟨rfl, rfl, rfl⟩).bind fun _ _ => ?_
    exact harmless_audit

theorem answersFor_fail :
    AnswersFor rules toolCall.id (failToolCall execution toolCall message) := by
  refine harmless_now.bind fun now _ => ?_
  refine harmless_updateToolCall.bind fun _ _ => ?_
  refine harmless_outcomeOfReceipt.bind fun _ _ => ?_
  exact harmless_audit.bind fun _ _ => .pure rfl

theorem governs_transitionAttempt {expectedState : ExecutionAttemptState}
    {open_expected : expectedState.isTerminal = false} {nextState : ExecutionAttemptState}
    {outcome : Option ExecutionAttemptOutcomeV1} {revision : Option ContentExposureRevisionGuard} :
    Governs rules (fun moved => moved.Warranted rules) (transitionExecutionAttempt attempt
      expectedState open_expected nextState outcome revision) := by
  refine harmless_now.bind fun now _ => ?_
  refine governs_transition.bind fun transition moved => ?_
  split
  · rename_i transitioned listed
    exact .pure (moved transitioned _ listed)
  · exact .throw

theorem harmless_complete {status : ExecutionAttemptState}
    {outcomeAt : String → Except GateError ExecutionAttemptOutcomeV1} :
    Harmless rules (completeExecutionAttempt attempt status outcomeAt) := by
  refine harmless_now.bind fun now _ => ?_
  refine (Contract.Obeyed.ofExcept _).bind fun outcome _ => ?_
  have moved : Harmless rules (transitionToOutcome attempt status outcome) := by
    unfold transitionToOutcome
    split <;> exact governs_transitionAttempt.any
  exact moved.bind fun _ _ => harmless_audit.bind fun _ _ => .pure trivial

theorem answersFor_refuse :
    AnswersFor rules toolCall.id (refuseToolCall execution toolCall attempt errorClass
      errorCode message) :=
  harmless_complete.bind fun _ _ => answersFor_fail

theorem answersFor_abandon :
    AnswersFor rules toolCall.id (abandonToolCall execution toolCall dispatched errorCode
      error) :=
  harmless_complete.bind fun _ _ => answersFor_fail

theorem harmless_currentBinding {expectedState : ExecutionAttemptState} :
    Harmless rules (currentLocalExecutionAuthorizationBinding config execution attempt toolCall
      expectedState) := by
  refine harmless_readStore.bind fun storedAttempt _ => ?_
  refine harmless_readStore.bind fun storedToolCall _ => ?_
  have approval : Harmless rules (readCurrentApproval execution) := by
    unfold readCurrentApproval
    split
    · exact .pure trivial
    · exact harmless_readStore
  refine approval.bind fun storedApproval _ => ?_
  split
  · refine harmless_revalidation.bind fun revalidation _ => ?_
    split
    · exact .throw
    · refine harmless_now.bind fun now _ => ?_
      split
      · exact .throw
      · exact .pure trivial
  · exact .throw

theorem harmless_exposureBeforeRelease :
    Harmless rules (recordContentExposureBeforeRelease config auth toolCall) := by
  unfold recordContentExposureBeforeRelease
  split
  · exact .pure trivial
  · rename_i source _
    have recorded : Harmless rules (recordContentExposure config auth toolCall source) := by
      unfold recordContentExposure
      split
      · exact .throw
      · refine harmless_now.bind fun now _ => governs_policy.bind fun policy _ => ?_
        refine harmless_exposure.bind fun outcome _ => ?_
        split
        · exact .throw
        · exact harmless_audit
    refine recorded.attempt.any.bind fun ended _ => ?_
    split
    · exact .pure trivial
    · exact harmless_bestEffort.bind fun _ _ => .pure trivial

theorem answersFor_release : AnswersFor rules updated.id (releaseResult config auth updated) := by
  refine harmless_exposureBeforeRelease.bind fun exposureRecorded _ => ?_
  split
  · refine harmless_now.bind fun now _ => ?_
    refine harmless_updateToolCall.attempt.any.bind fun ended _ => ?_
    split
    · exact .pure rfl
    · exact harmless_bestEffort.bind fun _ _ => .pure rfl
  · exact .pure rfl

theorem answersFor_releaseClassified {required : Bool} :
    AnswersFor rules updated.id (releaseClassified config execution required updated) := by
  unfold releaseClassified
  split
  · exact answersFor_release
  · exact .pure rfl

theorem answersFor_executed {returned : Returned} :
    AnswersFor rules toolCall.id (recordExecutedToolCall config execution toolCall returned) := by
  refine harmless_now.bind fun now _ => ?_
  refine harmless_updateToolCall.bind fun _ _ => ?_
  refine harmless_outcomeOfReceipt.bind fun _ _ => ?_
  refine answersFor_releaseClassified.bind fun released same => ?_
  exact harmless_audit.bind fun _ _ => .pure same

theorem answersFor_settle {invoked : Execution} :
    AnswersFor rules toolCall.id (settleExecution config execution toolCall dispatched invoked)
      := by
  cases invoked with
  | throws error => exact answersFor_abandon
  | notAPromise => exact .throw
  | rejects error => exact harmless_audit.bind fun _ _ => answersFor_abandon
  | resolves returned =>
      refine harmless_audit.bind fun _ _ => harmless_complete.bind fun _ _ => ?_
      exact answersFor_executed

theorem harmless_execute {request : InvocationRequest} (warranted : request.attempt.Warranted rules) :
    Harmless rules (Prog.call (ToolRegistry.execute config request) : LocalCall (Except
      GateError Execution)) := by
  apply Contract.Obeyed.call
  intro now lawful
  rcases execute_cases config request now with ⟨error, refused⟩ | ⟨execution, invoked⟩
  · rw [refused]
    exact ⟨lawful, fun _ _ found => found, trivial⟩
  · rw [invoked]
    refine ⟨⟨?_, ?_, ?_⟩, ?_, trivial⟩
    · exact noteInvocation_store now request execution ▸ lawful.governed
    · unfold LocalServer.noteInvocation Server.noteDispatch
      dsimp only
      split <;> exact lawful.enforced
    · intro invocation listed
      rcases List.mem_cons.mp listed with rfl | earlier
      · exact ⟨_, _, warranted⟩
      · exact lawful.invoked invocation earlier
    · intro key record found
      unfold LocalServer.noteInvocation Server.noteDispatch
      dsimp only
      split <;> exact found

theorem answersFor_dispatched (warranted : dispatched.Warranted rules) :
    AnswersFor rules toolCall.id (executeDispatched config execution toolCall authorization
      dispatched) := by
  refine harmless_currentBinding.attempt.any.bind fun current _ => ?_
  split
  · exact answersFor_abandon
  · refine (harmless_execute warranted).bind fun invoked _ => ?_
    split
    · exact answersFor_abandon
    · exact answersFor_settle

theorem answersFor_authorized :
    AnswersFor rules toolCall.id (executeAuthorized config execution toolCall attempt
      authorization) := by
  refine harmless_currentBinding.attempt.any.bind fun current _ => ?_
  split
  · exact answersFor_refuse
  · refine governs_transitionAttempt.attempt.bind fun dispatched moved => ?_
    split
    · exact answersFor_dispatched (moved _ rfl)
    · split
      · exact harmless_bestEffort.bind fun _ _ => answersFor_refuse
      · exact .throw

theorem answersFor_reserved :
    AnswersFor rules toolCall.id (executeReserved config execution toolCall attempt) := by
  unfold executeReserved
  split
  · exact answersFor_refuse
  split
  · exact answersFor_refuse
  refine harmless_revalidation.bind fun revalidation _ => ?_
  split
  · exact answersFor_refuse
  · refine harmless_now.bind fun now _ => ?_
    split
    · exact answersFor_refuse
    · exact answersFor_authorized

variable [RandomSource]

theorem answersFor_execute
    (warranted : (toolCallForInput execution.toolCall execution.input).Warranted rules) :
    AnswersFor rules execution.toolCall.id (executeToolCall config execution) := by
  refine harmless_revalidation.bind fun revalidation _ => ?_
  split
  · exact answersFor_fail
  · have reserved : Harmless rules (reserveExecutionAttempt execution
        (toolCallForInput execution.toolCall execution.input)) := by
      refine harmless_now.bind fun now _ => harmless_randomUUID.bind fun id _ => ?_
      refine harmless_randomUUID.bind fun owner _ => ?_
      refine (harmless_reserve warranted).bind fun reservation _ => ?_
      split
      · exact harmless_audit.bind fun _ _ => .pure trivial
      · exact .throw
    refine reserved.bind fun attempt _ => ?_
    change AnswersFor rules (toolCallForInput execution.toolCall execution.input).id _
    exact answersFor_reserved

/-! ### Authorizing an external runner -/

theorem harmless_createActionReceipt {config : ActionProxyConfig} {input : ReceiptInput} :
    Harmless rules (createActionReceipt config input) := by
  refine harmless_now.bind fun now _ => harmless_randomUUID.bind fun id _ => ?_
  refine (harmless_elsewhere fun _ _ => ⟨rfl, rfl, rfl⟩).bind fun _ _ => ?_
  exact harmless_audit.bind fun _ _ => .pure trivial

theorem harmless_createGrant {issuer : GrantIssuer} {input : PrepareExecutionGrantInput} :
    Harmless rules (createGrant issuer ttlSeconds input) := by
  refine harmless_now.bind fun now _ => (Contract.Obeyed.ofExcept _).bind fun times _ => ?_
  refine harmless_randomUUID.bind fun id _ => harmless_randomUUID.bind fun nonce _ => ?_
  refine (harmless_elsewhere fun _ _ => ⟨rfl, rfl, rfl⟩).bind fun _ _ => ?_
  refine harmless_readStore.bind fun attempt _ => ?_
  split
  · exact .throw
  · refine harmless_bind.bind fun binding _ => ?_
    split
    · exact harmless_audit.bind fun _ _ => .pure trivial
    · exact .throw

theorem harmless_issueGrant {config : ActionProxyConfig} {input : PrepareExecutionGrantInput} :
    Harmless rules (issueGrant config ttlSeconds input) := by
  unfold issueGrant
  split
  · exact .pure trivial
  · exact harmless_createGrant.bind fun _ _ => .pure trivial

omit [RandomSource] in
theorem answersFor_granted {baseToolCall : ToolCallRecord}
    (same : baseToolCall.id = execution.toolCall.id) :
    AnswersFor rules execution.toolCall.id (authorizeGranted execution baseToolCall attempt
      grant) := by
  refine harmless_now.bind fun updatedAt _ => harmless_bind.bind fun binding _ => ?_
  split
  · refine harmless_now.bind fun now _ => harmless_updateToolCall.bind fun _ _ => ?_
    exact harmless_audit.bind fun _ _ => .pure rfl
  · rw [← same]
    exact answersFor_refuse

theorem answersFor_external {config : ActionProxyConfig}
    (warranted : (toolCallForInput execution.toolCall execution.input).Warranted rules) :
    AnswersFor rules execution.toolCall.id (authorizeExternalExecution config execution
      ttlSeconds) := by
  refine harmless_revalidation.bind fun revalidation _ => ?_
  split
  · exact answersFor_fail
  · have reserved : Harmless rules (reserveExternalAttempt execution
        (toolCallForInput execution.toolCall execution.input)) := by
      refine harmless_now.bind fun now _ => harmless_randomUUID.bind fun id _ => ?_
      refine harmless_randomUUID.bind fun owner _ => ?_
      refine (harmless_reserve warranted).bind fun reservation _ => ?_
      split
      · exact harmless_audit.bind fun _ _ => .pure trivial
      · exact .throw
    refine reserved.bind fun attempt _ => ?_
    refine harmless_issueGrant.attempt.any.bind fun granted _ => ?_
    split
    · exact answersFor_refuse
    · exact answersFor_refuse
    · exact answersFor_granted rfl

theorem answersFor_releaseExecution {config : ActionProxyConfig} {mode : ActionExecutionMode}
    (warranted : (toolCallForInput execution.toolCall execution.input).Warranted rules) :
    AnswersFor rules execution.toolCall.id (releaseExecution config execution mode ttlSeconds)
      := by
  cases mode with
  | externalGrant => exact answersFor_external warranted
  | localMock => exact answersFor_execute warranted

end

end ActionProxy
