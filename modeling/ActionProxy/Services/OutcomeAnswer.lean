import ActionProxy.Services.ExecutionTruth
import ActionProxy.Services.ReportOutcome

/-!
What a report of an outcome answers when no other call takes a step before it ends: the
receipt with its outcome, and the tool call as it was recorded and released. Both are made
of the report, of what is stored when the call begins, and of the clock.
-/

namespace ActionProxy

open JsonText Interleaving

section

variable [Runtime]

/-! ### The answer -/

/-- The receipt of the answer: an outcome that it has already stays. -/
def answeredReceipt (report : CheckedReport) (auth : AuthContext) (recordedAt : String)
    (receipt : ActionReceiptRecord) : ActionReceiptRecord :=
  if receipt.outcome.isSome then receipt
  else { receipt with outcome := some (report.receiptOutcome auth recordedAt) }

omit [Runtime] in
/-- A tool call whose result is exposed is released, unless it is already. -/
def releasedToolCall (exposed : Bool) (releasedAt : String) (toolCall : ToolCallRecord) :
    ToolCallRecord :=
  if exposed && toolCall.resultWithheld != some false then
    { toolCall with resultWithheld := some false, updatedAt := releasedAt }
  else toolCall

omit [Runtime] in
/-- The tool call of the answer; one that is terminal already stays unless its attempt is
still dispatched. -/
def answeredToolCall (report : CheckedReport) (toolCall : ToolCallRecord) (dispatched : Bool)
    (recordedAt releasedAt : String) : ToolCallRecord :=
  releasedToolCall (requiresContentExposureBeforeDelivery toolCall report.resultDelivery) releasedAt
    (if !dispatched && toolCall.status != .authorized then toolCall
    else report.terminalToolCall toolCall recordedAt)

omit [Runtime] in
/-- Whether the attempt of a report is still dispatched. -/
def MemoryStore.isDispatched (store : MemoryStore) (attempt : ExecutionAttemptRecordV1) : Bool :=
  (store.executionAttempts.get? attempt.id).any fun stored => stored.state == .dispatched

omit [Runtime] in
/-- The time an outcome is recorded at: that of an outcome already there, or now. -/
def ReportedRecords.recordedAt (records : ReportedRecords) (clock : Instant) : String :=
  (records.attempt.outcome.map ExecutionAttemptOutcomeV1.recordedAt).getD clock.text

omit [Runtime] in
/-- The receipt of the records as it is stored under its own identifier. -/
def MemoryStore.receiptOf (store : MemoryStore) (records : ReportedRecords) :
    Option ActionReceiptRecord :=
  records.receipt.bind fun receipt => store.actionReceipts.get? receipt.id

/-- What a report answers from the records it reads. -/
structure AnswersFrom (state : ReportingServer) (records : ReportedRecords)
    (report : CheckedReport) (auth : AuthContext) (recorded : RecordedOutcome) : Prop where
  receipt : recorded.receipt = (state.calls.server.store.receiptOf records).map
    (answeredReceipt report auth (records.recordedAt state.calls.server.clock))
  toolCall : recorded.toolCall = answeredToolCall report records.toolCall
    (state.calls.server.store.isDispatched records.attempt)
    (records.recordedAt state.calls.server.clock) state.calls.server.clock.text

end

/-! ### Steps -/

section

variable {α : Type} {state : ReportingServer}

/-- The state with another store. -/
def ReportingServer.withStore (state : ReportingServer) (store : MemoryStore) : ReportingServer :=
  state.setCalls (state.calls.setStore store)

theorem yields_onStore (operation : Instant → MemoryStore → α × MemoryStore) :
    Yields (fun value after =>
        value = (operation state.calls.server.clock state.calls.server.store).1 ∧
        after = state.withStore (operation state.calls.server.clock state.calls.server.store).2)
      (ReportCall.call (LocalCall.onStore operation)) state := by
  obtain ⟨⟨server, mood, invocations⟩, overtaken⟩ := state
  cases mood with
  | answers => exact ⟨rfl, rfl⟩
  | rejects error performed => exact trivial

theorem yields_readStore (view : MemoryStore → α) :
    Yields (fun value after => value = view state.calls.server.store ∧ state = after)
      (ReportCall.readStore view) state :=
  (yields_onStore fun _ store => (view store, store)).mono fun _ _ answered =>
    ⟨answered.1, answered.2.symm⟩

theorem yields_now :
    Yields (fun value after => value = state.calls.server.clock ∧ state = after)
      ReportCall.now state :=
  ⟨rfl, rfl⟩

theorem yields_check (failure : Option GateError) :
    Yields (fun _ after => failure = none ∧ state = after) (ReportCall.check failure) state := by
  cases failure with
  | none => exact ⟨rfl, rfl⟩
  | some error => exact trivial

theorem yields_ofExcept (answer : Except GateError α) :
    Yields (fun value after => answer = .ok value ∧ state = after)
      (Prog.ofExcept answer : ReportCall α) state := by
  cases answer with
  | ok value => exact ⟨rfl, rfl⟩
  | error error => exact trivial

/-! ### The clock stands still -/

theorem still_gate {prog : Gate α} (quiet : Ownership.Quiet Server.clock prog) :
    Ownership.Quiet (fun calls : LocalServer => calls.server.clock) (LocalCall.gate prog) :=
  quiet.within fun _ _ same => same

theorem still_audit (type : String) : Ownership.Quiet Server.clock (Gate.audit type) := by
  apply Ownership.Quiet.bind
  · exact Ownership.Quiet.call fun _ => rfl
  · intro appended
    cases appended <;> trivial

theorem still_call {prog : LocalCall α}
    (quiet : Ownership.Quiet (fun calls : LocalServer => calls.server.clock) prog) :
    Ownership.Quiet (fun state : ReportingServer => state.calls.server.clock)
      (ReportCall.call prog) :=
  quiet.within fun _ _ same => same

theorem still_auditBestEffort (type : String) :
    Ownership.Quiet (fun state : ReportingServer => state.calls.server.clock)
      (ReportCall.call (LocalCall.auditBestEffort type)) :=
  still_call (still_gate ((still_audit type).handle fun _ => True.intro))

theorem askStore_clock (operation : Instant → MemoryStore → α × MemoryStore)
    (calls : LocalServer) :
    (LocalCall.askStore operation calls).2.server.clock = calls.server.clock := by
  rcases askStore_cases operation calls with answered | ⟨error, refused | lost⟩
  · rw [answered]
    rfl
  · rw [refused]
  · rw [lost]
    rfl

theorem still_onStore (operation : Instant → MemoryStore → α × MemoryStore) :
    Ownership.Quiet (fun calls : LocalServer => calls.server.clock)
      (LocalCall.onStore operation) := by
  apply Ownership.Quiet.bind
  · exact Ownership.Quiet.call (askStore_clock operation)
  · intro ended
    cases ended <;> trivial

theorem still_recordContentExposure [Runtime] (auth : AuthContext) (toolCall : ToolCallRecord)
    (delivery : Option ResultDeliveryMetadataV1) :
    Ownership.Quiet (fun calls : LocalServer => calls.server.clock)
      (recordContentExposureBeforeDelivery auth toolCall delivery) := by
  unfold recordContentExposureBeforeDelivery
  split
  · trivial
  split
  · trivial
  apply Ownership.Quiet.bind (still_gate (Ownership.Quiet.call fun _ => rfl))
  intro now
  apply Ownership.Quiet.bind (still_gate (Ownership.Quiet.call fun _ => rfl))
  intro policy
  apply Ownership.Quiet.bind (still_onStore _)
  intro outcome
  split
  · trivial
  · exact still_gate (still_audit _)

end

/-! ### The records -/

section

variable [Runtime] {state : ReportingServer}

theorem yields_readReportedGrant (service : ReportService) (grantId : String)
    (auth : AuthContext) :
    Yields (fun grant after =>
        state.calls.server.store.executionGrants.get? grantId = some grant ∧ state = after)
      (readReportedGrant service grantId auth) state := by
  apply Yields.bind
  refine (yields_readStore _).mono ?_
  rintro found after ⟨rfl, rfl⟩
  cases state.calls.server.store.executionGrants.get? grantId with
  | none => exact trivial
  | some grant =>
      apply Yields.bind
      refine (yields_check _).mono ?_
      rintro _ _ ⟨-, rfl⟩
      exact ⟨rfl, rfl⟩

omit [Runtime] in
theorem yields_readReportedToolCall (service : ReportService) (auth : AuthContext)
    (grant : ExecutionGrantRecord) :
    Yields (fun toolCall after =>
        state.calls.server.store.toolCalls.get? grant.toolCallId = some toolCall ∧ state = after)
      (readReportedToolCall service auth grant) state := by
  apply Yields.bind
  refine (yields_readStore _).mono ?_
  rintro found after ⟨rfl, rfl⟩
  cases state.calls.server.store.toolCalls.get? grant.toolCallId with
  | none => exact trivial
  | some toolCall =>
      apply Yields.bind
      refine (yields_check _).mono ?_
      rintro _ _ ⟨-, rfl⟩
      exact ⟨rfl, rfl⟩

omit [Runtime] in
theorem yields_readReportedAttempt (grant : ExecutionGrantRecord) :
    Yields (fun attempt after =>
        state.calls.server.store.getExecutionAttemptByToolCallId grant.workspaceId
          grant.toolCallId = some attempt ∧ state = after)
      (readReportedAttempt grant) state := by
  apply Yields.bind
  refine (yields_readStore _).mono ?_
  rintro found after ⟨rfl, rfl⟩
  cases state.calls.server.store.getExecutionAttemptByToolCallId grant.workspaceId
      grant.toolCallId with
  | none => exact trivial
  | some attempt =>
      dsimp only
      split
      · exact ⟨rfl, rfl⟩
      · exact trivial

theorem yields_readReportedReceipt (service : ReportService) (grant : ExecutionGrantRecord) :
    Yields (fun receipt after =>
        receipt = (nonEmpty grant.receiptId).bind state.calls.server.store.actionReceipts.get? ∧
        state = after)
      (readReportedReceipt service grant) state := by
  unfold readReportedReceipt
  cases nonEmpty grant.receiptId with
  | none => exact ⟨rfl, rfl⟩
  | some receiptId =>
      apply Yields.bind
      refine (yields_readStore _).mono ?_
      rintro receipt after ⟨rfl, rfl⟩
      apply Yields.bind
      refine (yields_check _).mono ?_
      rintro _ _ ⟨-, rfl⟩
      exact ⟨rfl, rfl⟩

/-! ### The recording -/

/-- What a step of the recording leaves to the next. -/
structure Leaves (state after : ReportingServer) : Prop where
  clock : after.calls.server.clock = state.calls.server.clock
  receipts : after.calls.server.store.actionReceipts = state.calls.server.store.actionReceipts

/-- How the transition of an attempt to its outcome goes tells whether the attempt was
dispatched. -/
structure TransitionTells (store : MemoryStore) (attempt : ExecutionAttemptRecordV1)
    (answer : AttemptResult × MemoryStore) : Prop where
  receipts : answer.2.actionReceipts = store.actionReceipts
  dispatched : answer.1.outcome = .transitioned → store.isDispatched attempt = true
  ended : answer.1.outcome = .replay ∨ answer.1.outcome = .alreadyTerminal →
    store.isDispatched attempt = false

omit [Runtime] in
theorem TransitionTells.other {store : MemoryStore} {attempt : ExecutionAttemptRecordV1}
    {answer : AttemptResult}
    (neither : [AttemptOutcome.transitioned, .replay, .alreadyTerminal].contains answer.outcome =
      false) :
    TransitionTells store attempt (answer, store) := by
  have listed : answer.outcome ∉ [AttemptOutcome.transitioned, .replay, .alreadyTerminal] := by
    simpa using neither
  refine ⟨rfl, fun made => absurd ?_ listed, fun ended => absurd ?_ listed⟩
  · rw [show answer.outcome = .transitioned from made]
    exact List.mem_cons_self
  · rcases ended with replayed | terminal
    · rw [show answer.outcome = .replay from replayed]
      decide
    · rw [show answer.outcome = .alreadyTerminal from terminal]
      decide

theorem transition_tells (store : MemoryStore) {input : AtomicExecutionAttemptTransitionInput}
    {attempt : ExecutionAttemptRecordV1} (named : input.attemptId = attempt.id)
    (expected : input.expectedState = .dispatched) (ends : input.nextState ≠ .dispatched) :
    TransitionTells store attempt (store.transitionExecutionAttemptAtomically input) := by
  unfold MemoryStore.transitionExecutionAttemptAtomically
  rw [named]
  cases found : store.executionAttempts.get? attempt.id with
  | none => exact TransitionTells.other rfl
  | some current =>
      have told : store.isDispatched attempt = (current.state == .dispatched) := by
        rw [MemoryStore.isDispatched, found]
        rfl
      dsimp only
      split
      · exact TransitionTells.other rfl
      split
      · exact TransitionTells.other rfl
      split
      · rename_i replayed
        unfold MemoryStore.executionAttemptTransitionIsReplay at replayed
        split at replayed
        · cases replayed
        · rename_i same
          have reached := not_not.mp same
          refine ⟨rfl, fun made => (by cases made), fun _ => told.trans ?_⟩
          rw [reached]
          exact beq_eq_false_iff_ne.mpr ends
      split
      · rename_i terminal
        refine ⟨rfl, fun made => (by cases made), fun _ => told.trans ?_⟩
        apply beq_eq_false_iff_ne.mpr
        intro dispatched
        rw [dispatched] at terminal
        cases terminal
      split
      · exact TransitionTells.other rfl
      split
      · exact TransitionTells.other rfl
      · rename_i passed
        rw [Bool.not_eq_true, Bool.or_eq_false_iff] at passed
        have same := not_not.mp (of_decide_eq_false passed.1)
        rw [expected] at same
        refine ⟨rfl, fun _ => told.trans (beq_iff_eq.mpr same), fun either => ?_⟩
        rcases either with replayed | terminal
        · cases replayed
        · cases terminal

theorem yields_transitionToReport (report : CheckedReport) (now : String)
    (attempt : ExecutionAttemptRecordV1) :
    Yields (fun transition after =>
        transition.replay = !state.calls.server.store.isDispatched attempt ∧ Leaves state after)
      (transitionToReport report now attempt) state := by
  have ends : attemptStateForReport report.input.status ≠ .dispatched := by
    cases report.input.status <;> decide
  have tells : TransitionTells state.calls.server.store attempt
      (state.calls.server.store.transitionExecutionAttemptAtomically
        (outcomeTransition report now attempt)) := transition_tells _ rfl rfl ends
  apply Yields.bind
  refine (yields_onStore _).mono ?_
  rintro transition after ⟨rfl, rfl⟩
  have leaves : Leaves state (state.withStore
      (state.calls.server.store.transitionExecutionAttemptAtomically
        (outcomeTransition report now attempt)).2) :=
    { clock := rfl
      receipts := tells.receipts }
  split
  · exact trivial
  · exact trivial
  · exact trivial
  · rename_i terminal
    apply Yields.bind
    refine (yields_readStore _).mono ?_
    rintro current after ⟨rfl, rfl⟩
    split
    · exact trivial
    · exact ⟨by rw [tells.ended (Or.inr terminal)]; rfl, leaves⟩
  · rename_i made
    split
    · exact trivial
    · exact ⟨by rw [tells.dispatched made]; rfl, leaves⟩
  · rename_i replayed
    split
    · exact trivial
    · exact ⟨by rw [tells.ended (Or.inl replayed)]; rfl, leaves⟩
  · exact trivial

theorem yields_recordReportedReceipt (report : CheckedReport) (auth : AuthContext) (now : String)
    (receipt : Option ActionReceiptRecord) :
    Yields (fun written after =>
        written = (receipt.bind fun receipt =>
          state.calls.server.store.actionReceipts.get? receipt.id).map
            (answeredReceipt report auth now) ∧
        after.calls.server.clock = state.calls.server.clock)
      (recordReportedReceipt report auth now receipt) state := by
  cases receipt with
  | none => exact ⟨rfl, rfl⟩
  | some receipt =>
      apply Yields.bind
      refine (yields_onStore _).mono ?_
      rintro written after ⟨rfl, rfl⟩
      have answered : (state.calls.server.store.recordActionReceiptOutcomeAtomically receipt.id
          (report.receiptOutcome auth now)).1.receipt =
          (state.calls.server.store.actionReceipts.get? receipt.id).map
            (answeredReceipt report auth now) := by
        unfold MemoryStore.recordActionReceiptOutcomeAtomically
        cases state.calls.server.store.actionReceipts.get? receipt.id with
        | none => rfl
        | some current =>
            dsimp only [Option.map_some, answeredReceipt]
            split <;> rfl
      split
      · exact trivial
      split
      · exact trivial
      · exact ⟨answered, rfl⟩

theorem yields_recordTransitionedOutcome (report : CheckedReport) (auth : AuthContext)
    (now : String) (records : ReportedRecords) :
    Yields (fun recorded after =>
        recorded.receipt = (state.calls.server.store.receiptOf records).map
          (answeredReceipt report auth now) ∧
        recorded.toolCall =
          (if !state.calls.server.store.isDispatched records.attempt &&
              records.toolCall.status != .authorized then records.toolCall
          else report.terminalToolCall records.toolCall now) ∧
        after.calls.server.clock = state.calls.server.clock)
      (recordTransitionedOutcome report auth now records) state := by
  apply Yields.bind
  refine (yields_transitionToReport report now records.attempt).mono ?_
  rintro transition afterTransition ⟨replay, leaves⟩
  apply Yields.bind
  refine (yields_recordReportedReceipt report auth now records.receipt).mono ?_
  rintro receipt afterReceipt ⟨written, clock⟩
  rw [leaves.receipts] at written
  rw [leaves.clock] at clock
  rw [replay]
  split
  · exact ⟨written, rfl, clock⟩
  · apply Yields.bind
    change Yields _ (Prog.ofExcept (storeTerminal report records.toolCall now afterReceipt).1 >>= _)
      (storeTerminal report records.toolCall now afterReceipt).2
    apply Yields.bind
    refine (yields_ofExcept _).mono ?_
    rintro _ _ ⟨-, rfl⟩
    exact ⟨written, rfl, (askStore_clock _ _).trans clock⟩

/-! ### The release -/

theorem yields_deliverReported (report : CheckedReport) (auth : AuthContext)
    (exposureRequired : Bool) (toolCall : ToolCallRecord) :
    Yields (fun delivered _ => delivered =
        releasedToolCall exposureRequired state.calls.server.clock.text toolCall)
      (deliverReported report auth exposureRequired toolCall) state := by
  unfold deliverReported releasedToolCall
  split
  · rw [ReportCall.call, Prog.within_handle]
    apply Yields.handle
    · unfold releaseReported
      rw [Prog.within_bind]
      apply Yields.bind
      refine (still_call (still_recordContentExposure auth toolCall
        report.resultDelivery)).yields.mono ?_
      rintro _ after clock
      rw [← clock, Prog.within_bind]
      apply Yields.bind
      refine (yields_now : Yields _ _ after).mono ?_
      rintro now unchanged ⟨rfl, rfl⟩
      rw [Prog.within_bind]
      apply Yields.bind
      refine (yields_onStore _).mono ?_
      rintro _ _ ⟨-, rfl⟩
      rfl
    · intro error after
      rw [Prog.within_bind]
      apply Yields.bind
      exact (still_auditBestEffort _).yields.mono fun _ _ _ => trivial
  · rfl

/-! ### The call -/

theorem yields_recordAndDeliver (report : CheckedReport) (auth : AuthContext)
    {records : ReportedRecords}
    (direct : recordsPreparedOutcome report records.toolCall = false) :
    Yields (fun recorded _ => AnswersFrom state records report auth recorded)
      (recordAndDeliver report auth records) state := by
  apply Yields.bind
  refine yields_now.mono ?_
  rintro clock _ ⟨rfl, rfl⟩
  apply Yields.bind
  have direct' : ¬ recordsPreparedOutcome report records.toolCall = true := by
    rw [direct]
    exact Bool.false_ne_true
  rw [recordReportedOutcome, if_neg direct']
  refine (yields_recordTransitionedOutcome report auth _ records).mono ?_
  rintro recorded after ⟨receipt, toolCall, clock⟩
  apply Yields.bind
  refine (yields_deliverReported report auth _ recorded.toolCall).mono ?_
  rintro delivered _ released
  rw [clock, toolCall] at released
  have answers : AnswersFrom state records report auth { recorded with toolCall := delivered } :=
    { receipt := receipt
      toolCall := released }
  apply Yields.bind
  refine (still_auditBestEffort _).yields.mono fun _ _ _ => ?_
  apply Yields.bind
  refine (still_auditBestEffort _).yields.mono fun _ _ _ => ?_
  apply Yields.bind
  refine (still_auditBestEffort _).yields.mono fun _ _ _ => ?_
  exact answers

theorem yields_reportOutcome (service : ReportService) (grantId : String)
    (input : ReportExecutionGrantOutcomeInput) (auth : AuthContext)
    (continuation : OutcomeContinuation)
    (foreign : continuation.nativeExecutionAuthorization = none) {records : ReportedRecords}
    (read : ReadFrom state.calls.server.store grantId records) :
    Yields (fun recorded _ => ∃ report,
        checkReport (classifiedMcpOutcome continuation records.toolCall) input = .ok report ∧
        AnswersFrom state records report auth recorded)
      (reportOutcome service grantId input auth continuation) state := by
  obtain ⟨readGrant, readToolCall, readAttempt, readReceipt⟩ := read
  apply Yields.bind
  refine (yields_readReportedGrant service grantId auth).mono ?_
  rintro grant _ ⟨found, rfl⟩
  obtain rfl := Option.some.inj (readGrant.symm.trans found)
  apply Yields.bind
  refine (yields_readReportedToolCall service auth records.grant).mono ?_
  rintro toolCall _ ⟨found, rfl⟩
  obtain rfl := Option.some.inj (readToolCall.symm.trans found)
  apply Yields.bind
  refine (yields_readReportedAttempt records.grant).mono ?_
  rintro attempt _ ⟨found, rfl⟩
  obtain rfl := Option.some.inj (readAttempt.symm.trans found)
  apply Yields.bind
  refine (yields_check _).mono ?_
  rintro _ _ ⟨continued, rfl⟩
  apply Yields.bind
  refine (yields_check _).mono ?_
  rintro _ _ ⟨-, rfl⟩
  apply Yields.bind
  refine (yields_ofExcept _).mono ?_
  rintro report _ ⟨checked, rfl⟩
  apply Yields.bind
  refine (yields_readReportedReceipt service records.grant).mono ?_
  rintro receipt _ ⟨found, rfl⟩
  apply Yields.bind
  refine (yields_check _).mono ?_
  rintro _ _ ⟨-, rfl⟩
  have direct : recordsPreparedOutcome report records.toolCall = false := by
    have unprepared : isPrepared records.toolCall = false := by
      unfold continuationFailure at continued
      rw [foreign] at continued
      by_contra prepared
      rw [Bool.not_eq_false] at prepared
      dsimp only at continued
      rw [if_pos prepared] at continued
      cases continued
    rw [recordsPreparedOutcome, unprepared]
    rfl
  have same : (⟨records.grant, records.toolCall, records.attempt, receipt⟩ : ReportedRecords) =
      records := by
    rw [found, ← readReceipt]
  rw [same]
  refine (yields_recordAndDeliver report auth direct).mono fun recorded _ answers => ?_
  exact ⟨report, ok_of_mapError checked, answers⟩

end

end ActionProxy
