import ActionProxy.Security.OutcomeReports
import ActionProxy.Services.GrantConsumption
import ActionProxy.Services.ToolExecution

/-!
Reporting the outcome of an execution that a grant was consumed for. A report reads the
grant, its tool call, its attempt and its receipt, checks them and itself against each
other, records the outcome, and releases the result once its exposure is recorded.
-/

namespace ActionProxy

open JsonText Interleaving

/-! ### The service -/

/-- What a native execution authorization is asked for. -/
structure NativeExecutionBinding where
  attemptId : String
  grantId : String
  intentHash : String
  phase : String
  toolCallId : String
  version : String
  workspaceId : String

/-- How the verifier of native execution authorizations answers one. -/
inductive NativeAnswer where
  | consumed
  | rejected (code : String)
  | throws (error : GateError)

structure OutcomeContinuation where
  nativeExecutionAuthorization : Option (NativeExecutionBinding → NativeAnswer)
  wrapperSessionId : Option String

structure ReportService where
  secret : String
  /-- `preparedNativeWriteRequired`, false of every tool when it is not installed. -/
  preparedNativeWriteRequired : String → Bool
  /-- Whether there is a verifier of native execution authorizations. -/
  nativeExecutionAuthorizations : Bool

/-- The server, and what the calls have done to the released results. -/
structure ReportingServer where
  calls : LocalServer
  /-- Whether a call came to store the terminal record, with the exposure of its result
  required, when the stored result was released already; nothing reads it. -/
  overtaken : Bool

def ReportingServer.setCalls (calls : LocalServer) (state : ReportingServer) : ReportingServer :=
  { state with calls := calls }

abbrev ReportCall (α : Type) := Prog ReportingServer GateError α

def ReportCall.call {α : Type} (prog : LocalCall α) : ReportCall α :=
  prog.within ReportingServer.calls ReportingServer.setCalls

/-- The text of a member of the prepared action of a tool call, when it is not empty. -/
def preparedActionText (toolCall : ToolCallRecord) (name : String) : Option String :=
  nonEmpty ((toolCall.actionEnvelope.bind ActionEnvelope.preparedAction).bind fun prepared =>
    (member? prepared name).bind asString?)

def isPrepared (toolCall : ToolCallRecord) : Bool :=
  (toolCall.actionEnvelope.bind ActionEnvelope.preparedAction).isSome

/-- A tool call with a terminal status and a result that is not withheld. -/
def ToolCallRecord.isReleased (toolCall : ToolCallRecord) : Bool :=
  (toolCall.status == .executed || toolCall.status == .failed) &&
    toolCall.resultWithheld == some false

section

variable [Runtime]

/-! ### Checks -/

def reportGrantFailure (service : ReportService) (auth : AuthContext)
    (grant : ExecutionGrantRecord) : Option ServiceError :=
  if grant.workspaceId ≠ auth.workspaceId then
    some (.forbidden "Execution grant is not in this workspace.")
  else if (nonEmpty grant.consumedAt).isNone then
    some (.conflict "Execution grant has not been consumed.")
  else if grant.signature ≠ signGrant service.secret grant then
    some (.forbidden "Execution grant signature is invalid.")
  else none

omit [Runtime] in
def reportToolCallFailure (service : ReportService) (auth : AuthContext)
    (toolCall : ToolCallRecord) : Option ServiceError :=
  if toolCall.workspace ≠ auth.workspaceId then
    some (.forbidden "Tool call is not in this workspace.")
  else if service.preparedNativeWriteRequired toolCall.toolName && !isPrepared toolCall then
    some (.forbidden ("Legacy native-write grants cannot record an outcome in prepared-action " ++
      "mode. Reject and resubmit the action."))
  else none

omit [Runtime] in
def nativeBinding (grant : ExecutionGrantRecord) (toolCall : ToolCallRecord)
    (attempt : ExecutionAttemptRecordV1) (intentHash : String) : NativeExecutionBinding :=
  { attemptId := attempt.id
    grantId := grant.id
    intentHash := intentHash
    phase := "outcome"
    toolCallId := toolCall.id
    version := "actionproxy.native-execution-binding.v1"
    workspaceId := grant.workspaceId }

/-- The authorization to report: the server's own for a prepared action, else the adapter's. -/
def continuationFailure (service : ReportService) (auth : AuthContext)
    (continuation : OutcomeContinuation) (grant : ExecutionGrantRecord)
    (toolCall : ToolCallRecord) (attempt : ExecutionAttemptRecordV1) : Option GateError :=
  match continuation.nativeExecutionAuthorization with
  | some authorization =>
      match preparedActionText toolCall "intentHash" with
      | none => some (.service (.forbidden
          "Native execution outcome authorization is unavailable for this action."))
      | some intentHash =>
          if !service.nativeExecutionAuthorizations then
            some (.service (.forbidden
              "Native execution outcome authorization is unavailable for this action."))
          else
            match authorization (nativeBinding grant toolCall attempt intentHash) with
            | .consumed => none
            | .rejected code => some (.service (.forbidden
                ("Native execution outcome authorization was rejected: " ++ code ++ ".")))
            | .throws error => some error
  | none =>
      if isPrepared toolCall then
        some (.service (.forbidden ("Prepared native action outcomes require server-owned " ++
          "native execution authorization.")))
      else (mcpAdapterFailure toolCall auth continuation.wrapperSessionId).map .service

omit [Runtime] in
/-- Whether an adapter reports a classified result. -/
def classifiedMcpOutcome (continuation : OutcomeContinuation) (toolCall : ToolCallRecord) : Bool :=
  continuation.nativeExecutionAuthorization.isNone && requiresMcpResultDelivery toolCall

/-! ### Reading -/

omit [Runtime] in
/-- A failed check ends the call. -/
def ReportCall.check (failure : Option GateError) : ReportCall Unit :=
  match failure with
  | none => pure ()
  | some error => .throw error

omit [Runtime] in
def ReportCall.fail {α : Type} (error : ServiceError) : ReportCall α := .throw (.service error)

omit [Runtime] in
def ReportCall.readStore {α : Type} (view : MemoryStore → α) : ReportCall α :=
  .call (LocalCall.readStore view)

omit [Runtime] in
def ReportCall.now : ReportCall Instant := .call (LocalCall.gate Gate.now)

def readReportedGrant (service : ReportService) (grantId : String) (auth : AuthContext) :
    ReportCall ExecutionGrantRecord := do
  match ← ReportCall.readStore (fun store => store.executionGrants.get? grantId) with
  | none => .fail (.notFound ("Execution grant not found: " ++ grantId))
  | some grant => do
      .check ((reportGrantFailure service auth grant).map .service)
      pure grant

omit [Runtime] in
def readReportedToolCall (service : ReportService) (auth : AuthContext)
    (grant : ExecutionGrantRecord) : ReportCall ToolCallRecord := do
  match ← ReportCall.readStore (fun store => store.toolCalls.get? grant.toolCallId) with
  | none => .fail (.notFound ("Tool call not found: " ++ grant.toolCallId))
  | some toolCall => do
      .check ((reportToolCallFailure service auth toolCall).map .service)
      pure toolCall

def readReportedAttempt (grant : ExecutionGrantRecord) : ReportCall ExecutionAttemptRecordV1 := do
  match ← ReportCall.readStore (fun store =>
      store.getExecutionAttemptByToolCallId grant.workspaceId grant.toolCallId) with
  | some attempt =>
      if attemptMatchesGrant attempt grant true then pure attempt
      else .fail (.conflict "Execution grant is not bound to its execution attempt.")
  | none => .fail (.conflict "Execution grant is not bound to its execution attempt.")

/-- The receipt of a grant that names one. -/
def readReportedReceipt (service : ReportService) (grant : ExecutionGrantRecord) :
    ReportCall (Option ActionReceiptRecord) :=
  match nonEmpty grant.receiptId with
  | none => pure none
  | some receiptId => do
      let receipt ← ReportCall.readStore (fun store => store.actionReceipts.get? receiptId)
      .check ((grantReceiptFailure service.secret grant receipt).map .service)
      pure receipt

/-! ### Recording -/

/-- What a report was checked against. -/
structure ReportedRecords where
  grant : ExecutionGrantRecord
  toolCall : ToolCallRecord
  attempt : ExecutionAttemptRecordV1
  receipt : Option ActionReceiptRecord

/-- What a call has recorded, and the tool call it goes on with. -/
structure RecordedOutcome where
  attempt : ExecutionAttemptRecordV1
  receipt : Option ActionReceiptRecord
  toolCall : ToolCallRecord

def alreadyRecorded : ServiceError := .conflict "Execution outcome has already been recorded."

/-- What the store makes of the outcome of a prepared action. -/
def preparedAnswer (attempt : ExecutionAttemptRecordV1) (recording : ExternalResult) :
    Except ServiceError RecordedOutcome :=
  match recording.outcome with
  | .notFound => .error (.notFound ("Execution attempt not found: " ++ attempt.id))
  | .ownerMismatch => .error (.forbidden "Execution attempt reservation owner does not match.")
  | .bindingMismatch => .error (.forbidden
      "Prepared native outcome no longer matches its signed execution binding.")
  | .reconciliationRequired => .error (.conflict
      "Execution outcome requires reconciliation and will not be retried automatically.")
  | .stateMismatch => .error (.conflict "Execution attempt has not been dispatched.")
  | .conflict => .error alreadyRecorded
  | .created | .adopted | .recorded | .replay =>
      match recording.attempt, recording.receipt, recording.toolCall with
      | some attempt, some receipt, some toolCall =>
          .ok { attempt := attempt, receipt := some receipt, toolCall := toolCall }
      | _, _, _ => .error (.conflict
          "Prepared native outcome could not be recorded atomically.")

/-- The recording of a prepared action that is dispatched. -/
def CheckedReport.recordingInput (report : CheckedReport) (auth : AuthContext) (now : String)
    (records : ReportedRecords) : AtomicKnownExternalExecutionOutcomeRecordingInput :=
  { attemptId := records.attempt.id
    attemptOutcome := report.attemptOutcome now
    receiptOutcome := report.receiptOutcome auth now
    reservationOwner := records.attempt.reservationOwner
    toolCall := report.terminalToolCall records.toolCall now
    workspaceId := records.attempt.workspaceId }

def CheckedReport.adoptionInput (report : CheckedReport) (auth : AuthContext) (now : String)
    (records : ReportedRecords) (receipt : ActionReceiptRecord) :
    AtomicKnownExternalExecutionOutcomeAdoptionInput :=
  { attemptId := records.attempt.id
    receipt := { receipt with outcome := some (report.receiptOutcome auth now) }
    toolCall := report.terminalToolCall records.toolCall now
    workspaceId := records.attempt.workspaceId }

/-- The outcome of a prepared action is recorded with its receipt and its tool call in one
step, or the outcome that its attempt already has is adopted. -/
def recordPreparedOutcome (report : CheckedReport) (auth : AuthContext) (now : String)
    (records : ReportedRecords) : ReportCall RecordedOutcome :=
  match records.receipt with
  | none => .fail (.forbidden "Prepared native action receipt is unavailable.")
  | some receipt => do
      let recording ← ReportCall.call (LocalCall.onStore fun _ store =>
        if records.attempt.state = .dispatched then
          store.recordKnownExternalExecutionOutcomeAtomically
            (report.recordingInput auth now records)
        else
          store.adoptKnownExternalExecutionOutcomeAtomically
            (report.adoptionInput auth now records receipt))
      match recording with
      | .error message => .throw (.named "Error" message)
      | .ok recording =>
          Prog.ofExcept ((preparedAnswer records.attempt recording).mapError .service)

/-- The terminal record is stored, whatever is stored by then. -/
def storeTerminal (report : CheckedReport) (snapshot : ToolCallRecord) (now : String)
    (state : ReportingServer) : Except GateError Unit × ReportingServer :=
  let terminal := report.terminalToolCall snapshot now
  let stored := state.calls.server.store.toolCalls.get? terminal.id
  let answer := LocalCall.askStore (fun _ store => ((), store.updateToolCall terminal)) state.calls
  (answer.1,
    { calls := answer.2
      overtaken := state.overtaken ||
        (requiresContentExposureBeforeDelivery snapshot report.resultDelivery &&
          stored.any ToolCallRecord.isReleased) })

/-- The attempt after the transition, and whether another call has made it before. -/
structure ReportedTransition where
  attempt : ExecutionAttemptRecordV1
  replay : Bool

omit [Runtime] in
theorem dispatched_open : ExecutionAttemptState.dispatched.isTerminal = false := rfl

def outcomeTransition (report : CheckedReport) (now : String)
    (attempt : ExecutionAttemptRecordV1) : AtomicExecutionAttemptTransitionInput :=
  { attemptId := attempt.id
    expectedState := .dispatched
    open_expected := dispatched_open
    nextState := attemptStateForReport report.input.status
    outcome := some (report.attemptOutcome now)
    reservationOwner := attempt.reservationOwner
    transitionedAt := now
    workspaceId := attempt.workspaceId
    contentExposureRevision := none }

def notRecorded : ServiceError := .conflict "Execution outcome could not be recorded."

/-- The transition of the attempt to its outcome. -/
def transitionToReport (report : CheckedReport) (now : String)
    (attempt : ExecutionAttemptRecordV1) : ReportCall ReportedTransition := do
  let transition ← ReportCall.call (LocalCall.onStore fun _ store =>
    store.transitionExecutionAttemptAtomically (outcomeTransition report now attempt))
  match transition.outcome with
  | .notFound => .fail (.notFound ("Execution attempt not found: " ++ attempt.id))
  | .ownerMismatch => .fail (.forbidden "Execution attempt reservation owner does not match.")
  | .stateMismatch => .fail (.conflict "Execution attempt has not been dispatched.")
  | .alreadyTerminal => do
      let current ← ReportCall.readStore (fun store => store.executionAttempts.get? attempt.id)
      match current.filter (sameAttemptOutcome · (report.attemptOutcome now)) with
      | none => .fail alreadyRecorded
      | some current => pure { attempt := current, replay := true }
  | .transitioned =>
      match transition.attempt with
      | none => .fail notRecorded
      | some attempt => pure { attempt := attempt, replay := false }
  | .replay =>
      match transition.attempt with
      | none => .fail notRecorded
      | some attempt => pure { attempt := attempt, replay := true }
  | _ => .fail notRecorded

/-- The outcome of the receipt, when there is one: the first that is recorded stays. -/
def recordReportedReceipt (report : CheckedReport) (auth : AuthContext) (now : String)
    (receipt : Option ActionReceiptRecord) : ReportCall (Option ActionReceiptRecord) :=
  match receipt with
  | none => pure none
  | some receipt => do
      let written ← ReportCall.call (LocalCall.onStore fun _ store =>
        store.recordActionReceiptOutcomeAtomically receipt.id (report.receiptOutcome auth now))
      if written.outcome = .notFound then
        .fail (.forbidden "Execution grant receipt disappeared while recording its outcome.")
      else if outcomeConflicts (written.receipt.bind ActionReceiptRecord.outcome) report then
        .fail alreadyRecorded
      else pure written.receipt

/-- The outcome of an action that is not prepared: the attempt, the receipt and the tool
call one after another. A call that finds the attempt terminal keeps the tool call it has
read, unless that was still authorized. -/
def recordTransitionedOutcome (report : CheckedReport) (auth : AuthContext) (now : String)
    (records : ReportedRecords) : ReportCall RecordedOutcome := do
  let transition ← transitionToReport report now records.attempt
  let receipt ← recordReportedReceipt report auth now records.receipt
  if transition.replay && records.toolCall.status != .authorized then
    pure { attempt := transition.attempt, receipt := receipt, toolCall := records.toolCall }
  else do
    let stored ← Prog.call (storeTerminal report records.toolCall now)
    Prog.ofExcept stored
    pure
      { attempt := transition.attempt
        receipt := receipt
        toolCall := report.terminalToolCall records.toolCall now }

/-- Whether the outcome is recorded in one step. -/
def recordsPreparedOutcome (report : CheckedReport) (toolCall : ToolCallRecord) : Bool :=
  isPrepared toolCall && (report.input.status == .succeeded || report.input.status == .failed)

def recordReportedOutcome (report : CheckedReport) (auth : AuthContext) (now : String)
    (records : ReportedRecords) : ReportCall RecordedOutcome :=
  if recordsPreparedOutcome report records.toolCall then
    recordPreparedOutcome report auth now records
  else recordTransitionedOutcome report auth now records

/-! ### The release -/

def recordContentExposureBeforeDelivery (auth : AuthContext) (toolCall : ToolCallRecord)
    (delivery : Option ResultDeliveryMetadataV1) : LocalCall Unit :=
  match toolCall.resultSource.filter
      (fun _ => requiresContentExposureBeforeDelivery toolCall delivery) with
  | none => pure ()
  | some source =>
      match toolCall.influenceScopeId.filter isInfluenceScopeId with
      | none => LocalCall.fail (.forbidden
          "Verified influence-scope evidence is unavailable for this MCP result.")
      | some influenceScopeId => do
          let now ← LocalCall.gate Gate.now
          let policy ← LocalCall.gate (Prog.read Server.policy)
          let outcome ← LocalCall.onStore fun _ store =>
            store.recordContentExposure (contentExposureOf toolCall influenceScopeId source now.text
              (toolCall.policyVersionHash.getD policy.policy.versionHash)
              (toolCall.workspaceId.getD auth.workspaceId))
          if outcome = .conflict then
            LocalCall.fail (.forbidden
              "Existing content-exposure evidence conflicts with the frozen result source.")
          else LocalCall.audit "content.exposure_recorded"

/-- The exposure is recorded and the result released. -/
def releaseReported (auth : AuthContext) (toolCall : ToolCallRecord)
    (delivery : Option ResultDeliveryMetadataV1) : LocalCall ToolCallRecord := do
  recordContentExposureBeforeDelivery auth toolCall delivery
  let now ← LocalCall.gate Gate.now
  let delivered : ToolCallRecord :=
    { toolCall with resultWithheld := some false, updatedAt := now.text }
  LocalCall.onStore fun _ store => ((), store.updateToolCall delivered)
  pure delivered

def withheldOutcome : ServiceError :=
  .conflict ("The downstream outcome is known, but ActionProxy withheld the result because " ++
    "content-exposure evidence could not be recorded.")

/-- A result whose exposure is required is released, unless the record at hand is already. -/
def deliverReported (report : CheckedReport) (auth : AuthContext) (exposureRequired : Bool)
    (toolCall : ToolCallRecord) : ReportCall ToolCallRecord :=
  if exposureRequired && toolCall.resultWithheld != some false then
    .call ((releaseReported auth toolCall report.resultDelivery).handle fun _ => do
      LocalCall.auditBestEffort "content.result_withheld"
      LocalCall.fail withheldOutcome)
  else pure toolCall

/-! ### The call -/

/-- From the checked records on. -/
def recordAndDeliver (report : CheckedReport) (auth : AuthContext) (records : ReportedRecords) :
    ReportCall RecordedOutcome := do
  let clock ← ReportCall.now
  let now :=
    (records.attempt.outcome.map ExecutionAttemptOutcomeV1.recordedAt).getD clock.text
  let recorded ← recordReportedOutcome report auth now records
  let delivered ← deliverReported report auth
    (requiresContentExposureBeforeDelivery records.toolCall report.resultDelivery) recorded.toolCall
  .call (LocalCall.auditBestEffort "receipt.outcome_recorded")
  .call (LocalCall.auditBestEffort
    (if report.input.status = .succeeded then "tool_call.executed" else "tool_call.failed"))
  .call (LocalCall.auditBestEffort "execution.attempt_completed")
  pure { recorded with toolCall := delivered }

def reportNoLongerCurrent (mismatch : String) : GateError :=
  .service (.forbidden ("Execution grant tool-call authorization is no longer current: " ++
    mismatch ++ "."))

/-- `reportOutcome`. -/
def reportOutcome (service : ReportService) (grantId : String)
    (input : ReportExecutionGrantOutcomeInput) (auth : AuthContext)
    (continuation : OutcomeContinuation) : ReportCall RecordedOutcome := do
  let grant ← readReportedGrant service grantId auth
  let toolCall ← readReportedToolCall service auth grant
  let attempt ← readReportedAttempt grant
  .check (continuationFailure service auth continuation grant toolCall attempt)
  .check ((currentToolCallMismatch toolCall attempt grant (attempt.state != .dispatched)).map
    reportNoLongerCurrent)
  let report ← Prog.ofExcept
    ((checkReport (classifiedMcpOutcome continuation toolCall) input).mapError .service)
  let receipt ← readReportedReceipt service grant
  .check (if outcomeConflicts (receipt.bind ActionReceiptRecord.outcome) report then
    some (.service alreadyRecorded) else none)
  recordAndDeliver report auth
    { grant := grant, toolCall := toolCall, attempt := attempt, receipt := receipt }

/-! ### Reports that pass the checks -/

omit [Runtime] in
theorem ok_of_mapError {α ε ε' : Type} {map : ε → ε'} {answer : Except ε α} {value : α}
    (mapped : answer.mapError map = .ok value) : answer = .ok value := by
  cases answer with
  | error error => cases mapped
  | ok other => exact congrArg Except.ok (Except.ok.inj mapped)

/-- Every check of a report on the records that it is about passes. -/
structure PassesChecks (service : ReportService) (input : ReportExecutionGrantOutcomeInput)
    (auth : AuthContext) (continuation : OutcomeContinuation) (records : ReportedRecords)
    (report : CheckedReport) : Prop where
  grant : reportGrantFailure service auth records.grant = none
  toolCall : reportToolCallFailure service auth records.toolCall = none
  bound : attemptMatchesGrant records.attempt records.grant true = true
  continued : continuationFailure service auth continuation records.grant records.toolCall
    records.attempt = none
  current : currentToolCallMismatch records.toolCall records.attempt records.grant
    (records.attempt.state != .dispatched) = none
  checked : checkReport (classifiedMcpOutcome continuation records.toolCall) input = .ok report
  receipt : (nonEmpty records.grant.receiptId).isSome →
    grantReceiptFailure service.secret records.grant records.receipt = none
  agrees : outcomeConflicts (records.receipt.bind ActionReceiptRecord.outcome) report = false

/-- The records that a report on a grant reads. -/
structure ReadFrom (store : MemoryStore) (grantId : String) (records : ReportedRecords) : Prop where
  grant : store.executionGrants.get? grantId = some records.grant
  toolCall : store.toolCalls.get? records.grant.toolCallId = some records.toolCall
  attempt : store.getExecutionAttemptByToolCallId records.grant.workspaceId
    records.grant.toolCallId = some records.attempt
  receipt : records.receipt = (nonEmpty records.grant.receiptId).bind store.actionReceipts.get?

/-- How many of the records of a grant are read. -/
def readsOf (grant : ExecutionGrantRecord) : Nat :=
  (if (nonEmpty grant.receiptId).isSome then 1 else 0) + 3

omit [Runtime] in
/-- A call that reads a store that answers comes to what follows the reads. -/
inductive ReadsTo (store : MemoryStore) :
    Nat → ReportCall RecordedOutcome → ReportCall RecordedOutcome → Prop where
  | done (prog : ReportCall RecordedOutcome) : ReadsTo store 0 prog prog
  | read {α : Type} (view : MemoryStore → α) (next : α → ReportCall RecordedOutcome) {count : Nat}
      {last : ReportCall RecordedOutcome} (rest : ReadsTo store count (next (view store)) last) :
      ReadsTo store (count + 1) (ReportCall.readStore view >>= next) last

omit [Runtime] in
theorem ReadsTo.reaches {system : System ReportingServer GateError RecordedOutcome}
    {permitted : ReportingServer → ReportingServer → Prop}
    {first world : World ReportingServer GateError RecordedOutcome} (thread : Nat) {count : Nat}
    {prog last : ReportCall RecordedOutcome}
    (reads : ReadsTo world.state.calls.server.store count prog last)
    (reached : Reaches system permitted first world)
    (kept : permitted world.state world.state) (answers : world.state.calls.storeMood = .answers)
    (found : world.threads[thread]? = some prog) :
    Reaches system permitted first { world with threads := world.threads.set thread last } := by
  obtain ⟨⟨⟨server, mood, invocations⟩, overtaken⟩, threads⟩ := world
  cases answers
  change ReadsTo server.store count prog last at reads
  change threads[thread]? = some prog at found
  induction reads generalizing threads with
  | done prog =>
      have same : threads.set thread prog = threads := by
        obtain ⟨present, rfl⟩ := List.getElem?_eq_some_iff.mp found
        exact List.set_getElem_self present
      rw [same]
      exact reached
  | @read α view next count last _ ih =>
      have present := (List.getElem?_eq_some_iff.mp found).1
      have advanced : World.step ⟨⟨⟨server, .answers, invocations⟩, overtaken⟩, threads⟩
          (.advance thread) = ⟨⟨⟨server, .answers, invocations⟩, overtaken⟩,
            threads.set thread (next (view server.store))⟩ := by
        rw [World.step, World.advance, found]
        rfl
      have onward := reached.step (.advance thread) trivial (by rw [advanced]; exact kept)
      rw [advanced] at onward
      have later := ih _ onward kept (List.getElem?_set_self present)
      rwa [List.set_set] at later

omit [Runtime] in
/-- Run alone on a store that answers, the call ends as what follows the reads does. -/
theorem ReadsTo.alone {state : ReportingServer} {count : Nat}
    {prog last : ReportCall RecordedOutcome}
    (reads : ReadsTo state.calls.server.store count prog last)
    (answers : state.calls.storeMood = .answers) : prog.alone state = last.alone state := by
  obtain ⟨⟨server, mood, invocations⟩, overtaken⟩ := state
  cases answers
  induction reads with
  | done prog => rfl
  | read view next rest ih => exact ih

theorem reportOutcome_reads {store : MemoryStore} {service : ReportService} {grantId : String}
    {input : ReportExecutionGrantOutcomeInput} {auth : AuthContext}
    {continuation : OutcomeContinuation} {records : ReportedRecords} {report : CheckedReport}
    (read : ReadFrom store grantId records)
    (passes : PassesChecks service input auth continuation records report) :
    ReadsTo store (readsOf records.grant)
      (reportOutcome service grantId input auth continuation)
      (recordAndDeliver report auth records) := by
  unfold reportOutcome readReportedGrant
  rw [Prog.bind_assoc]
  apply ReadsTo.read
  simp only [read.grant, passes.grant, Option.map_none, ReportCall.check, Prog.pure_bind]
  unfold readReportedToolCall
  rw [Prog.bind_assoc]
  apply ReadsTo.read
  simp only [read.toolCall, passes.toolCall, Option.map_none, ReportCall.check, Prog.pure_bind]
  unfold readReportedAttempt
  rw [Prog.bind_assoc]
  apply ReadsTo.read
  simp only [read.attempt, passes.bound, if_true, passes.continued, passes.current,
    passes.checked, Option.map_none, Prog.pure_bind, Except.mapError, Prog.ofExcept_ok]
  have agrees := passes.agrees
  unfold readReportedReceipt
  cases named : nonEmpty records.grant.receiptId with
  | none =>
      have absent : records.receipt = none := by
        rw [read.receipt, named]
        rfl
      rw [absent] at agrees
      simp only [Prog.pure_bind, agrees, Bool.false_eq_true, if_false]
      rw [← absent]
      exact ReadsTo.done _
  | some receiptId =>
      have found : store.actionReceipts.get? receiptId = records.receipt := by
        rw [read.receipt, named]
        rfl
      have receipt := passes.receipt (by rw [named]; rfl)
      simp only [Prog.bind_assoc]
      apply ReadsTo.read
      simp only [found, receipt, agrees, Option.map_none, ReportCall.check, Prog.pure_bind,
        Bool.false_eq_true, if_false]
      exact ReadsTo.done _

end

end ActionProxy
