import ActionProxy.Services.FinalRevalidation

/-!
Executing a tool call with a local executor. Reservation, two revalidations, the
authorization, the dispatch, the executor, the outcome, the tool call and its receipt
are steps of their own, and each call of the store may be rejected, whether or not the
store did what it was asked. An execution that never settles is a computation that is
not resumed.
-/

namespace ActionProxy

open JsonText Interleaving

/-! ### The state -/

/-- How the store answers a call: it does what it is asked, or rejects the call, having
done it or not. -/
inductive StoreMood where
  | answers
  | rejects (error : GateError) (performed : Bool)

/-- An executor that was invoked, with the attempt of its tool call as it was stored. -/
structure Invocation where
  attemptId : String
  workspaceId : String
  toolCallId : String
  stored : Option ExecutionAttemptRecordV1
  execution : Execution

structure LocalServer where
  server : Server
  storeMood : StoreMood
  /-- The executors invoked so far, the latest first; only their number is read. -/
  invocations : List Invocation

def LocalServer.setServer (server : Server) (state : LocalServer) : LocalServer :=
  { state with server := server }

def LocalServer.setStore (state : LocalServer) (store : MemoryStore) : LocalServer :=
  state.setServer { state.server with store := store }

abbrev LocalCall (α : Type) := Prog LocalServer GateError α

namespace LocalCall

variable {α : Type}

/-- Steps that do not ask the store. -/
def gate (prog : Gate α) : LocalCall α := prog.within LocalServer.server LocalServer.setServer

def fail (error : ServiceError) : LocalCall α := .throw (.service error)

/-- The answer of the store and the state it leaves. -/
def askStore (operation : Instant → MemoryStore → α × MemoryStore) (state : LocalServer) :
    Except GateError α × LocalServer :=
  let answer := operation state.server.clock state.server.store
  match state.storeMood with
  | .answers => (.ok answer.1, state.setStore answer.2)
  | .rejects error performed =>
      (.error error, if performed then state.setStore answer.2 else state)

/-- A call of the store, which may fail. -/
def onStore (operation : Instant → MemoryStore → α × MemoryStore) : LocalCall α :=
  (Prog.call (askStore operation)).bind Prog.ofExcept

def readStore (view : MemoryStore → α) : LocalCall α :=
  onStore fun _ store => (view store, store)

def audit (type : String) : LocalCall Unit := gate (Gate.audit type)

def auditBestEffort (type : String) : LocalCall Unit := gate (Gate.auditBestEffort type)

end LocalCall

/-! ### Records written along the way -/

namespace MemoryStore

def updateToolCall (store : MemoryStore) (record : ToolCallRecord) : MemoryStore :=
  { store with toolCalls := store.toolCalls.set record.id record }

def updateActionReceipt (store : MemoryStore) (record : ActionReceiptRecord) : MemoryStore :=
  { store with actionReceipts := store.actionReceipts.set record.id record }

end MemoryStore

/-- The arguments of `executeToolCall`. -/
structure ToolCallExecution where
  toolCall : ToolCallRecord
  input : JsonObject
  actor : String
  auth : Option AuthContext
  receipt : Option ActionReceiptRecord
  approval : Option ApprovalRecord

/-- `isJsonObject(result) ? result : { value: result }`. -/
def normalizedResult : Option Json → JsonObject
  | some (.obj members) => members
  | result => [("value", result)]

/-- What a tool call keeps of a result. -/
def Returned.stored : Returned → Option Json
  | .value result => result
  | .foreign _ => none
  | .unhashable _ => none

section

variable [Runtime]

/-- The hash of the normalized result. -/
def Returned.resultHash : Returned → Except GateError String
  | .value result => .ok (hashJson (.obj (normalizedResult result)))
  | .foreign text => .ok (sha256Hex text)
  | .unhashable error => .error error

/-- `productMetadataFrom`. -/
def productMetadataFrom (value : Option Json) : Option JsonObject :=
  match value with
  | some (.obj members) =>
      match member? members "actionproxy" with
      | some (.obj metadata) => some metadata
      | _ => none
  | _ => none

/-- `remediationFromToolResult`, with the check of the descriptor. -/
def remediationFromToolResult (descriptor : Json → Option JsonObject) (result : Option Json) :
    Option JsonObject := do
  let metadata ← productMetadataFrom result
  let remediation ← member? metadata "remediation"
  descriptor remediation

/-- A gate with the check of remediation descriptors. -/
structure LocalConfig extends GateConfig where
  remediationDescriptor : Json → Option JsonObject

/-! ### The receipt and the tool call -/

def recordReceiptOutcome (execution : ToolCallExecution) (receipt : ActionReceiptRecord)
    (status : ReceiptOutcomeStatus) (error : Option String) (remediation : Option JsonObject)
    (result : Option JsonObject) : LocalCall Unit := do
  let now ← LocalCall.gate Gate.now
  let updated : ActionReceiptRecord :=
    { receipt with
      outcome := some
        { auth := execution.auth
          error := error
          recordedAt := now.text
          recordedBy := execution.actor
          remediation := remediation
          result := result
          resultDelivery := none
          status := status } }
  LocalCall.onStore fun _ store => ((), store.updateActionReceipt updated)
  LocalCall.audit "receipt.outcome_recorded"

/-- The outcome of the receipt, when there is one. -/
def recordOutcomeOfReceipt (execution : ToolCallExecution) (status : ReceiptOutcomeStatus)
    (error : Option String) (remediation : Option JsonObject) (result : Option JsonObject) :
    LocalCall Unit :=
  match execution.receipt with
  | none => pure ()
  | some receipt => recordReceiptOutcome execution receipt status error remediation result

def failToolCall (execution : ToolCallExecution) (toolCall : ToolCallRecord) (message : String) :
    LocalCall ToolCallRecord := do
  let now ← LocalCall.gate Gate.now
  let updated : ToolCallRecord :=
    { toolCallForInput toolCall execution.input with
      status := .failed
      error := some message
      updatedAt := now.text }
  LocalCall.onStore fun _ store => ((), store.updateToolCall updated)
  recordOutcomeOfReceipt execution .failed (some message) none none
  LocalCall.audit "tool_call.failed"
  pure updated

/-! ### The attempt -/

omit [Runtime] in
def AttemptOutcome.text : AttemptOutcome → String
  | .notFound => "not_found"
  | .bindingMismatch => "binding_mismatch"
  | .existing => "existing"
  | .reserved => "reserved"
  | .alreadyTerminal => "already_terminal"
  | .contentInfluenceMismatch => "content_influence_mismatch"
  | .ownerMismatch => "owner_mismatch"
  | .replay => "replay"
  | .stateMismatch => "state_mismatch"
  | .transitioned => "transitioned"
  | .alreadyBound => "already_bound"
  | .bound => "bound"

def attemptName (id : String) : String := "attempt_" ++ id

def reserveExecutionAttempt [RandomSource] (execution : ToolCallExecution)
    (toolCall : ToolCallRecord) : LocalCall ExecutionAttemptRecordV1 := do
  let now ← LocalCall.gate Gate.now
  let id ← LocalCall.gate Gate.randomUUID
  let owner ← LocalCall.gate Gate.randomUUID
  let attempt := buildExecutionAttempt
    { approval := execution.approval
      executionMode := .localMock
      id := attemptName id
      inputHash := toolCall.hashOfInput
      now := now.text
      receipt := execution.receipt
      reservationOwner := "reservation_" ++ owner
      toolCall := toolCall }
  let reservation ← LocalCall.onStore fun clock store =>
    store.reserveExecutionAttemptAtomically clock.millis attempt
      (execution.approval.bind ApprovalRecord.authorization)
  match reservation.outcome, reservation.attempt with
  | .reserved, some attempt => do
      LocalCall.audit "execution.attempt_reserved"
      pure attempt
  | outcome, _ =>
      LocalCall.fail (.conflict ("Execution attempt could not be reserved: " ++ outcome.text))

/-- `transitionExecutionAttempt`, whose outcome was recorded at its own time. -/
def transitionExecutionAttempt (attempt : ExecutionAttemptRecordV1)
    (expectedState : ExecutionAttemptState) (open_expected : expectedState.isTerminal = false)
    (nextState : ExecutionAttemptState) (outcome : Option ExecutionAttemptOutcomeV1)
    (contentExposureRevision : Option ContentExposureRevisionGuard) :
    LocalCall ExecutionAttemptRecordV1 := do
  let now ← LocalCall.gate Gate.now
  let transition ← LocalCall.onStore fun _ store =>
    store.transitionExecutionAttemptAtomically
      { attemptId := attempt.id
        expectedState := expectedState
        open_expected := open_expected
        nextState := nextState
        outcome := outcome
        reservationOwner := attempt.reservationOwner
        transitionedAt := (outcome.map ExecutionAttemptOutcomeV1.recordedAt).getD now.text
        workspaceId := attempt.workspaceId
        contentExposureRevision := contentExposureRevision }
  match transition.outcome, transition.attempt with
  | .transitioned, some attempt => pure attempt
  | outcome, _ =>
      LocalCall.fail (.conflict ("Execution attempt transition was rejected: " ++ outcome.text))

/-- The transition of an attempt to its outcome, from the state the call knows it in. -/
def transitionToOutcome (attempt : ExecutionAttemptRecordV1) (status : ExecutionAttemptState)
    (outcome : ExecutionAttemptOutcomeV1) : LocalCall ExecutionAttemptRecordV1 :=
  if attempt.state = .reserved then
    transitionExecutionAttempt attempt .reserved rfl status (some outcome) none
  else transitionExecutionAttempt attempt .dispatched rfl status (some outcome) none

/-- `completeExecutionAttempt`, with the outcome built for the time of the call. -/
def completeExecutionAttempt (attempt : ExecutionAttemptRecordV1) (status : ExecutionAttemptState)
    (outcomeAt : String → Except GateError ExecutionAttemptOutcomeV1) :
    LocalCall ExecutionAttemptRecordV1 := do
  let now ← LocalCall.gate Gate.now
  let outcome ← Prog.ofExcept (outcomeAt now.text)
  let completed ← transitionToOutcome attempt status outcome
  LocalCall.audit "execution.attempt_completed"
  pure completed

/-- The outcome of a failure. -/
def failureOutcome (status : ExecutionAttemptState) (errorClass errorCode message : String)
    (recordedAt : String) : Except GateError ExecutionAttemptOutcomeV1 :=
  .ok (executionAttemptOutcome status recordedAt
    { errorClass := some errorClass
      errorCode := some errorCode
      errorMessage := some message
      remediation := none
      result := none
      resultDelivery := none })

/-- The outcome of a fulfilled execution; hashing the result may fail. -/
def successOutcome (returned : Returned) (recordedAt : String) :
    Except GateError ExecutionAttemptOutcomeV1 := do
  let resultHash ← returned.resultHash
  return {
    executionAttemptOutcome .succeeded recordedAt
      { errorClass := none
        errorCode := none
        errorMessage := none
        remediation := none
        result := none
        resultDelivery := none } with
    resultHash := some resultHash }

/-- A refusal before the dispatch: the attempt fails, then the tool call. -/
def refuseToolCall (execution : ToolCallExecution) (toolCall : ToolCallRecord)
    (attempt : ExecutionAttemptRecordV1) (errorClass errorCode message : String) :
    LocalCall ToolCallRecord := do
  let _ ← completeExecutionAttempt attempt .failedBeforeDispatch
    (failureOutcome .failedBeforeDispatch errorClass errorCode message)
  failToolCall execution toolCall message

/-- An error after the dispatch: the outcome of the attempt is unknown. -/
def abandonToolCall (execution : ToolCallExecution) (toolCall : ToolCallRecord)
    (dispatched : ExecutionAttemptRecordV1) (errorCode : String) (error : GateError) :
    LocalCall ToolCallRecord := do
  let _ ← completeExecutionAttempt dispatched .unknownOutcome
    (failureOutcome .unknownOutcome error.name errorCode error.message)
  failToolCall execution toolCall error.message

/-! ### The authorization -/

/-- The code of an authorization error, or another one. -/
def GateError.codeOr (other : String) : GateError → String
  | .executionAuthorization error => error.code.text
  | _ => other

/-- The binding and the token for it. -/
def authorizeLocalExecution (now : Int) (execution : ToolCallExecution)
    (attempt : ExecutionAttemptRecordV1) (toolCall : ToolCallRecord) :
    Except GateError IssuedAuthorization :=
  match buildExecutionAuthorizationBinding now execution.approval attempt toolCall with
  | .error error => .error (.executionAuthorization error)
  | .ok binding =>
      match issueAuthorization now binding (some defaultExecutionAuthorizationTtlMs) with
      | none => .error (.named "RangeError" "Invalid time value")
      | some authorization => .ok authorization

def bindingMismatch (message : String) : GateError := .executionAuthorization (bindingError message)

/-- The checks of `currentLocalExecutionAuthorizationBinding` on what it has read. -/
def currentRecordsFailure (execution : ToolCallExecution) (authorizedToolCall : ToolCallRecord)
    (expectedState : ExecutionAttemptState) (storedAttempt : Option ExecutionAttemptRecordV1)
    (storedToolCall : Option ToolCallRecord) (storedApproval : Option ApprovalRecord) :
    Option String :=
  firstFailure [
    (storedAttempt.map ExecutionAttemptRecordV1.state != some expectedState,
      "Execution authorization requires the current " ++ expectedState.text ++ " attempt."),
    (storedToolCall.isNone, "Execution authorization requires the current tool call."),
    (execution.approval.isSome && storedApproval.isNone,
      "Execution authorization requires the current approval."),
    (execution.approval.isNone && storedToolCall.any (fun stored =>
      stored.inputHash != authorizedToolCall.inputHash ||
        stored.actionEnvelopeHash != authorizedToolCall.actionEnvelopeHash),
      "The stored action changed after execution authorization.")]

/-- The stored tool call with the action that was authorized. -/
def authorizedAction (storedToolCall authorizedToolCall : ToolCallRecord) : ToolCallRecord :=
  { storedToolCall with
    actionEnvelope := authorizedToolCall.actionEnvelope
    actionEnvelopeHash := authorizedToolCall.actionEnvelopeHash
    input := authorizedToolCall.input
    inputHash := authorizedToolCall.inputHash }

/-- A current binding and the moment its policy was compared. -/
structure CurrentBinding where
  binding : ExecutionAuthorizationBindingV1
  compared : PolicyMoment

/-- The approval of an approved execution, as it is stored. -/
def readCurrentApproval (execution : ToolCallExecution) : LocalCall (Option ApprovalRecord) :=
  match execution.approval with
  | none => pure none
  | some approval => LocalCall.readStore fun store => store.approvals.get? approval.id

/-- `currentLocalExecutionAuthorizationBinding`; the records are read in this order. -/
def currentLocalExecutionAuthorizationBinding (config : LocalConfig)
    (execution : ToolCallExecution) (authorizedAttempt : ExecutionAttemptRecordV1)
    (authorizedToolCall : ToolCallRecord) (expectedState : ExecutionAttemptState) :
    LocalCall CurrentBinding := do
  let storedAttempt ← LocalCall.readStore fun store =>
    store.executionAttempts.get? authorizedAttempt.id
  let storedToolCall ← LocalCall.readStore fun store => store.toolCalls.get? authorizedToolCall.id
  let storedApproval ← readCurrentApproval execution
  match currentRecordsFailure execution authorizedToolCall expectedState storedAttempt
      storedToolCall storedApproval, storedAttempt, storedToolCall with
  | none, some storedAttempt, some storedToolCall => do
      let currentToolCall := authorizedAction storedToolCall authorizedToolCall
      let revalidation ← LocalCall.gate
        (finalPolicyRevalidation config.toGateConfig currentToolCall currentToolCall.input)
      match revalidation.failure with
      | some message => .throw (bindingMismatch message)
      | none => do
          let now ← LocalCall.gate Gate.now
          match buildExecutionAuthorizationBinding now.millis storedApproval storedAttempt
              currentToolCall with
          | .error error => .throw (.executionAuthorization error)
          | .ok binding => pure { binding := binding, compared := revalidation.compared }
  | failure, _, _ => .throw (bindingMismatch (failure.getD ""))

/-! ### The executor -/

/-- The checks of `ToolRegistry.execute`, which consume the authorization. -/
def invocationFailure (now : Int) (authorization : IssuedAuthorization)
    (binding : ExecutionAuthorizationBindingV1) (toolName : String) (input : JsonObject) :
    Option GateError :=
  let expectedBinding : ExecutionAuthorizationBindingV1 :=
    { binding with
      action :=
        { binding.action with
          inputHash := hashJson (.obj input)
          toolName := toolName }
      executorId := localExecutorId }
  if !sameCanonicalValue authorization.projection.capabilities conservativeExecutorCapabilities then
    some (bindingMismatch
      "Execution authorization capabilities do not match the local executor.")
  else
    match consumeAuthorization now authorization expectedBinding with
    | .error error => some (.executionAuthorization error)
    | .ok _ => none

/-- What an executor is invoked with. -/
structure InvocationRequest where
  authorization : IssuedAuthorization
  current : CurrentBinding
  attempt : ExecutionAttemptRecordV1
  toolName : String
  input : JsonObject

def InvocationRequest.invocation (request : InvocationRequest)
    (stored : Option ExecutionAttemptRecordV1) (execution : Execution) : Invocation :=
  { attemptId := request.attempt.id
    workspaceId := request.attempt.workspaceId
    toolCallId := request.attempt.toolCallId
    stored := stored
    execution := execution }

/-- The attempt of the tool call, as it is stored when the executor is invoked. -/
def InvocationRequest.storedAttempt (request : InvocationRequest) (state : LocalServer) :
    Option ExecutionAttemptRecordV1 :=
  state.server.store.getExecutionAttemptByToolCallId request.attempt.workspaceId
    request.attempt.toolCallId

/-- The state with an invocation listed. -/
def LocalServer.noteInvocation (state : LocalServer) (request : InvocationRequest)
    (execution : Execution) : LocalServer :=
  { state with
    server := state.server.noteDispatch .executorInvoked request.current.compared
      (request.storedAttempt state)
    invocations :=
      request.invocation (request.storedAttempt state) execution :: state.invocations }

/-- `ToolRegistry.execute`: the executor of the tool, when the authorization allows it. -/
def ToolRegistry.execute (config : LocalConfig) (request : InvocationRequest)
    (state : LocalServer) : Except GateError Execution × LocalServer :=
  match invocationFailure state.server.clock.millis request.authorization request.current.binding
      request.toolName request.input with
  | some error => (.error error, state)
  | none =>
      match config.tools request.toolName with
      | none => (.error (.named "Error" ("No tool registered for " ++ request.toolName)), state)
      | some executor =>
          let execution := executor state.invocations.length request.input
          (.ok execution, state.noteInvocation request execution)

/-! ### The release of the result -/

/-- The integrity a result source names. -/
def sourceIntegrity (source : Json) : ContentIntegrity :=
  ([.organizationManaged, .verifiedPublisher, .authenticatedExternal, .publicUntrusted].find?
    fun integrity : ContentIntegrity =>
      (field? source "integrity").bind asString? == some integrity.text).getD .unknown

def contentExposureOf (toolCall : ToolCallRecord) (influenceScopeId : String) (source : Json)
    (observedAt policyVersionHash workspaceId : String) : ContentExposureRecord :=
  { influenceScopeId := influenceScopeId
    integrity := sourceIntegrity source
    observedAt := observedAt
    policyVersionHash := policyVersionHash
    sourceId := (field? source "sourceId").bind asString?
    sourceToolCallId := toolCall.id
    workspaceId := workspaceId }

/-- The exposure of a classified result, whose failure ends the attempt to record it. -/
def recordContentExposure (config : LocalConfig) (auth : Option AuthContext)
    (toolCall : ToolCallRecord) (source : Json) : LocalCall Unit :=
  match verifiedStoredInfluenceScopeId toolCall with
  | none => .throw (.named "Error"
      "Verified influence-scope evidence is unavailable for this classified MCP result.")
  | some influenceScopeId => do
      let now ← LocalCall.gate Gate.now
      let policy ← LocalCall.gate (Prog.read Server.policy)
      let workspaceId := ((toolCall.workspaceId <|> auth.map AuthContext.workspaceId) <|>
        config.workspaceId).getD "default"
      let outcome ← LocalCall.onStore fun _ store =>
        store.recordContentExposure (contentExposureOf toolCall influenceScopeId source now.text
          (toolCall.policyVersionHash.getD policy.policy.versionHash) workspaceId)
      if outcome = .conflict then
        .throw (.named "Error"
          "Existing content-exposure evidence conflicts with the frozen result source.")
      else LocalCall.audit "content.exposure_recorded"

/-- `recordContentExposureBeforeRelease`: whether the result may be released. -/
def recordContentExposureBeforeRelease (config : LocalConfig) (auth : Option AuthContext)
    (toolCall : ToolCallRecord) : LocalCall Bool :=
  match toolCall.resultSource.filter (fun _ => resultClassified toolCall) with
  | none => pure true
  | some source => do
      match ← (recordContentExposure config auth toolCall source).attempt with
      | .ok () => pure true
      | .error _ => do
          LocalCall.auditBestEffort "content.result_withheld"
          pure false

/-- The tool call with its result released, when its exposure could be recorded. -/
def releaseResult (config : LocalConfig) (auth : Option AuthContext) (updated : ToolCallRecord) :
    LocalCall ToolCallRecord := do
  let exposureRecorded ← recordContentExposureBeforeRelease config auth updated
  if exposureRecorded then do
    let now ← LocalCall.gate Gate.now
    let releasable : ToolCallRecord :=
      { updated with resultWithheld := some false, updatedAt := now.text }
    match ← (LocalCall.onStore fun _ store => ((), store.updateToolCall releasable)).attempt with
    | .ok () => pure releasable
    | .error _ => do
        LocalCall.auditBestEffort "content.result_withheld"
        pure updated
  else pure updated

/-- The tool call as it is left: a result that must not be released before its exposure
is recorded goes through the release. -/
def releaseClassified (config : LocalConfig) (execution : ToolCallExecution)
    (exposureRequired : Bool) (updated : ToolCallRecord) : LocalCall ToolCallRecord :=
  if exposureRequired then releaseResult config execution.auth updated else pure updated

/-- What follows a fulfilled execution. -/
def recordExecutedToolCall (config : LocalConfig) (execution : ToolCallExecution)
    (toolCall : ToolCallRecord) (returned : Returned) : LocalCall ToolCallRecord := do
  let now ← LocalCall.gate Gate.now
  let exposureRequired := requiresContentExposureBeforeRelease toolCall
  let updated : ToolCallRecord :=
    { toolCall with
      status := .executed
      result := returned.stored
      resultWithheld := if exposureRequired then some true else toolCall.resultWithheld
      updatedAt := now.text }
  LocalCall.onStore fun _ store => ((), store.updateToolCall updated)
  recordOutcomeOfReceipt execution .succeeded none
    (remediationFromToolResult config.remediationDescriptor returned.stored)
    (some (normalizedResult returned.stored))
  let released ← releaseClassified config execution exposureRequired updated
  LocalCall.audit "tool_call.executed"
  pure released

/-! ### The call -/

/-- The executor's promise is awaited and its outcome recorded. -/
def settleExecution (config : LocalConfig) (execution : ToolCallExecution)
    (toolCall : ToolCallRecord) (dispatched : ExecutionAttemptRecordV1) :
    Execution → LocalCall ToolCallRecord
  | .throws error =>
      abandonToolCall execution toolCall dispatched
        (error.codeOr "executor_threw_after_dispatch") error
  | .notAPromise => .throw (.named "TypeError" "execution.catch is not a function")
  | .rejects error => do
      LocalCall.audit "execution.attempt_dispatched"
      abandonToolCall execution toolCall dispatched "executor_threw_after_dispatch" error
  | .resolves returned => do
      LocalCall.audit "execution.attempt_dispatched"
      let _ ← completeExecutionAttempt dispatched .succeeded (successOutcome returned)
      recordExecutedToolCall config execution toolCall returned

/-- From the dispatched attempt on. -/
def executeDispatched (config : LocalConfig) (execution : ToolCallExecution)
    (toolCall : ToolCallRecord) (authorization : IssuedAuthorization)
    (dispatched : ExecutionAttemptRecordV1) : LocalCall ToolCallRecord := do
  match ← (currentLocalExecutionAuthorizationBinding config execution dispatched toolCall
      .dispatched).attempt with
  | .error error =>
      abandonToolCall execution toolCall dispatched "execution_authorization_binding_mismatch" error
  | .ok current => do
      let invoked ← Prog.call (ToolRegistry.execute config
        { authorization := authorization
          current := current
          attempt := dispatched
          toolName := execution.toolCall.toolName
          input := execution.input })
      match invoked with
      | .error error =>
          abandonToolCall execution toolCall dispatched
            (error.codeOr "executor_threw_after_dispatch") error
      | .ok invoked => settleExecution config execution toolCall dispatched invoked

/-- A rejected transition because the content exposures changed. -/
def isInfluenceConflict : GateError → Bool
  | .service (.conflict message) =>
      decide ("content_influence_mismatch".toList <:+: message.toList)
  | _ => false

/-- From the authorization on: the current binding and the dispatch. -/
def executeAuthorized (config : LocalConfig) (execution : ToolCallExecution)
    (toolCall : ToolCallRecord) (attempt : ExecutionAttemptRecordV1)
    (authorization : IssuedAuthorization) : LocalCall ToolCallRecord := do
  match ← (currentLocalExecutionAuthorizationBinding config execution attempt toolCall
      .reserved).attempt with
  | .error error =>
      refuseToolCall execution toolCall attempt error.name
        "execution_authorization_binding_mismatch" error.message
  | .ok _ => do
      match ← (transitionExecutionAttempt attempt .reserved rfl .dispatched none
          (contentExposureRevisionGuard toolCall)).attempt with
      | .ok dispatched => executeDispatched config execution toolCall authorization dispatched
      | .error error =>
          if isInfluenceConflict error then do
            LocalCall.auditBestEffort "content.influence_binding_stale"
            refuseToolCall execution toolCall attempt error.name
              "content_influence_binding_stale" error.message
          else .throw error

def localExecutionDisabledMessage : String :=
  "Local tool execution is disabled. Use metadata.actionproxyExecution = \"external\" for proxy " ++
    "execution, or set ACTIONPROXY_LOCAL_EXECUTION=mock for local demo tools."

/-- From the reserved attempt on. -/
def executeReserved (config : LocalConfig) (execution : ToolCallExecution)
    (toolCall : ToolCallRecord) (attempt : ExecutionAttemptRecordV1) :
    LocalCall ToolCallRecord :=
  if config.localExecutionDisabled then
    refuseToolCall execution toolCall attempt "execution_preflight" "local_execution_disabled"
      localExecutionDisabledMessage
  else if (config.tools execution.toolCall.toolName).isNone then
    refuseToolCall execution toolCall attempt "execution_preflight" "tool_not_registered"
      ("No tool registered for " ++ execution.toolCall.toolName)
  else do
    let revalidation ← LocalCall.gate
      (finalPolicyRevalidation config.toGateConfig toolCall execution.input)
    match revalidation.failure with
    | some message =>
        refuseToolCall execution toolCall attempt "execution_authorization"
          "execution_authorization_policy_revalidation_failed" message
    | none => do
        let now ← LocalCall.gate Gate.now
        match authorizeLocalExecution now.millis execution attempt toolCall with
        | .error error =>
            refuseToolCall execution toolCall attempt error.name
              (error.codeOr "execution_authorization_issue_failed") error.message
        | .ok authorization => executeAuthorized config execution toolCall attempt authorization

def executeToolCall [RandomSource] (config : LocalConfig) (execution : ToolCallExecution) :
    LocalCall ToolCallRecord := do
  let revalidation ← LocalCall.gate
    (finalPolicyRevalidation config.toGateConfig execution.toolCall execution.input)
  match revalidation.failure with
  | some message => failToolCall execution execution.toolCall message
  | none => do
      let baseToolCall := toolCallForInput execution.toolCall execution.input
      let attempt ← reserveExecutionAttempt execution baseToolCall
      executeReserved config execution baseToolCall attempt

end

end ActionProxy
