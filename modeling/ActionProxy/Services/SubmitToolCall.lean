import ActionProxy.Routes.AuthorizedActions
import ActionProxy.Services.ApprovalDecisions

/-!
Submitting a tool call: the fast path of an idempotency key, the evaluation, the record that
is created for the key or replayed, and what its decision leads to. A prepared action is
never submitted, as no lifecycle of prepared actions is installed.
-/

namespace ActionProxy

open JsonText Interleaving

/-! ### Calls -/

/-- A submission and what the approver directory answers for it. -/
structure SubmitCall where
  request : SubmitToolCallRequest
  options : SubmitToolCallOptions
  actionContractId : Option String
  connectionId : Option String
  supersedesIntentId : Option String
  approverResolution : Json
  resolvedRecipients : Option (List String)

def SubmitToolCallRequest.json (request : SubmitToolCallRequest) : Json :=
  .obj [
    ("toolName", some (.str request.toolName)),
    ("input", some (.obj request.input)),
    ("requestedBy", some (.str request.requestedBy)),
    ("agentId", some (.str request.agentId)),
    ("reason", some (.str request.reason)),
    ("action", request.action.map .obj),
    ("metadata", request.metadata.map .obj)]

def submitRoute : String := "POST /v1/tool-calls"

namespace SubmitCall

def workspaceId (call : SubmitCall) (config : GateConfig) : String :=
  (call.options.auth.map AuthContext.workspaceId <|> config.workspaceId).getD "default"

/-- Where the idempotency record of a key is stored. -/
def idempotencyKey (call : SubmitCall) (config : GateConfig) (key : String) :
    String × String × String :=
  (call.workspaceId config, submitRoute, key)

def requestHash [Runtime] (call : SubmitCall) : String :=
  hashJson (.obj [
    ("actionContractId", nullable call.actionContractId),
    ("connectionId", nullable call.connectionId),
    ("forceApproval", some (.bool call.options.forceApproval)),
    ("proposalRequest", some call.request.json),
    ("route", some (.str submitRoute)),
    ("supersedesIntentId", nullable call.supersedesIntentId),
    ("toolCallId", some .null),
    ("revision", some .null)])

/-- The idempotency record a submission with a key is to create. -/
def reservation [Runtime] (call : SubmitCall) (config : GateConfig) (now : Instant)
    (toolCallId : String) : Option IdempotencyRecord :=
  (nonEmpty call.options.idempotencyKey).map fun key =>
    { createdAt := now.text
      key := key
      requestHash := call.requestHash
      route := submitRoute
      toolCallId := toolCallId
      workspaceId := call.workspaceId config }

end SubmitCall

/-! ### The records of the store -/

namespace MemoryStore

def createToolCall (store : MemoryStore) (record : ToolCallRecord) : MemoryStore :=
  { store with toolCalls := store.toolCalls.set record.id record }

def createApproval (store : MemoryStore) (record : ApprovalRecord) : MemoryStore :=
  { store with approvals := store.approvals.set record.id record }

end MemoryStore

inductive IdempotentOutcome where
  | conflict | created | replay
  deriving DecidableEq

structure IdempotentResult where
  outcome : IdempotentOutcome
  toolCall : ToolCallRecord

/-- The candidate of an idempotency record is its tool call, in its workspace. -/
def idempotencyCandidateFails (idempotency : IdempotencyRecord) (toolCall : ToolCallRecord) :
    Bool :=
  idempotency.toolCallId != toolCall.id || idempotency.workspaceId != toolCall.workspace

def createToolCallIdempotentlyAtomically (idempotency : IdempotencyRecord)
    (toolCall : ToolCallRecord) (server : Server) : Except GateError IdempotentResult × Server :=
  if idempotencyCandidateFails idempotency toolCall then
    (.error (.named "Error" "Idempotency reservation does not match the candidate tool call."),
      server)
  else
    let key := (idempotency.workspaceId, idempotency.route, idempotency.key)
    match server.idempotency.get? key with
    | some current =>
        match server.store.toolCalls.get? current.toolCallId with
        | none =>
            (.error (.named "Error" ("Idempotency record references missing tool call: " ++
              current.toolCallId)), server)
        | some existing =>
            (.ok
              { outcome :=
                  if current.requestHash = idempotency.requestHash then .replay else .conflict
                toolCall := existing }, server)
    | none =>
        if (server.store.toolCalls.get? toolCall.id).isSome then
          (.error (.named "Error" ("Tool call already exists without this idempotency " ++
            "reservation: " ++ toolCall.id)), server)
        else
          (.ok { outcome := .created, toolCall := toolCall },
            { server with
              store := server.store.createToolCall toolCall
              idempotency := server.idempotency.set key idempotency })

/-- A call of the store on its idempotency records, which may fail. -/
def LocalCall.onIdempotency {α : Type} (operation : Server → Except GateError α × Server) :
    LocalCall α :=
  (Prog.call fun state =>
    let answer := operation state.server
    match state.storeMood with
    | .answers => (answer.1, state.setServer answer.2)
    | .rejects error performed =>
        (.error error, if performed then state.setServer answer.2 else state)).bind Prog.ofExcept

def getIdempotencyRecord (key : String × String × String) :
    LocalCall (Option IdempotencyRecord) :=
  LocalCall.onIdempotency fun server => (.ok (server.idempotency.get? key), server)

/-! ### Replays -/

def getToolCall (id : String) (auth : Option AuthContext) : LocalCall ToolCallRecord := do
  let toolCall ← LocalCall.readStore fun store => store.toolCalls.get? id
  match toolCall with
  | none => LocalCall.fail (.notFound ("Tool call not found: " ++ id))
  | some toolCall => do
      LocalCall.allowed (assertWorkspace toolCall.workspaceId auth)
      pure toolCall

def replayToolCall (id : String) (auth : Option AuthContext) : LocalCall GateAnswer := do
  let toolCall ← getToolCall id auth
  let approval ← LocalCall.readStore fun store => store.getApprovalByToolCallId toolCall.id
  pure { toolCall := toolCall, approval := approval }

def idempotencyConflict : ServiceError :=
  .conflict "Idempotency key was already used for a different request."

/-! ### The evaluated submission -/

/-- The exposures a scope is seen to have, where the store answers. -/
def LocalServer.seenExposures (state : LocalServer) (input : ListContentExposuresInput) :
    Option ListContentExposuresResult :=
  match state.storeMood with
  | .answers => some (state.server.store.listContentExposures input)
  | .rejects _ _ => none

section

variable [Runtime]

/-- The record of a submission whose result source is frozen under a later policy. -/
def Submission.recordUnder (submission : Submission) (config : GateConfig) (later : PolicyFile) :
    Except String ToolCallRecord := do
  let canonical ← submission.canonical config
  let traced ← submission.traced config canonical
  return withheldFromStart
    { traced with
      resultSource := (submission.evaluate config canonical).evaluation.rule.bind
        fun rule => frozenResultSourceJson rule later }

/-- A submission that was evaluated, with its record. -/
structure EvaluatedSubmission where
  submission : Submission
  evaluated : SubmissionEvaluation
  toolCall : ToolCallRecord

def Submission.evaluatedUnder (submission : Submission) (config : GateConfig)
    (later : PolicyFile) : Except String EvaluatedSubmission := do
  let canonical ← submission.canonical config
  let toolCall ← submission.recordUnder config later
  pure
    { submission := submission
      evaluated := submission.evaluate config canonical
      toolCall := toolCall }

variable [RandomSource]

/-- The evaluation of a submission: the policy may be replaced before its result source is
frozen. -/
def evaluateSubmission (config : ActionProxyConfig) (call : SubmitCall) (now : Instant) :
    LocalCall EvaluatedSubmission := do
  let id ← LocalCall.gate Gate.randomUUID
  let active ← LocalCall.gate (Prog.read Server.policy)
  let exposures ← Prog.read LocalServer.seenExposures
  let freezing ← LocalCall.gate (Prog.read Server.policy)
  let submission : Submission :=
    { request := call.request
      options := call.options
      prepared := none
      toolCallId := "toolcall_" ++ id
      now := now
      policy := active.policy
      listContentExposures := exposures
      approverResolution := call.approverResolution }
  Prog.ofExcept ((submission.evaluatedUnder config.toGateConfig freezing.policy).mapError
    fun message => .named "Error" message)

/-! ### Creation -/

omit [Runtime] [RandomSource] in
/-- The record is created, or the tool call that was created for its key is given. -/
def reserveToolCall (reservation : Option IdempotencyRecord) (toolCall : ToolCallRecord) :
    LocalCall IdempotentResult :=
  match reservation with
  | none => do
      LocalCall.onStore fun _ store => ((), store.createToolCall toolCall)
      pure { outcome := .created, toolCall := toolCall }
  | some idempotency =>
      LocalCall.onIdempotency (createToolCallIdempotentlyAtomically idempotency toolCall)

/-! ### What a decision leads to -/

omit [RandomSource] in
/-- The audit events of a record that was created. -/
def auditSubmission (evaluated : SubmissionEvaluation) : LocalCall Unit := do
  LocalCall.audit "tool_call.submitted"
  LocalCall.audit "action.envelope_created"
  match evaluated.influence with
  | none => pure ()
  | some evidence => do
      LocalCall.audit "content.influence_evaluated"
      if evidence.baseDecision ≠ .deny ∧ evidence.effectiveDecision = .deny then
        LocalCall.audit "content.influence_denied"
      else pure ()

omit [Runtime] [RandomSource] in
def blockToolCall (toolCall : ToolCallRecord) : LocalCall GateAnswer := do
  let now ← LocalCall.gate Gate.now
  let blocked : ToolCallRecord :=
    { toolCall with status := .blocked, updatedAt := now.text }
  LocalCall.onStore fun _ store => ((), store.updateToolCall blocked)
  LocalCall.audit "policy.deny"
  pure { toolCall := blocked, approval := none }

omit [Runtime] [RandomSource] in
def noRule : GateError := .named "TypeError" "Cannot read properties of undefined"

/-- The publication of a pending approval; its nonce is drawn like an identifier. -/
def publishApproval (config : ActionProxyConfig) (call : SubmitCall)
    (submitted : EvaluatedSubmission) (rule : PolicyRule) : LocalCall GateAnswer := do
  let approvalId ← LocalCall.gate Gate.randomUUID
  let nonce ← LocalCall.gate Gate.randomUUID
  let candidate ← Prog.ofExcept ((buildPendingApprovalCandidate config.toGateConfig
    (submitted.submission.pendingApproval config.toGateConfig submitted.toolCall rule
      call.resolvedRecipients ("approval_" ++ approvalId) nonce)).mapError
    fun message => .named "RangeError" message)
  LocalCall.onStore fun _ store => ((), store.updateToolCall candidate.toolCall)
  LocalCall.onStore fun _ store => ((), store.createApproval candidate.approval)
  LocalCall.audit "policy.require_approval"
  if submitted.evaluated.influence.any (fun evidence => evidence.baseDecision == .allow) then
    LocalCall.audit "content.influence_approval_required"
  else pure ()
  LocalCall.audit "approval.created"
  pure { toolCall := candidate.toolCall, approval := some candidate.approval }

/-- The execution of an action that the policy allows. -/
def executeAllowed (config : ActionProxyConfig) (submitted : EvaluatedSubmission) :
    LocalCall GateAnswer := do
  let submission := submitted.submission
  let actor := actorForSubmit submission.effective submission.options.auth
  LocalCall.audit "policy.allow"
  let receipt ← createActionReceipt config
    { actor := actor
      approval := none
      auth := submission.options.auth
      decisionKind := .policyAllow
      input := submission.effective.input
      reviewHash := none
      toolCall := submitted.toolCall }
  let executed ← releaseExecution config
    { toolCall := submitted.toolCall
      input := submission.effective.input
      actor := actor
      auth := submission.options.auth
      receipt := some receipt
      approval := none }
    submission.actionEnvelope.executionMode
    ((submitted.evaluated.evaluation.rule.bind PolicyRule.externalExecution).bind
      (·.grantTtlSeconds))
  pure { toolCall := executed, approval := none }

/-- From the created record on. -/
def continueSubmission (config : ActionProxyConfig) (call : SubmitCall)
    (submitted : EvaluatedSubmission) : LocalCall GateAnswer := do
  auditSubmission submitted.evaluated
  match submitted.evaluated.evaluation.decision with
  | .deny => blockToolCall submitted.toolCall
  | .requireApproval =>
      match submitted.evaluated.evaluation.rule with
      | none => .throw noRule
      | some rule => publishApproval config call submitted rule
  | .allow => executeAllowed config submitted

/-! ### The call -/

/-- A submission whose key, if it has one, was not found. -/
def submitNew (config : ActionProxyConfig) (call : SubmitCall) (now : Instant) :
    LocalCall GateAnswer := do
  let submitted ← evaluateSubmission config call now
  let reserved ← reserveToolCall
    (call.reservation config.toGateConfig now submitted.toolCall.id) submitted.toolCall
  match reserved.outcome with
  | .conflict => LocalCall.fail idempotencyConflict
  | .replay => replayToolCall reserved.toolCall.id call.options.auth
  | .created => continueSubmission config call { submitted with toolCall := reserved.toolCall }

def submitToolCall (config : ActionProxyConfig) (call : SubmitCall) : LocalCall GateAnswer := do
  let now ← LocalCall.gate Gate.now
  match nonEmpty call.options.idempotencyKey with
  | none => submitNew config call now
  | some key => do
      let existing ← getIdempotencyRecord (call.idempotencyKey config.toGateConfig key)
      match existing with
      | none => submitNew config call now
      | some existing =>
          if existing.requestHash ≠ call.requestHash then LocalCall.fail idempotencyConflict
          else replayToolCall existing.toolCallId call.options.auth

end

end ActionProxy
