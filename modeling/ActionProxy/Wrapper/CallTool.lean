import ActionProxy.Contracts.ActionRequest
import ActionProxy.Foundation.Dialogue
import ActionProxy.Foundation.LooseValue
import ActionProxy.Wrapper.JsonRpcFramer

/-!
`callTool` of the wrapper as a conversation with the gateway, the downstream server and
the caller's abort signal. What the gateway and the server answer, and whether they do,
is up to them.
-/

namespace ActionProxy.Wrapper

open Dialogue Utf8Stream TextScan JsonText

def DEFAULT_MAX_MCP_RESULT_BYTES : Nat := 1024 * 1024

structure WrapperConfig where
  agentId : Option String
  requestedBy : Option String
  approvalPollIntervalMs : Option Nat
  approvalTimeoutMs : Option Nat
  cancelPendingOnAbort : Option Bool

/-- The wrapper after `initialize`: its routes, each to the server of a name. -/
structure ActionProxyMcpWrapper where
  config : WrapperConfig
  routes : List (String × String)
  directSessionNonce : String
  directCallId : Nat

/-- `options` of a call; the signal is there or not. -/
structure CallOptions where
  idempotencyKey : Option String
  signal : Bool

structure ConsumeInput where
  input : Option Json
  policyVersionHash : Option Json
  toolCallId : Option Json
  toolName : String

structure ResultDelivery where
  byteCount : Nat
  canonicalResultHash : String
  modelVisible : Bool
  version : String
deriving DecidableEq

inductive OutcomeStatus where
  | cancelled
  | failed
  | timed_out
  | unknown_outcome
  | succeeded
deriving DecidableEq, Repr

structure OutcomeReport where
  error : Option String
  result : Option Json
  resultDelivery : Option ResultDelivery
  status : OutcomeStatus

/-- What is sent to the gateway or the downstream server. -/
inductive Request where
  | submitToolCall (body : Json) (idempotencyKey : String) (signal : Bool)
  | waitForToolCall (id : Option Json) (intervalMs timeoutMs : Nat) (signal : Bool)
  | cancelApproval (approvalId : Option Json) (cancelledBy reason : String)
  | consumeExecutionGrant (grantId : String) (input : ConsumeInput) (signal : Bool)
  | reportExecutionGrantOutcome (grantId : String) (report : OutcomeReport)
  | callDownstream (server name : String) (input : Option Json) (signal : Bool)

/-- What a call asks: whether its signal is aborted now, or a request. -/
inductive Question where
  | aborted
  | request (request : Request)

def Question.Answer : Question → Type
  | .aborted => Bool
  | .request _ => Except Thrown (Option Json)

abbrev Call (α : Type) : Type := Talk Question Question.Answer Thrown α

def Call.request (request : Request) : Call (Option Json) :=
  .ask (.request request) (fun answer => Talk.ofExcept answer)

def CallOptions.aborted (options : CallOptions) : Call Bool :=
  if options.signal then .ask .aborted (fun answer => .pure answer) else .pure false

/-! ### Texts and checks -/

def errorResult (text : Json) : Json :=
  .obj [("content", some (.arr [.obj [("text", some text), ("type", some (.str "text"))]])),
    ("isError", some (.bool true))]

def DOWNSTREAM_TIMEOUT_MESSAGE : String :=
  "Downstream MCP execution timed out after dispatch. ActionProxy recorded the uncertain outcome; do not retry automatically."

def DOWNSTREAM_UNKNOWN_OUTCOME_MESSAGE : String :=
  "Downstream MCP execution ended without a trusted result. ActionProxy recorded the uncertain outcome; do not retry automatically."

def DOWNSTREAM_OUTCOME_REPORTING_FAILURE_MESSAGE : String :=
  "Downstream MCP execution ended without a trusted result, and ActionProxy outcome reporting failed. Do not retry automatically."

def outputLimit (message : String) : Thrown := .error "McpOutputLimitError" message

def assertJsonWithinLimit (value : Json) (maxBytes : Nat) (label : String) : Except Thrown Unit :=
  if maxBytes < byteLength (textWith insertionOrder value) then
    .error (outputLimit (label ++ " exceeds " ++ toString maxBytes ++ " bytes."))
  else .ok ()

def validateContentItem (item : Json) : Except Thrown Unit :=
  match item with
  | .obj members =>
      match member? members "type", member? members "text" with
      | some (.str "text"), some (.str _) => .ok ()
      | some (.str "text"), _ =>
          .error (outputLimit "Downstream MCP text content must contain text.")
      | _, _ => .ok ()
  | _ => .error (outputLimit "Downstream MCP result content must contain objects.")

def validateMcpCallResult (result : Option Json) : Except Thrown Json :=
  match result with
  | some (.obj members) =>
      match member? members "content" with
      | some (.arr content) =>
          match member? members "isError" with
          | none | some (.bool _) => do
              content.forM validateContentItem
              assertJsonWithinLimit (.obj members) DEFAULT_MAX_MCP_RESULT_BYTES "MCP tool result"
              return .obj members
          | some _ => .error (outputLimit "Downstream MCP server returned an invalid isError value.")
      | _ => .error (outputLimit "Downstream MCP server returned an invalid tool result.")
  | _ => .error (outputLimit "Downstream MCP server returned an invalid tool result.")

def normalizeMcpCallResult (nearest : JsonNumber → Option JsonNumber) (result : Json) :
    Except Thrown Json :=
  match jsonParse nearest (String.ofList (textWith insertionOrder result)) with
  | none => .error (.error "SyntaxError" "Unexpected token in JSON")
  | some normalized => validateMcpCallResult (some normalized)

def textOfItem (item : Json) : Option String :=
  match field? item "type", field? item "text" with
  | some (.str "text"), some (.str text) => content text
  | _, _ => none

def textFromMcpResult (result : Json) : Option String :=
  match field? result "content" with
  | some (.arr items) =>
      match items.filterMap textOfItem with
      | [] => none
      | texts => some (String.intercalate "\n" texts)
  | _ => none

structure ExecutionGrant where
  id : String
  policyVersionHash : Option Json

def executionGrantFromResult (result : Option Json) : Option ExecutionGrant := do
  let members ← asRecord? result
  let grant ← asRecord? (member? members "grant")
  match member? grant "id" with
  | some (.str id) =>
      some
        { id := id
          policyVersionHash :=
            match member? grant "policyVersionHash" with
            | some (.str hash) => some (.str hash)
            | _ => none }
  | _ => none

def formatDeniedResult (toolCall : Option Json) : Except Thrown Json := do
  let status ← property toolCall "status"
  if equalsText status "blocked" then
    return .str "ActionProxy blocked this MCP tool call."
  else if equalsText status "rejected" then
    return .str "ActionProxy approval was rejected."
  else if equalsText status "failed" then do
    let error ← property toolCall "error"
    return (orElse error (some (.str "ActionProxy failed this MCP tool call."))).getD .null
  else
    return .str ("ActionProxy did not authorize execution. Status: " ++ inTemplate status)

/-! ### Canonical texts -/

/-- `left < right ? -1 : left > right ? 1 : 0`. -/
def compareKeys (left right : String) : Ordering :=
  if codeUnits left < codeUnits right then .lt
  else if codeUnits right < codeUnits left then .gt
  else .eq

mutual

/-- The wrapper's own serializer, on what `JSON.parse` answers. -/
def canonicalText : Json → List Char
  | .null => ['n', 'u', 'l', 'l']
  | .bool value => textWith insertionOrder (.bool value)
  | .num value => textWith insertionOrder (.num value)
  | .str value => textWith insertionOrder (.str value)
  | .arr items => '[' :: (commaSeparated (canonicalItems items) ++ [']'])
  | .obj members =>
      let sorted := sortedOrder fun left right => (compareKeys left right).isLE
      '\x7b' ::
        (commaSeparated ((sorted.arrange (canonicalEntries members)).map entryText) ++ ['\x7d'])

def canonicalItems : List Json → List (List Char)
  | [] => []
  | item :: rest => canonicalText item :: canonicalItems rest

/-- Every member that is not undefined, with the text of its value. -/
def canonicalEntries : List (String × Option Json) → List (String × List Char)
  | [] => []
  | (_, none) :: rest => canonicalEntries rest
  | (key, some value) :: rest => (key, canonicalText value) :: canonicalEntries rest

end

def canonicalJsonStringify (value : Json) : String := String.ofList (canonicalText value)

/-! ### The call -/

section

variable [Runtime] (nearest : JsonNumber → Option JsonNumber)

def resultDeliveryForMcpResult (result : Json) : ResultDelivery :=
  let canonicalResult := canonicalJsonStringify result
  { byteCount := byteLength canonicalResult.toList
    canonicalResultHash := sha256Hex canonicalResult
    modelVisible := true
    version := "actionproxy.result-delivery.v1" }

def includesAny (text : String) (parts : List String) : Bool :=
  parts.any fun part => decide (part.toList <:+: text.toList)

def operationKindFromToolName (name : String) : String :=
  let normalized := Runtime.toLowerCase name
  if includesAny normalized ["delete", "remove"] then "delete"
  else if includesAny normalized ["send", "email", "slack"] then "external_send"
  else if includesAny normalized ["search", "list", "get"] then "read"
  else if includesAny normalized ["pay", "invoice", "refund"] then "financial"
  else if includesAny normalized ["create", "update", "write"] then "write"
  else "custom"

/-- `mcpIdempotencyKey` of a text. -/
def mcpIdempotencyKey (sessionNonce id : String) : String :=
  "mcp-stdio-v1_" ++ sha256Hex (sessionNonce ++ "\x00string\x00" ++ id)

def submission (wrapper : ActionProxyMcpWrapper) (serverName name : String) (args : JsonObject) :
    Json :=
  let config := wrapper.config
  .obj
    [("action", some (.obj
        [("executionMode", some (.str "external_grant")),
          ("operation", some (.obj
            [("name", some (.str name)), ("kind", some (.str (operationKindFromToolName name)))])),
          ("protocol", some (.str "mcp")),
          ("resources", some (.arr
            [.obj [("name", some (.str name)), ("type", some (.str "mcp.tool"))]])),
          ("source", some (.obj
            [("name", some (.str serverName)), ("type", some (.str "mcp_server"))]))])),
      ("agentId", some (.str (config.agentId.getD "actionproxy-mcp-wrapper"))),
      ("input", some (.obj args)),
      ("metadata", some (.obj
        [("actionproxyExecution", some (.str "external")), ("source", some (.str "mcp-wrapper")),
          ("mcpServer", some (.str serverName)), ("mcpTool", some (.str name))])),
      ("reason", some (.str ("MCP tool call " ++ name ++ " from server " ++ serverName))),
      ("requestedBy", some (.str (config.requestedBy.getD "mcp-host"))),
      ("toolName", some (.str name))]

def throwIfAborted (options : CallOptions) : Call Unit := do
  if ← options.aborted then
    .throw (.error "McpRequestCancelledError" "MCP request was cancelled.")
  else pure ()

def isAbandonedApprovalWait (error : Thrown) (options : CallOptions) : Call Bool := do
  if ← options.aborted then pure true
  else
    pure (error.instanceOf "ApprovalWaitTimeoutError" ||
      error.instanceOf "McpRequestCancelledError")

/-- Cancel the approval. A concurrent decision may have won; that error is dropped. -/
def cancelPending (wrapper : ActionProxyMcpWrapper) (options : CallOptions)
    (approvalId : Option Json) : Call Unit := do
  let aborted ← options.aborted
  let reason :=
    if aborted then "Upstream MCP request was cancelled before approval completed."
    else "Upstream MCP approval wait expired before approval completed."
  let _ ← (Call.request (.cancelApproval approvalId
    (wrapper.config.requestedBy.getD "actionproxy-mcp-wrapper") reason)).attempt
  pure ()

/-- What is done when the wait for an approval fails, before the error is thrown on. -/
def cancelAbandonedApproval (wrapper : ActionProxyMcpWrapper) (options : CallOptions)
    (submitted : Option Json) (error : Thrown) : Call Unit := do
  let approvalId := optionalProperty (optionalProperty submitted "approval") "id"
  if wrapper.config.cancelPendingOnAbort = some true ∧ truthy approvalId = true then
    let abandoned ← isAbandonedApprovalWait error options
    if abandoned then cancelPending wrapper options approvalId else pure ()
  else pure ()

/-- The tool call once it is decided. -/
def decidedToolCall (wrapper : ActionProxyMcpWrapper) (options : CallOptions)
    (submitted : Option Json) : Call (Option Json) := do
  let toolCall ← Talk.ofExcept (property submitted "toolCall")
  let status ← Talk.ofExcept (property submitted "status")
  if equalsText status "pending_approval" then
    let id ← Talk.ofExcept (property submitted "id")
    match ← (Call.request (.waitForToolCall id
        (wrapper.config.approvalPollIntervalMs.getD 1000)
        (wrapper.config.approvalTimeoutMs.getD 120000) options.signal)).attempt with
    | .ok decided => pure decided
    | .error error => do
        cancelAbandonedApproval wrapper options submitted error
        .throw error
  else pure toolCall

/-- Consume the grant; the text of the refusal when that fails. -/
def consumeGrant (options : CallOptions) (grantId : String) (consumeInput : ConsumeInput) :
    Call (Option String) := do
  match ← (Call.request (.consumeExecutionGrant grantId consumeInput options.signal)).attempt with
  | .ok _ => pure none
  | .error error => do
      let message := errorMessage error
      if error.instanceOf "ActionProxyRequestTimeoutError" ||
          error.instanceOf "McpRequestCancelledError" then
        -- the grant may have been dispatched; consumption is not tried again
        let _ ← (Call.request (.reportExecutionGrantOutcome grantId
          { error := some message
            result := none
            resultDelivery := none
            status :=
              if error.instanceOf "ActionProxyRequestTimeoutError" then .timed_out
              else .unknown_outcome })).attempt
        pure (some message)
      else pure (some message)

/-- Call the downstream server and check what it answers. -/
def callDownstream (options : CallOptions) (server name : String) (input : Option Json) :
    Call Json := do
  let answer ← Call.request (.callDownstream server name input options.signal)
  let result ← Talk.ofExcept (validateMcpCallResult answer)
  Talk.ofExcept (normalizeMcpCallResult nearest result)

/-- Report the failure of a call that was dispatched. -/
def reportDownstreamError (grantId : String) (error : Thrown) : Call Json := do
  let timedOut := error.instanceOf "McpRequestTimeoutError"
  let recordedError :=
    if timedOut then "Downstream MCP transport timed out after dispatch."
    else "Downstream MCP transport failed after dispatch."
  match ← (Call.request (.reportExecutionGrantOutcome grantId
      { error := some recordedError
        result := none
        resultDelivery := none
        status := if timedOut then .timed_out else .unknown_outcome })).attempt with
  | .error _ => pure (errorResult (.str DOWNSTREAM_OUTCOME_REPORTING_FAILURE_MESSAGE))
  | .ok _ =>
      pure (errorResult (.str
        (if timedOut then DOWNSTREAM_TIMEOUT_MESSAGE else DOWNSTREAM_UNKNOWN_OUTCOME_MESSAGE)))

/-- What is reported of a result. -/
def resultReport (result : Json) : OutcomeReport :=
  if truthy (field? result "isError") then
    { error := some ((textFromMcpResult result).getD
        "Downstream MCP tool returned an error result.")
      result := some result
      resultDelivery := some (resultDeliveryForMcpResult result)
      status := .failed }
  else
    { error := none
      result := some result
      resultDelivery := some (resultDeliveryForMcpResult result)
      status := .succeeded }

/-- Report the result, and only then return it. -/
def reportResult (grantId : String) (result : Json) : Call Json := do
  match ← (Call.request (.reportExecutionGrantOutcome grantId (resultReport result))).attempt with
  | .error _ => pure (errorResult (.str DOWNSTREAM_OUTCOME_REPORTING_FAILURE_MESSAGE))
  | .ok _ => pure result

/-- What follows the consumption of the grant. -/
def dispatchConsumed (options : CallOptions) (server name : String) (input : Option Json)
    (grantId : String) : Call Json := do
  if ← options.aborted then
    match ← (Call.request (.reportExecutionGrantOutcome grantId
        { error := some "MCP request was cancelled before downstream dispatch."
          result := none
          resultDelivery := none
          status := .cancelled })).attempt with
    | .error error =>
        pure (errorResult (.str
          ("MCP request was cancelled and ActionProxy outcome reporting failed: " ++
            errorMessage error)))
    | .ok _ => pure (errorResult (.str "MCP request was cancelled before downstream dispatch."))
  else
    match ← (callDownstream nearest options server name input).attempt with
    | .error error => reportDownstreamError grantId error
    | .ok result => reportResult grantId result

/-- What follows an authorization. -/
def executeAuthorized (options : CallOptions) (server name : String) (args : JsonObject)
    (finalToolCall : Option Json) : Call Json := do
  let input ← Talk.ofExcept (property finalToolCall "input")
  let executionInput := orElse input (some (.obj args))
  let result ← Talk.ofExcept (property finalToolCall "result")
  match executionGrantFromResult result with
  | none =>
      pure (errorResult (.str
        "ActionProxy authorized external execution without an execution grant; downstream call was not forwarded."))
  | some grant => do
      let policyVersionHash ← Talk.ofExcept (property finalToolCall "policyVersionHash")
      let toolCallId ← Talk.ofExcept (property finalToolCall "id")
      match ← consumeGrant options grant.id
          { input := executionInput
            policyVersionHash := orElse policyVersionHash grant.policyVersionHash
            toolCallId := toolCallId
            toolName := name } with
      | some message =>
          pure (errorResult (.str ("ActionProxy execution grant could not be consumed: " ++ message)))
      | none => dispatchConsumed nearest options server name executionInput grant.id

def callTool (wrapper : ActionProxyMcpWrapper) (name : String) (args : JsonObject)
    (options : CallOptions) : Call Json := do
  match wrapper.routes.lookup name with
  | none => pure (errorResult (.str ("Unknown MCP tool: " ++ name)))
  | some server => do
      throwIfAborted options
      Talk.ofExcept (assertJsonWithinLimit (.obj args) DEFAULT_MAX_FRAME_BYTES "MCP tool arguments")
      let idempotencyKey := options.idempotencyKey.getD
        (mcpIdempotencyKey wrapper.directSessionNonce ("direct-" ++ toString wrapper.directCallId))
      let submitted ← Call.request
        (.submitToolCall (submission wrapper server name args) idempotencyKey options.signal)
      let finalToolCall ← decidedToolCall wrapper options submitted
      let status ← Talk.ofExcept (property finalToolCall "status")
      if !equalsText status "authorized" && !equalsText status "executed" then
        let denied ← Talk.ofExcept (formatDeniedResult finalToolCall)
        pure (errorResult denied)
      else executeAuthorized nearest options server name args finalToolCall

end

end ActionProxy.Wrapper
