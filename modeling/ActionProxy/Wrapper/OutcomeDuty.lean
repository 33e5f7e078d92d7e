import ActionProxy.Wrapper.DispatchDiscipline

/-!
Whether a grant that the server has consumed is reported before `callTool` ends. The
server may have consumed it although the request that asked for it failed; what the
wrapper does then depends on how it failed.
-/

namespace ActionProxy.Wrapper

open Dialogue Talk JsonText Utf8Stream

/-! ### A request of the gateway -/

structure HttpActionProxyGatewayOptions where
  maxResponseBytes : Nat := 1024 * 1024
  requestTimeoutMs : Nat := 30000

/-- A response; reading its body may fail. -/
structure GatewayResponse where
  status : Nat
  body : Except Thrown (List UInt8)

def GatewayResponse.ok (response : GatewayResponse) : Bool :=
  decide (200 ≤ response.status) && decide (response.status ≤ 299)

/-- What becomes of one request: whether the server does what is asked, whether the
timeout or the caller's signal have ended the request when it fails, and the response. -/
structure GatewayExchange where
  acted : Bool
  timedOut : Bool
  aborted : Bool
  response : Except Thrown GatewayResponse

def readResponseTextBounded (maxBytes : Nat) : Except Thrown (List UInt8) → Except Thrown String
  | .error error => .error error
  | .ok bytes =>
      if maxBytes < bytes.length then
        .error (outputLimit ("ActionProxy response exceeds " ++ toString maxBytes ++ " bytes."))
      else .ok (String.ofList (decode bytes))

/-- The error of a request that failed before its response was read. -/
def GatewayExchange.failure (options : HttpActionProxyGatewayOptions) (exchange : GatewayExchange)
    (error : Thrown) : Thrown :=
  if exchange.timedOut then
    .error "ActionProxyRequestTimeoutError"
      ("ActionProxy request timed out after " ++ toString options.requestTimeoutMs ++ "ms.")
  else if exchange.aborted then
    .error "McpRequestCancelledError" "MCP request was cancelled."
  else error

/-- `text ? JSON.parse(text) : undefined`; nothing for a text that is not JSON. -/
def parsedBody (nearest : JsonNumber → Option JsonNumber) (text : String) :
    Option (Option Json) :=
  if text = "" then some none else (jsonParse nearest text).map some

def GatewayResponse.result (nearest : JsonNumber → Option JsonNumber) (response : GatewayResponse)
    (text : String) : Except Thrown (Option Json) :=
  match parsedBody nearest text with
  | none => .error (.error "Error"
      ("ActionProxy returned invalid JSON with HTTP " ++ toString response.status ++ "."))
  | some body =>
      if response.ok then .ok body
      else .error (.error "Error"
        ("ActionProxy request failed: " ++ toString response.status ++ " " ++ text))

/-- `HttpActionProxyGateway.request`. -/
def GatewayExchange.answer (nearest : JsonNumber → Option JsonNumber)
    (options : HttpActionProxyGatewayOptions) (exchange : GatewayExchange) :
    Except Thrown (Option Json) :=
  match exchange.response with
  | .error error => .error (exchange.failure options error)
  | .ok response =>
      match readResponseTextBounded options.maxResponseBytes response.body with
      | .error error => .error (exchange.failure options error)
      | .ok text => response.result nearest text

/-- An error that says nothing of whether the server has acted. -/
def uncertain (error : Thrown) : Bool :=
  error.instanceOf "ActionProxyRequestTimeoutError" || error.instanceOf "McpRequestCancelledError"

/-- A request about the grant: to consume it or to report its outcome. -/
def ofGrant : Question → Prop
  | .request (.consumeExecutionGrant _ _ _) => True
  | .request (.reportExecutionGrantOutcome _ _) => True
  | _ => False

def notConsumption : Question → Prop
  | .request (.consumeExecutionGrant _ _ _) => False
  | _ => True

/-- Nothing was asked of a grant. -/
def Quiet (history : History) : Prop := ∀ exchange ∈ history, ¬ ofGrant exchange.1

theorem Quiet.later {history later : History} (quiet : Quiet history)
    (since : Extends (fun question => ¬ ofGrant question) history later) : Quiet later := by
  obtain ⟨more, rfl, asked⟩ := since
  intro exchange listed
  exact (List.mem_append.mp listed).elim (quiet exchange) (asked exchange)

/-- The one request to consume a grant was answered, and no other was made since. -/
structure Pending (grantId : String) (answer : Except Thrown (Option Json)) (history : History) :
    Prop where
  asked : ∃ before input signal more,
    history = before ++ ⟨.request (.consumeExecutionGrant grantId input signal), answer⟩ :: more ∧
      Quiet before ∧ ∀ exchange ∈ more, notConsumption exchange.1

theorem Pending.later {grantId : String} {answer : Except Thrown (Option Json)}
    {history later : History} (pending : Pending grantId answer history)
    (since : Extends notConsumption history later) : Pending grantId answer later := by
  obtain ⟨before, input, signal, more, rfl, quiet, others⟩ := pending
  obtain ⟨rest, rfl, asked⟩ := since
  refine ⟨before, input, signal, more ++ rest, by simp, quiet, ?_⟩
  intro exchange listed
  exact (List.mem_append.mp listed).elim (others exchange) (asked exchange)

section

variable {wrapper : ActionProxyMcpWrapper} {options : CallOptions}

end

/-! ### What a consumption leads to -/

section

variable {options : CallOptions} {grantId : String} {answer : Except Thrown (Option Json)}

variable [Runtime]

variable (nearest : JsonNumber → Option JsonNumber) {wrapper : ActionProxyMcpWrapper}

end

/-! ### Two runs -/

section

def authorizedToolCall : Json :=
  .obj [("id", some (.str "call")), ("input", some (.obj [])), ("status", some (.str "authorized")),
    ("result", some (.obj [("grant", some (.obj [("id", some (.str "grant"))]))]))]

def authorizedConsumption : ConsumeInput :=
  { input := some (.obj [])
    policyVersionHash := none
    toolCallId := some (.str "call")
    toolName := "refund" }

/-- The consume request of the call, with what becomes of it. -/
def consumed (exchange : GatewayExchange) : Exchange Question Question.Answer :=
  ⟨.request (.consumeExecutionGrant "grant" authorizedConsumption false),
    exchange.answer some { }⟩

end

end ActionProxy.Wrapper
