import ActionProxy.Wrapper.DispatchDiscipline
import ActionProxy.Foundation.KeyedTable

/-!
The stdio server: each message is handled at once, except that a tool call goes on until
the wrapper has answered it. Messages may come while calls are in flight, and calls end in
any order.
-/

namespace ActionProxy.Wrapper

open Dialogue JsonText

/-- A tool call in flight: the message it answers, and what is left of `callTool`. -/
structure ActiveCall where
  number : Nat
  id : Json
  key : String
  aborted : Bool
  conversation : Call Json

structure ServerState where
  /-- The call whose controller is under a key. -/
  activeCalls : KeyedTable String Nat
  calls : List ActiveCall
  received : Nat
  /-- The responses, each with the number of its message. -/
  sent : List (Nat × Json)

def ServerState.initial : ServerState :=
  { activeCalls := KeyedTable.empty, calls := [], received := 0, sent := [] }

/-! ### Ids -/

def typedJsonRpcId (id : Json) : String := typeOf id ++ ":" ++ spelled id

def jsonRpcId (value : Option Json) : Option Json :=
  match value with
  | some (.str text) => some (.str text)
  | some (.num number) => if isSafeInteger number then some (.num number) else none
  | _ => none

/-- `id ?? null`. -/
def idOrNull (id : Option Json) : Json := (orElse id none).getD .null

def response (id : Option Json) (result : Json) : Json :=
  .obj [("id", some (idOrNull id)), ("jsonrpc", some (.str "2.0")), ("result", some result)]

def rpcError (id : Option Json) (code : Int) (message : String) : Json :=
  .obj [("error", some (.obj [("code", some (.num (JsonNumber.ofInt code))),
      ("message", some (.str message))])),
    ("id", some (idOrNull id)), ("jsonrpc", some (.str "2.0"))]

/-! ### Handling a message -/

/-- The wrapper and the tools it lists, and the nonce of the session. -/
structure McpJsonRpcServer where
  wrapper : ActionProxyMcpWrapper
  tools : List JsonObject
  sessionNonce : String

/-- `listTools`: each tool with the note in its description. -/
def McpJsonRpcServer.listTools (server : McpJsonRpcServer) : List Json :=
  server.tools.map fun tool =>
    let description := member? tool "description"
    .obj (KeyedTable.setEntries "description"
      (some (.str (if truthy description then inTemplate description ++ "\n\nWrapped by ActionProxy."
        else "Wrapped by ActionProxy."))) tool)

def initializeResult : Json :=
  .obj [("capabilities", some (.obj [("tools", some (.obj []))])),
    ("protocolVersion", some (.str "2025-06-18")),
    ("serverInfo", some (.obj [("name", some (.str "actionproxy-mcp-wrapper")),
      ("version", some (.str "0.1.1"))]))]

/-- `isRecord(value) ? value : \x7b\x7d`. -/
def recordOrEmpty (value : Option Json) : JsonObject := (asRecord? value).getD []

def messageParams (message : JsonObject) : JsonObject := recordOrEmpty (member? message "params")

/-- `typeof params.name === 'string' ? params.name : ''`. -/
def calledName (message : JsonObject) : String :=
  match member? (messageParams message) "name" with
  | some (.str name) => name
  | _ => ""

def calledArguments (message : JsonObject) : JsonObject :=
  recordOrEmpty (member? (messageParams message) "arguments")

namespace ServerState

def send (state : ServerState) (number : Nat) (answer : Json) : ServerState :=
  { state with sent := state.sent ++ [(number, answer)] }

/-- Change the call of a number. -/
def update (state : ServerState) (number : Nat) (change : ActiveCall → ActiveCall) : ServerState :=
  { state with
    calls := state.calls.map fun call => if call.number = number then change call else call }

/-- `abort()` of the controller. -/
def abort (state : ServerState) (number : Nat) : ServerState :=
  state.update number fun call => { call with aborted := true }

def cancelled (state : ServerState) (message : JsonObject) : ServerState :=
  match jsonRpcId (member? (messageParams message) "requestId") with
  | none => state
  | some requestId =>
      match state.activeCalls.get? (typedJsonRpcId requestId) with
      | none => state
      | some number => state.abort number

def start (state : ServerState) (number : Nat) (id : Json) (conversation : Call Json) :
    ServerState :=
  { state with
    activeCalls := state.activeCalls.set (typedJsonRpcId id) number
    calls := state.calls ++
      [{ number := number
         id := id
         key := typedJsonRpcId id
         aborted := false
         conversation := conversation }] }

end ServerState

section

variable [Runtime] (nearest : JsonNumber → Option JsonNumber) (server : McpJsonRpcServer)

/-- `mcpIdempotencyKey` of a typed id. -/
def typedIdempotencyKey (sessionNonce : String) (id : Json) : String :=
  "mcp-stdio-v1_" ++ sha256Hex (sessionNonce ++ "\x00" ++ typeOf id ++ "\x00" ++ spelled id)

def callOptions (id : Json) : CallOptions :=
  { idempotencyKey := some (typedIdempotencyKey server.sessionNonce id), signal := true }

/-- The call of the wrapper that a message asks for. -/
def calling (message : JsonObject) (id : Json) : Call Json :=
  callTool nearest server.wrapper (calledName message) (calledArguments message)
    (callOptions server id)

def toolsCall (state : ServerState) (number : Nat) (message : JsonObject) : ServerState :=
  match member? message "id" with
  | none | some .null => state
  | some id =>
      if (state.activeCalls.get? (typedJsonRpcId id)).isSome then
        state.send number
          (rpcError (some id) (-32600) "A request with this JSON-RPC id is already in flight.")
      else state.start number id (calling nearest server message id)

/-- `handle`, up to the point where it waits for the wrapper. -/
def handle (state : ServerState) (number : Nat) (message : JsonObject) : ServerState :=
  let id := member? message "id"
  match member? message "method" with
  | some (.str method) =>
      if method = "notifications/cancelled" then state.cancelled message
      else if TextScan.startsWith method "notifications/" then state
      else if method = "initialize" then state.send number (response id initializeResult)
      else if method = "ping" then state.send number (response id (.obj []))
      else if method = "tools/list" then
        state.send number (response id (.obj [("tools", some (.arr server.listTools))]))
      else if method = "tools/call" then toolsCall nearest server state number message
      else state.send number (rpcError id (-32601) ("Method not found: " ++ method))
  | _ => state

def receive (state : ServerState) (message : JsonObject) : ServerState :=
  { handle nearest server state state.received message with received := state.received + 1 }

end

/-! ### What calls in flight do -/

/-- The call goes one step on; a request is answered from outside, the signal is its own. -/
def ActiveCall.proceed (call : ActiveCall) (answer : Except Thrown (Option Json)) : ActiveCall :=
  { call with
    conversation :=
      match call.conversation with
      | .ask .aborted next => next call.aborted
      | .ask (.request _) next => next answer
      | ended => ended }

namespace ServerState

def advance (state : ServerState) (number : Nat) (answer : Except Thrown (Option Json)) :
    ServerState :=
  state.update number fun call => call.proceed answer

/-- The `finally` of a call. -/
def finish (state : ServerState) (call : ActiveCall) : ServerState :=
  { state with
    activeCalls := state.activeCalls.erase call.key
    calls := state.calls.filter fun other => other.number ≠ call.number }

/-- What a call answers that has returned or thrown. -/
def answerOf (call : ActiveCall) : Option Json :=
  match call.conversation with
  | .pure value => some (response (some call.id) value)
  | .throw error => some (rpcError (some call.id) (-32000) (errorMessage error))
  | .ask _ _ => none

/-- `handle` goes on after its call has returned or thrown. -/
def resume (state : ServerState) (number : Nat) : ServerState :=
  match state.calls.find? (fun call => call.number = number) with
  | none => state
  | some call =>
      match answerOf call with
      | none => state
      | some answer => (state.finish call).send number answer

end ServerState

end ActionProxy.Wrapper
