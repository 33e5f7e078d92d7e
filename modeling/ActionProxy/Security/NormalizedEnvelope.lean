import ActionProxy.Policy.EvaluatePolicy
import ActionProxy.Storage.RecordJson

/-!
The action envelope of a submitted request: what the request states of its action,
completed from its metadata, and hashed.
-/

namespace ActionProxy

open JsonText

/-- A request; what it states of its action is an object of optional members. -/
structure SubmitToolCallRequest where
  toolName : String
  input : JsonObject
  requestedBy : String
  agentId : String
  reason : String
  action : Option JsonObject
  metadata : Option JsonObject

/-- `request.metadata ?? {}`. -/
def SubmitToolCallRequest.metadataGiven (request : SubmitToolCallRequest) : JsonObject :=
  request.metadata.getD []

/-! ### Members of the request -/

def SubmitToolCallRequest.stated (request : SubmitToolCallRequest) (name : String) : Option Json :=
  notNull (request.action.bind (member? · name))

/-- A member of a part of the stated action. -/
def SubmitToolCallRequest.statedPart (request : SubmitToolCallRequest) (part name : String) :
    Option Json :=
  notNull ((request.stated part).bind (field? · name))

/-- `stringFromMetadata`: a text that is not blank. -/
def stringFromMetadata (metadata : JsonObject) (key : String) : Option Json :=
  ((member? metadata key).bind asString?).bind fun text =>
    (TextScan.content text).map fun _ => .str text

def textMember (metadata : JsonObject) (key : String) : Option String :=
  (member? metadata key).bind asString?

def protocolFromMetadata (metadata : JsonObject) : String :=
  if textMember metadata "source" = some "mcp-wrapper" ||
      (textMember metadata "mcpServer").isSome || (textMember metadata "mcpTool").isSome then "mcp"
  else if textMember metadata "source" = some "cli" then "cli"
  else if textMember metadata "source" = some "webhook" then "webhook"
  else "actionproxy_http"

def sourceTypeFromMetadata (metadata : JsonObject) (protocol : Json) : String :=
  match textMember metadata "source" with
  | some source => source
  | none => if asString? protocol = some "mcp" then "mcp-wrapper" else "http"

def modeNamed (value : Json) : ActionExecutionMode :=
  if asString? value = some "external" then .externalGrant else .localMock

def executionModeFromMetadata (metadata : JsonObject) : ActionExecutionMode :=
  match member? metadata "actionproxyExecution" with
  | some mode => modeNamed mode
  | none =>
      match (member? metadata "actionproxy").bind (field? · "executionMode") with
      | some mode => modeNamed mode
      | none => .localMock

/-- The execution mode a request states; a stated mode is one of the two. -/
def executionModeStated (request : SubmitToolCallRequest) : Option ActionExecutionMode :=
  (request.stated "executionMode").bind asString? |>.map fun mode =>
    if mode = ActionExecutionMode.externalGrant.text then .externalGrant else .localMock

def actionActor (actor : String) (auth : Option AuthContext) : Json :=
  match auth.filter (fun auth => auth.authProvider ≠ .none) with
  | none => .obj [("id", some (.str actor)), ("type", some (.str "local"))]
  | some auth =>
      .obj [
        ("authProvider", some (.str auth.authProvider.text)),
        ("displayName", some (.str auth.displayName)),
        ("email", auth.email.map .str),
        ("id", some (.str auth.principalId)),
        ("type", some (.str auth.principalType.text))]

/-! ### The envelope -/

def envelopeContext (request : SubmitToolCallRequest) : Json :=
  let stated := request.statedPart "context"
  .obj [
    ("dataClassification", stated "dataClassification"),
    ("metadata", (stated "metadata").filter (fun value => match value with
      | .obj _ => true
      | _ => false)),
    ("reason", stated "reason" <|> some (.str request.reason)),
    ("reversibility", stated "reversibility"),
    ("risk", stated "risk"),
    ("sideEffects", stated "sideEffects")]

def envelopeSource (request : SubmitToolCallRequest) (protocol : Json) : Json :=
  let metadata := request.metadataGiven
  let stated := request.statedPart "source"
  .obj [
    ("type", stated "type" <|> some (.str (sourceTypeFromMetadata metadata protocol))),
    ("id", stated "id" <|> stringFromMetadata metadata "sourceId" <|>
      stringFromMetadata metadata "mcpServer"),
    ("name", stated "name" <|> stringFromMetadata metadata "source" <|>
      stringFromMetadata metadata "mcpServer"),
    ("metadata", stated "metadata")]

def envelopeResources (request : SubmitToolCallRequest) : Option Json :=
  (request.stated "resources").filter fun value => match value with
    | .arr resources => !resources.isEmpty
    | _ => false

def envelopeBody (actor : String) (auth : Option AuthContext) (request : SubmitToolCallRequest) :
    JsonObject :=
  let metadata := request.metadataGiven
  let protocol := (request.stated "protocol").getD (.str (protocolFromMetadata metadata))
  [("actor", some (actionActor actor auth)),
    ("agent", some (.obj [
      ("id", some (.str request.agentId)),
      ("name", stringFromMetadata metadata "agentName")])),
    ("context", some (envelopeContext request)),
    ("operation", some (.obj [
      ("kind", request.statedPart "operation" "kind"),
      ("name", request.statedPart "operation" "name" <|> stringFromMetadata metadata "operation" <|>
        some (.str request.toolName))])),
    ("protocol", some protocol),
    ("resources", envelopeResources request),
    ("source", some (envelopeSource request protocol)),
    ("toolName", some (.str request.toolName)),
    ("version", some (.str "actionproxy.action.v1"))]

section

variable [Runtime]

def normalizeActionEnvelope (actor : String) (auth : Option AuthContext)
    (request : SubmitToolCallRequest) : ActionEnvelope :=
  let envelope : ActionEnvelope :=
    { envelopeHash := ""
      executionMode :=
        (executionModeStated request).getD (executionModeFromMetadata request.metadataGiven)
      input := request.input
      inputHash := hashJson (.obj request.input)
      preparedAction := none
      body := envelopeBody actor auth request }
  { envelope with envelopeHash := hashJson envelope.withoutHash }

/-- The envelope of a tool call, rebuilt from the record when it was stored without. -/
def actionEnvelopeForToolCall (toolCall : ToolCallRecord) : ActionEnvelope :=
  toolCall.actionEnvelope.getD
    (normalizeActionEnvelope toolCall.requestedBy toolCall.requestedByAuth
      { toolName := toolCall.toolName
        input := toolCall.input
        requestedBy := toolCall.requestedBy
        agentId := toolCall.agentId
        reason := toolCall.reason
        action := none
        metadata := some toolCall.metadata })

end

end ActionProxy
