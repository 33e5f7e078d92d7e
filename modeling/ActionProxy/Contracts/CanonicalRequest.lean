import ActionProxy.Policy.PolicyContext
import ActionProxy.Security.NormalizedEnvelope

/-!
The canonical action request: every field of a submission with where it comes
from and how far it is trusted, and the two hashes taken of it.
-/

namespace ActionProxy

open JsonText

/-! ### Ingress -/

inductive DeploymentEnvironment where
  | localServer | selfHosted
  deriving DecidableEq

def DeploymentEnvironment.text : DeploymentEnvironment → String
  | .localServer => "local"
  | .selfHosted => "self_hosted"

/-- A name an adapter gives, with its provenance. -/
structure McpAgent where
  id : String
  name : Option String
  source : String
  trust : TrustClassification

structure McpSession where
  runId : Option String
  sessionId : Option String
  source : String
  trust : TrustClassification

structure McpActionIngress where
  adapterId : String
  adapterSource : String
  adapterTrust : TrustClassification
  agent : McpAgent
  environment : DeploymentEnvironment
  idempotencySource : String
  idempotencyTrust : TrustClassification
  session : Option McpSession

inductive CanonicalActionIngress where
  | http (environment : DeploymentEnvironment)
  | mcp (ingress : McpActionIngress)

def CanonicalActionIngress.environment : CanonicalActionIngress → DeploymentEnvironment
  | .http environment => environment
  | .mcp ingress => ingress.environment

/-- A value the server supplies in place of what the request states. -/
structure TrustedValue (Value : Type) where
  source : String
  value : Value

structure NormalizeActionRequestInput where
  auth : Option AuthContext
  idempotencyKey : Option String
  ingress : CanonicalActionIngress
  receivedAt : String
  request : SubmitToolCallRequest
  requestId : String
  trustedCredentialReference : Option (TrustedValue String)
  trustedExecutionMode : Option (TrustedValue ActionExecutionMode)
  trustedOperation : Option (TrustedValue (ActionOperationKind × String))
  trustedPolicy : Option TrustedPolicy
  trustedResources : Option (TrustedValue (List Json))
  workspaceId : String

/-! ### Fields -/

def actorField (request : SubmitToolCallRequest) (auth : Option AuthContext) : Json :=
  match auth with
  | none =>
      sourced (.obj [("id", some (.str request.requestedBy)), ("type", some (.str "local"))])
        .asserted "body.requestedBy"
  | some principal =>
      let provenance : TrustClassification × String :=
        if externallyVerifiedAuth auth then (.externallyVerified, "auth.principal")
        else if principal.authProvider = .tunnelSingleUser then
          (.trusted, "server.tunnel-single-user.principal")
        else (.trusted, "server.local-auth.principal")
      sourced
        (.obj [
          ("authProvider", some (.str principal.authProvider.text)),
          ("displayName", some (.str principal.displayName)),
          ("email", principal.email.map .str),
          ("id", some (.str principal.principalId)),
          ("type", some (.str principal.principalType.text))])
        provenance.1 provenance.2

def agentField (request : SubmitToolCallRequest) (ingress : CanonicalActionIngress) : Json :=
  match ingress with
  | .mcp ingress =>
      sourced
        (.obj [
          ("id", some (.str ingress.agent.id)),
          ("name", ingress.agent.name.map .str),
          ("verification", some (.str (if ingress.agent.trust = .externallyVerified
            then "externally_verified" else "asserted")))])
        ingress.agent.trust ingress.agent.source
  | .http _ =>
      sourced
        (.obj [
          ("id", some (.str request.agentId)),
          ("name", (stringContext (member? request.metadataGiven "agentName")).map .str),
          ("verification", some (.str "asserted"))])
        .asserted "body.agentId"

def executionModeField (input : NormalizeActionRequestInput) : Json :=
  match input.trustedExecutionMode with
  | some mode => sourced (.str mode.value.text) .trusted mode.source
  | none =>
      let stated := executionModeStated input.request
      sourced
        (.str (stated.getD (executionModeFromMetadata input.request.metadataGiven)).text)
        .asserted
        (if stated.isSome then "body.action.executionMode" else "body.metadata.executionMode")

def idempotencyKeyField (input : NormalizeActionRequestInput) : Json :=
  let provenance : TrustClassification × String :=
    match input.ingress with
    | .mcp ingress => (ingress.idempotencyTrust, ingress.idempotencySource)
    | .http _ => (.asserted, "header.idempotency-key")
  sourcedOrAbsent ((nonEmpty input.idempotencyKey).map .str) provenance.1 provenance.2

def operationField (input : NormalizeActionRequestInput) : Json :=
  match input.trustedOperation with
  | some operation =>
      sourced
        (.obj [
          ("kind", some (.str operation.value.1.text)),
          ("name", some (.str operation.value.2))])
        .trusted operation.source
  | none =>
      sourced (.obj [("name", some (.str input.request.toolName))]) .derived
        "normalizer.tool-name-to-operation"

def resourcesField (input : NormalizeActionRequestInput) : Json :=
  match input.trustedResources with
  | some resources => sourced (.arr resources.value) .derived resources.source
  | none =>
      sourcedOrAbsent (envelopeResources input.request) .asserted "body.action.resources"

def sessionJson (runId sessionId : Option String) : Json :=
  .obj [("runId", runId.map .str), ("sessionId", sessionId.map .str)]

/-- The session a request names in its metadata. -/
def assertedSessionField (metadata : JsonObject) : Json :=
  let runId := stringContext (member? metadata "runId")
  let sessionId := stringContext (member? metadata "sessionId")
  if runId.isNone && sessionId.isNone then absent .asserted "body.metadata.runId|sessionId"
  else sourced (sessionJson runId sessionId) .asserted "body.metadata.runId|sessionId"

def sessionField (request : SubmitToolCallRequest) (ingress : CanonicalActionIngress) : Json :=
  match ingress with
  | .mcp { session := some session, .. } =>
      sourced (sessionJson session.runId session.sessionId) session.trust session.source
  | _ => assertedSessionField request.metadataGiven

def sourceField : CanonicalActionIngress → Json
  | .mcp ingress =>
      sourced
        (.obj [("adapterId", some (.str ingress.adapterId)), ("type", some (.str "mcp"))])
        ingress.adapterTrust ingress.adapterSource
  | .http _ => sourced (.obj [("type", some (.str "http"))]) .derived "http.route-adapter"

def sourceProtocolField : CanonicalActionIngress → Json
  | .mcp _ => sourced (.str "mcp") .derived "mcp.transport-adapter"
  | .http _ => sourced (.str "actionproxy_http") .derived "http.route-adapter"

def tenantField (auth : Option AuthContext) (workspaceId : String) : Json :=
  let tenant := Json.obj [("id", some (.str workspaceId))]
  if externallyVerifiedAuth auth then sourced tenant .externallyVerified "auth.workspaceId"
  else if auth.any (fun auth => auth.authProvider == .tunnelSingleUser) then
    sourced tenant .trusted "server.tunnel-single-user.workspaceId"
  else sourced tenant .trusted "server.workspaceId"

/-! ### The request -/

structure CanonicalActionRequest where
  actor : Json
  agent : Json
  arguments : Json
  action : Json
  metadata : Json
  policy : JsonObject
  rationale : Json
  credentialReference : Json
  environment : Json
  executionMode : Json
  idempotencyKey : Json
  operation : Json
  receivedAt : Json
  requestId : Json
  resources : Json
  session : Json
  source : Json
  sourceProtocol : Json
  tenant : Json
  tool : Json
  decisionInputHash : String
  requestHash : String

/-- The hashed request: all of it but its hashes. -/
def CanonicalActionRequest.base (request : CanonicalActionRequest) : Json :=
  .obj [
    ("actor", some request.actor),
    ("agent", some request.agent),
    ("arguments", some request.arguments),
    ("context", some (.obj [
      ("action", some request.action),
      ("metadata", some request.metadata),
      ("policy", some (.obj request.policy)),
      ("rationale", some request.rationale)])),
    ("credentialReference", some request.credentialReference),
    ("environment", some request.environment),
    ("executionMode", some request.executionMode),
    ("idempotencyKey", some request.idempotencyKey),
    ("operation", some request.operation),
    ("receivedAt", some request.receivedAt),
    ("requestId", some request.requestId),
    ("resources", some request.resources),
    ("session", some request.session),
    ("source", some request.source),
    ("sourceProtocol", some request.sourceProtocol),
    ("tenant", some request.tenant),
    ("tool", some request.tool),
    ("version", some (.str canonicalActionRequestVersion))]

def CanonicalActionRequest.decisionInputMaterial (request : CanonicalActionRequest) : Json :=
  .obj [
    ("actor", some request.actor),
    ("agent", some request.agent),
    ("arguments", some request.arguments),
    ("context", some (.obj [("policy", some (.obj request.policy))])),
    ("credentialReference", some request.credentialReference),
    ("environment", some request.environment),
    ("executionMode", some request.executionMode),
    ("operation", some request.operation),
    ("resources", some request.resources),
    ("source", some request.source),
    ("sourceProtocol", some request.sourceProtocol),
    ("tenant", some request.tenant),
    ("tool", some request.tool),
    ("version", some (.str canonicalActionRequestVersion))]

/-- `canonicalActionRequestEvidence`. -/
def CanonicalActionRequest.evidence (request : CanonicalActionRequest) : Json :=
  .obj [
    ("actor", some request.actor),
    ("agent", some request.agent),
    ("environment", some request.environment),
    ("session", some request.session),
    ("source", some request.source),
    ("sourceProtocol", some request.sourceProtocol),
    ("tenant", some request.tenant),
    ("version", some (.str canonicalActionRequestVersion))]

/-- `request.arguments.value ?? {}`. -/
def CanonicalActionRequest.input (request : CanonicalActionRequest) : JsonObject :=
  match field? request.arguments "value" with
  | some (.obj members) => members
  | _ => []

section

variable [Runtime]

def canonicalActionRequest (input : NormalizeActionRequestInput) : CanonicalActionRequest :=
  let request := input.request
  let base : CanonicalActionRequest :=
    { actor := actorField request input.auth
      agent := agentField request input.ingress
      arguments := sourced (.obj request.input) .asserted "body.input"
      action := sourced ((request.stated "context").getD (.obj [])) .asserted "body.action.context"
      metadata := sourced (.obj request.metadataGiven) .asserted "body.metadata"
      policy := canonicalPolicyContext request.input input.auth input.trustedPolicy
      rationale := sourced (.str request.reason) .asserted "body.reason"
      credentialReference :=
        input.trustedCredentialReference.elim
          (absent .trusted "server.credential-resolver.not-resolved")
          (fun reference => sourced (.str reference.value) .trusted reference.source)
      environment := sourced (.str input.ingress.environment.text) .trusted "server.deployment.mode"
      executionMode := executionModeField input
      idempotencyKey := idempotencyKeyField input
      operation := operationField input
      receivedAt := sourced (.str input.receivedAt) .derived "server.clock"
      requestId := sourced (.str input.requestId) .derived "server.request-id"
      resources := resourcesField input
      session := sessionField request input.ingress
      source := sourceField input.ingress
      sourceProtocol := sourceProtocolField input.ingress
      tenant := tenantField input.auth input.workspaceId
      tool := sourced (.obj [("name", some (.str request.toolName))]) .asserted "body.toolName"
      decisionInputHash := ""
      requestHash := "" }
  { base with
    decisionInputHash := hashCanonicalJson base.decisionInputMaterial
    requestHash := hashCanonicalJson base.base }

def normalizeActionRequest (input : NormalizeActionRequestInput) :
    Except String CanonicalActionRequest :=
  if input.auth.any (fun auth => auth.workspaceId != input.workspaceId) then
    .error "Authenticated tenant does not match the server-resolved workspace."
  else .ok (canonicalActionRequest input)

/-- `policyContextFromCanonicalActionRequest`. -/
def CanonicalActionRequest.policyContext (request : CanonicalActionRequest) :
    PolicyEvaluationContext :=
  policyContextFromCanonicalFields request.policy request.input

theorem normalizeActionRequest_ok {input : NormalizeActionRequestInput}
    {request : CanonicalActionRequest} (normalized : normalizeActionRequest input = .ok request) :
    request = canonicalActionRequest input := by
  unfold normalizeActionRequest at normalized
  split at normalized
  · cases normalized
  · exact (Except.ok.inj normalized).symm

theorem normalizeActionRequest_tenant {input : NormalizeActionRequestInput}
    (tenant : ∀ auth, input.auth = some auth → auth.workspaceId = input.workspaceId) :
    normalizeActionRequest input = .ok (canonicalActionRequest input) := by
  unfold normalizeActionRequest
  cases given : input.auth with
  | none => rfl
  | some auth =>
      rw [if_neg]
      simpa using tenant auth given

@[simp] theorem canonicalActionRequest_policy (input : NormalizeActionRequestInput) :
    (canonicalActionRequest input).policy =
      canonicalPolicyContext input.request.input input.auth input.trustedPolicy := rfl

@[simp] theorem canonicalActionRequest_input (input : NormalizeActionRequestInput) :
    (canonicalActionRequest input).input = input.request.input := by
  simp [CanonicalActionRequest.input, canonicalActionRequest, sourced, field?, member?,
    definedMembers, List.lookup_cons]

/-- The context evaluated for a request depends on its input, the principal and the
fields of a contract alone. -/
theorem canonicalActionRequest_policyContext (input : NormalizeActionRequestInput) :
    (canonicalActionRequest input).policyContext =
      policyContextFromCanonicalFields
        (canonicalPolicyContext input.request.input input.auth input.trustedPolicy)
        input.request.input := by
  rw [CanonicalActionRequest.policyContext, canonicalActionRequest_policy,
    canonicalActionRequest_input]

end

/-! ### The scope of a request -/

/-- `verifiedInfluenceScopeId`. -/
def verifiedInfluenceScopeId (request : CanonicalActionRequest) : Option String :=
  let provenance (name : String) : Option String :=
    ((field? request.session "provenance").bind (field? · name)).bind asString?
  let sourceType := ((field? request.source "value").bind (field? · "type")).bind asString?
  let sessionId := ((field? request.session "value").bind (field? · "sessionId")).bind asString?
  if sourceType = some "mcp" && booleanContext (field? request.session "present") == some true &&
      provenance "source" == some "actionproxy.verified-mcp-influence-scope" &&
      (provenance "trust").any ["derived", "externally_verified", "trusted"].contains then
    sessionId.filter isInfluenceScopeId
  else none

end ActionProxy
