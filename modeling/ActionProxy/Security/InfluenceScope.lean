import ActionProxy.Contracts.ContentInfluence
import ActionProxy.Policy.EvaluatePolicy

/-!
Influence scopes: how a scope is derived from an authenticated transport, and when
the evidence stored with a tool call still speaks for its scope.
-/

namespace ActionProxy

open JsonText

/-! ### The scope of a transport -/

structure InfluenceScopeBinding where
  adapterId : String
  principalId : String
  transport : String
  transportSessionId : String
  workspaceId : String

/-- `bounded`, for the fields it accepts. -/
def isBounded (value : String) : Bool :=
  value != "" && TextScan.trim value == value && decide (value.utf8ByteSize ≤ 1024)

def unboundedField (field : String) : String :=
  "Influence scope " ++ field ++ " must be a non-empty bounded string."

def deriveInfluenceScopeId [Runtime] (binding : InfluenceScopeBinding) : Except String String :=
  if !isBounded binding.adapterId then .error (unboundedField "adapterId")
  else if !isBounded binding.principalId then .error (unboundedField "principalId")
  else if !isBounded binding.transportSessionId then .error (unboundedField "transportSessionId")
  else if !isBounded binding.workspaceId then .error (unboundedField "workspaceId")
  else
    .ok ("influence_" ++ hashCanonicalJson (.obj [
      ("adapterId", some (.str binding.adapterId)),
      ("principalId", some (.str binding.principalId)),
      ("protocol", some (.str "mcp")),
      ("transport", some (.str binding.transport)),
      ("transportSessionId", some (.str binding.transportSessionId)),
      ("version", some (.str "actionproxy.influence-scope.v1")),
      ("workspaceId", some (.str binding.workspaceId))]))

/-! ### The evidence of a tool call -/

/-- The canonical evidence in the trace of a tool call. -/
def canonicalRequestEvidence (toolCall : ToolCallRecord) : Option Json :=
  toolCall.decisionTrace.bind (fun trace => member? trace "canonicalRequestEvidence")

/-- The member `value` of a part of the evidence. -/
def evidenceValue (toolCall : ToolCallRecord) (part : String) : Option Json :=
  (canonicalRequestEvidence toolCall).bind fun evidence =>
    (field? evidence part).bind (field? · "value")

/-- A text in the value of a part of the evidence. -/
def evidenceText (toolCall : ToolCallRecord) (part name : String) : Option String :=
  ((evidenceValue toolCall part).bind (field? · name)).bind asString?

/-- A text in a part of the provenance of the session. -/
def sessionProvenance (toolCall : ToolCallRecord) (name : String) : Option String := do
  let evidence ← canonicalRequestEvidence toolCall
  let session ← field? evidence "session"
  let provenance ← field? session "provenance"
  (field? provenance name).bind asString?

def sessionPresent (toolCall : ToolCallRecord) : Bool :=
  booleanContext ((canonicalRequestEvidence toolCall).bind fun evidence =>
    (field? evidence "session").bind (field? · "present")) == some true

/-- A text member of a part of the action envelope. -/
def envelopeText (toolCall : ToolCallRecord) (part name : String) : Option String := do
  let envelope ← toolCall.actionEnvelope
  (field? (← member? envelope.body part) name).bind asString?

/-- A text member of the action envelope itself. -/
def envelopeMember (toolCall : ToolCallRecord) (name : String) : Option String :=
  (toolCall.actionEnvelope.bind (fun envelope => member? envelope.body name)).bind asString?

/-- `authoritativeMcpToolCall`: the evidence names an MCP source. -/
def authoritativeMcpToolCall (toolCall : ToolCallRecord) : Bool :=
  evidenceText toolCall "source" "type" == some "mcp"

/-- The scope of a tool call is a scope id its evidence, session and envelope agree on. -/
def scopeEvidenceAgrees (toolCall : ToolCallRecord) (influenceScopeId : String) : Bool :=
  isInfluenceScopeId influenceScopeId &&
  authoritativeMcpToolCall toolCall &&
  (evidenceText toolCall "source" "adapterId").isSome &&
  (evidenceValue toolCall "sourceProtocol").bind asString? == some "mcp" &&
  evidenceText toolCall "tenant" "id" == some toolCall.workspace &&
  sessionPresent toolCall &&
  sessionProvenance toolCall "source" == some "actionproxy.verified-mcp-influence-scope" &&
  (sessionProvenance toolCall "trust").any
    ["derived", "externally_verified", "trusted"].contains &&
  evidenceText toolCall "session" "sessionId" == some influenceScopeId &&
  envelopeMember toolCall "protocol" == some "mcp" &&
  envelopeText toolCall "source" "type" == some "mcp" &&
  envelopeText toolCall "source" "id" == evidenceText toolCall "source" "adapterId"

/-- `verifiedStoredInfluenceScopeId` of the gate and `authoritativeInfluenceScopeId`
of the grant service, which check the same. -/
def verifiedStoredInfluenceScopeId (toolCall : ToolCallRecord) : Option String :=
  toolCall.influenceScopeId.filter (scopeEvidenceAgrees toolCall)

/-- A result is classified when it has a source; the only source that is a text is
`none`. -/
def resultClassified (toolCall : ToolCallRecord) : Bool :=
  match toolCall.resultSource with
  | none => false
  | some (.str _) => false
  | some _ => true

def requiresContentExposureBeforeRelease (toolCall : ToolCallRecord) : Bool :=
  resultClassified toolCall &&
    ((verifiedStoredInfluenceScopeId toolCall).isSome || authoritativeMcpToolCall toolCall)

def requiresMcpResultDelivery (toolCall : ToolCallRecord) : Bool :=
  authoritativeMcpToolCall toolCall && resultClassified toolCall

section

variable [Runtime]

def contentExposureRevisionGuard (toolCall : ToolCallRecord) : Option ContentExposureRevisionGuard :=
  validatedContentExposureRevisionGuard toolCall.contentInfluence
    (verifiedStoredInfluenceScopeId toolCall)

def sameContentInfluenceBinding (left right : ContentInfluenceEvidenceV1) : Bool :=
  (validContentInfluenceBindingHash (some left)).isSome &&
  (validContentInfluenceBindingHash (some right)).isSome &&
  left.bindingHash == right.bindingHash

end

end ActionProxy
