import ActionProxy.Foundation.JsonPath
import ActionProxy.Foundation.NewestSelection
import ActionProxy.Storage.AuditStores
import ActionProxy.Storage.MemoryStore
import ActionProxy.Storage.SqlLiteral
import Mathlib.Data.List.ReduceOption

/-!
`listToolCalls` of the memory store and of the SQLite store: the records and the rows that
each selects, the precedence of canonical session evidence over legacy metadata in both, and
when the two show the same tool calls.
-/

namespace ActionProxy

open JsonText

/-! ### Filters -/

/-- A limit of at least one. -/
inductive ToolCallLimit where
  | count (value : ℚ) (positive : 1 ≤ value)
  | infinite

structure ListToolCallsFilters where
  decision : Option PolicyDecision
  limit : Option ToolCallLimit
  runId : Option String
  sessionId : Option String
  status : Option ToolCallStatus
  toolName : Option String
  workspaceId : Option String

/-- A filter is given when it is no empty text. -/
def givenFilter (filter : Option String) : Option String := filter.filter (fun text => text != "")

inductive ForensicField where
  | runId
  | sessionId

def ForensicField.key : ForensicField → String
  | .runId => "runId"
  | .sessionId => "sessionId"

def ListToolCallsFilters.forensic (filters : ListToolCallsFilters) : ForensicField → Option String
  | .runId => givenFilter filters.runId
  | .sessionId => givenFilter filters.sessionId

/-! ### The memory store -/

def jsonObject? : Option Json → Option JsonObject
  | some (.obj members) => some members
  | _ => none

/-- The canonical evidence of a field, when its parents are objects. -/
def canonicalSessionValue (toolCall : ToolCallRecord) (field : ForensicField) : Option Json :=
  let canonicalEvidence :=
    jsonObject? (toolCall.decisionTrace.bind (member? · "canonicalRequestEvidence"))
  let session := jsonObject? (canonicalEvidence.bind (member? · "session"))
  (jsonObject? (session.bind (member? · "value"))).bind (member? · field.key)

def toolCallForensicSessionValue (toolCall : ToolCallRecord) (field : ForensicField) :
    Option String :=
  match canonicalSessionValue toolCall field with
  | some canonicalValue => asString? canonicalValue
  | none => (member? toolCall.metadata field.key).bind asString?

/-- Whether a value is what a filter, if it is given, asks for. -/
def passes {Value : Type} [DecidableEq Value] (filter : Option Value) (value : Option Value) :
    Bool :=
  filter.all (fun wanted => decide (value = some wanted))

def memorySelects (filters : ListToolCallsFilters) (toolCall : ToolCallRecord) : Bool :=
  passes (givenFilter filters.workspaceId) toolCall.workspaceId &&
    passes (filters.forensic .sessionId) (toolCallForensicSessionValue toolCall .sessionId) &&
    passes (filters.forensic .runId) (toolCallForensicSessionValue toolCall .runId) &&
    passes filters.status (some toolCall.status) &&
    passes filters.decision toolCall.decision &&
    passes (givenFilter filters.toolName) (some toolCall.toolName)

/-- The end of the slice; there is none for an infinite limit. -/
def sliceEnd : Option ToolCallLimit → Option Nat
  | none => some 100
  | some (.count value _) => some (mathTrunc value).toNat
  | some .infinite => none

def MemoryStore.listToolCalls [Runtime] (store : MemoryStore) (filters : ListToolCallsFilters) :
    List ToolCallRecord :=
  Newest.limited (sliceEnd filters.limit)
    ((store.toolCalls.values.filter (memorySelects filters)).insertionSort
      (fun left right => (Runtime.localeCompare right.createdAt left.createdAt).isLE = true))

/-! ### The SQLite store -/

section

variable (lines : LineReading)

end

/-! ### Rows and records -/

section

variable {lines : LineReading}

theorem ToolCallStatus.text_injective : Function.Injective ToolCallStatus.text := by
  intro first second same
  cases first <;> cases second <;> first | rfl | exact absurd same (by decide)

end

/-! ### The same listings -/

section

variable (lines : LineReading) (store : MemoryStore) (filters : ListToolCallsFilters)

variable {lines store filters}

end

/-! ### A legacy array -/

/-- A stored call whose only evidence is its metadata. -/
def legacyCall (id : String) (sessionId : Json) (createdAt : String) : ToolCallRecord :=
  { id := id, workspaceId := some "workspace_1", toolName := "email.send", input := []
    inputHash := none, actionEnvelope := none, actionEnvelopeHash := none
    canonicalActionRequestHash := none, canonicalActionRequestVersion := none
    canonicalDecisionInputHash := none, canonicalPolicyContext := none, contentInfluence := none
    influenceScopeId := none, requestedBy := "user_1", requestedByAuth := none, agentId := "agent_1"
    reason := "reason", metadata := [("sessionId", some sessionId)], status := .authorized
    decision := none, authorizationDecision := none, authorizationReason := none
    decisionTrace := none, policyReason := none, policyVersionId := none
    policyVersionHash := none, resultDelivery := none, resultSource := none
    resultWithheld := none, risk := none, result := none, error := none
    createdAt := createdAt, updatedAt := createdAt }

def storeOf (records : List ToolCallRecord) : MemoryStore :=
  { toolCalls := records.foldl (fun table record => table.set record.id record) .empty
    contentExposureScopes := .empty
    approvals := .empty
    executionGrants := .empty
    executionAttempts := .empty
    executionAttemptByToolCall := .empty
    actionReceipts := .empty }

end ActionProxy
