import ActionProxy.Security.ActionEnvelope
import ActionProxy.Contracts.ActionRequest

/-!
Execution grants: how one is built and signed, and the checks a request to consume
it has to pass before any other record is read.
-/

namespace ActionProxy

open JsonText

/-- What a grant is signed over. -/
def ExecutionGrantRecord.signed (grant : ExecutionGrantRecord) : Json :=
  .obj [
    ("actor", some (.str grant.actor)),
    ("expiresAt", some (.str grant.expiresAt)),
    ("id", some (.str grant.id)),
    ("inputHash", some (.str grant.inputHash)),
    ("nonce", some (.str grant.nonce)),
    ("approvedEnvelopeHash", grant.approvedEnvelopeHash.map .str),
    ("approvedInputHash", grant.approvedInputHash.map .str),
    ("policyVersionHash", grant.policyVersionHash.map .str),
    ("receiptHash", grant.receiptHash.map .str),
    ("receiptId", grant.receiptId.map .str),
    ("toolCallId", some (.str grant.toolCallId)),
    ("toolName", some (.str grant.toolName)),
    ("workspaceId", some (.str grant.workspaceId))]

/-- What the clock and the random numbers give a new grant. -/
structure GrantIssue where
  createdAt : String
  expiresAt : String
  id : String
  nonce : String

structure PrepareExecutionGrantInput where
  actor : String
  auth : Option AuthContext
  receipt : Option ActionReceiptRecord
  toolCall : ToolCallRecord

structure ConsumeExecutionGrantInput where
  input : JsonObject
  policyVersionHash : Option String
  toolCallId : String
  toolName : String

section

variable [Runtime]

def signGrant (secret : String) (grant : ExecutionGrantRecord) : String :=
  hmacSha256Hex secret (stableStringify grant.signed)

def prepareGrant (secret : String) (issue : GrantIssue) (input : PrepareExecutionGrantInput) :
    ExecutionGrantRecord :=
  let toolCall := input.toolCall
  let grant : ExecutionGrantRecord :=
    { id := issue.id
      workspaceId :=
        (toolCall.workspaceId <|> input.auth.map AuthContext.workspaceId).getD "default"
      toolCallId := toolCall.id
      toolName := toolCall.toolName
      inputHash := toolCall.inputHash.getD (hashJson (.obj toolCall.input))
      approvedEnvelopeHash := input.receipt.map ActionReceiptRecord.approvedEnvelopeHash
      approvedInputHash := input.receipt.map ActionReceiptRecord.approvedInputHash
      policyVersionHash := toolCall.policyVersionHash
      receiptHash := input.receipt.map ActionReceiptRecord.receiptHash
      receiptId := input.receipt.map ActionReceiptRecord.id
      actor := input.actor
      auth := input.auth
      expiresAt := issue.expiresAt
      nonce := issue.nonce
      signature := ""
      consumedAt := none
      createdAt := issue.createdAt }
  { grant with signature := signGrant secret grant }

def inputHashMismatch : ServiceError := .forbidden "Execution grant input hash does not match."

/-- The checks of `consumeGrant` on the grant and the request alone. -/
def grantRequestFailure (secret : String) (now : Int) (activePolicyVersionHash : Option String)
    (grant : ExecutionGrantRecord) (input : ConsumeExecutionGrantInput) (auth : AuthContext) :
    Option ServiceError :=
  if grant.workspaceId ≠ auth.workspaceId then
    some (.forbidden "Execution grant is not in this workspace.")
  else if (nonEmpty grant.consumedAt).isSome then
    some (.conflict "Execution grant has already been consumed.")
  else if (dateParse grant.expiresAt).any (fun expiry => decide (expiry ≤ now)) then
    some (.conflict "Execution grant has expired.")
  else if grant.toolCallId ≠ input.toolCallId ∨ grant.toolName ≠ input.toolName then
    some (.forbidden "Execution grant does not match the requested tool call.")
  else if (nonEmpty grant.policyVersionHash).isSome && (nonEmpty activePolicyVersionHash).isNone then
    some (.forbidden ("Execution grant cannot be dispatched because the active policy identity " ++
      "is unavailable."))
  else if (nonEmpty grant.policyVersionHash).isSome &&
      grant.policyVersionHash != activePolicyVersionHash then
    some (.forbidden "Execution grant policy version is no longer active.")
  else if (nonEmpty grant.policyVersionHash).isSome && (nonEmpty input.policyVersionHash).isSome &&
      grant.policyVersionHash != input.policyVersionHash then
    some (.forbidden "Execution grant policy version does not match.")
  else if grant.inputHash ≠ hashJson (.obj input.input) then some inputHashMismatch
  else if grant.signature ≠ signGrant secret grant then
    some (.forbidden "Execution grant signature is invalid.")
  else none

theorem grantRequestFailure_input {secret : String} {now : Int} {active : Option String}
    {grant : ExecutionGrantRecord} {input : ConsumeExecutionGrantInput} {auth : AuthContext}
    (same : hashJson (.obj input.input) = grant.inputHash) :
    grantRequestFailure secret now active grant input auth ≠ some inputHashMismatch := by
  intro refused
  unfold grantRequestFailure at refused
  repeat' split at refused
  all_goals first
    | exact absurd refused (by decide)
    | exact absurd same.symm ‹_›

end

end ActionProxy
