import ActionProxy.Routes.ToolCalls
import ActionProxy.Security.AuditChain

/-!
What the routes return of approvals, audit events and results, beside the tool call
that `redactToolCall` projects.
-/

namespace ActionProxy

open JsonText

section

variable [Runtime]

def redactDecision (redaction : RedactionOptions) (decision : ApprovalDecisionRecord) :
    ApprovalDecisionRecord :=
  { decision with
    editedInput := decision.editedInput.map (redactJsonObjectAtPath · ["input"] redaction) }

def redactApproval (approval : ApprovalRecord) (redaction : RedactionOptions) : ApprovalRecord :=
  { approval with
    decisions := approval.decisions.map (·.map (redactDecision redaction))
    editedInput := approval.editedInput.map (redactJsonObjectAtPath · ["input"] redaction)
    originalInput := redactJsonObjectAtPath approval.originalInput ["input"] redaction }

/-- `{ ...data, result }`. -/
def withResult (data : JsonObject) (result : JsonObject) : JsonObject :=
  data.map fun member =>
    if member.1 = "result" then (member.1, some (.obj result)) else member

def redactAuditEvent (event : AuditEvent) (redaction : RedactionOptions) : AuditEvent :=
  let data := redactJsonObject event.data redaction
  { event with
    data :=
      if event.type = "tool_call.authorized" then
        match member? data "result" with
        | some (.obj result) =>
            withResult data (redactToolCallResult result { fields := none, replacement := none })
        | _ => data
      else data }

/-- The tool call in the answer to a reported outcome. -/
def reportedToolCall (toolCall : ToolCallRecord) : ToolCallRecord :=
  { toolCall with
    result := toolCall.result.map (fun result => match result with
      | .obj members =>
          .obj (redactToolCallResult members { fields := none, replacement := none })
      | other => other) }

/-! ### Results over MCP -/

def forbiddenResultKeyFragments : List String :=
  ["authorization", "bearer", "credential", "credentials", "executionauthorization", "grant",
    "nonce", "secret", "session", "signature", "token"]

def safeResultKeysWithSensitiveFragments : List String :=
  ["accesstokenexpiresat", "storedauthorizationstatus"]

def forbiddenResultKey (key : String) : Bool :=
  let normalized := Runtime.toLowerCase (withoutSeparators key)
  !safeResultKeysWithSensitiveFragments.contains normalized &&
    forbiddenResultKeyFragments.any (fun fragment => decide (fragment.toList <:+: normalized.toList))

mutual

def scrubSensitiveResult : Json → Json
  | .arr items => .arr (scrubItems items)
  | .obj members => .obj (scrubMembers members)
  | value => value

def scrubItems : List Json → List Json
  | [] => []
  | item :: rest => scrubSensitiveResult item :: scrubItems rest

/-- Assigning to `__proto__` makes no member. -/
def scrubMembers : List (String × Option Json) → List (String × Option Json)
  | [] => []
  | (key, value) :: rest =>
      let others := scrubMembers rest
      if forbiddenResultKey key || key == "__proto__" then others
      else
        match value with
        | none => (key, none) :: others
        | some value => (key, some (scrubSensitiveResult value)) :: others

end

def safeResult (result : Option Json) (redaction : RedactionOptions) : Option JsonObject :=
  result.map fun result =>
    let object := match scrubSensitiveResult result with
      | .obj members => members
      | projected => [("value", some projected)]
    redactJsonObject object redaction

end

end ActionProxy
