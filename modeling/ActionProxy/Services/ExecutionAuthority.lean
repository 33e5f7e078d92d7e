import ActionProxy.Contracts.CanonicalJson
import ActionProxy.Services.ApprovalPublication
import ActionProxy.Services.ToolExecution

/-!
The local execution authority and the tool registry that consumes its tokens. A token has
nothing in it: only the authority that issued it knows what it stands for, and what it
keeps is a canonical copy of what it was given.
-/

namespace ActionProxy

open JsonText

/-! ### Bindings as JSON -/

theorem ActionExecutionMode.text_injective : Function.Injective ActionExecutionMode.text := by
  intro left right same
  cases left <;> cases right <;> first | rfl | exact absurd same (by decide)

namespace ExecutionAuthorizationBindingV1

theorem distinct (binding : ExecutionAuthorizationBindingV1) :
    distinctKeys binding.json = true := by
  have optional (value : Option String) : distinctKeys (value.elim .null .str) = true := by
    cases value <;> rfl
  unfold distinctKeys everyObject at optional ⊢
  simp [json, onMembers, everyPart, everyMember, nullable, optional]

theorem exact {nearest : JsonNumber → Option JsonNumber}
    {binding : ExecutionAuthorizationBindingV1}
    (held : nearest (JsonNumber.ofInt binding.execution.attemptNumber) =
      some (JsonNumber.ofInt binding.execution.attemptNumber)) :
    exactNumbers nearest binding.json = true := by
  have optional (value : Option String) :
      exactNumbers nearest (value.elim .null .str) = true := by
    cases value <;> rfl
  unfold exactNumbers at optional ⊢
  simp [json, everyPart, everyMember, nullable, optional, held]

theorem eq_of_same {left right : ExecutionAuthorizationBindingV1}
    (same : Same left.json right.json) : left = right := by
  have parts := same_obj_zip same (by simp) rfl
  simp only [List.zip_cons_cons, List.forall_mem_cons] at parts
  obtain ⟨action, approval, influence, decision, execution, executor, policy, request, tenant, _⟩ :=
    parts
  have actions := rel_obj_zip action (by simp) rfl
  have approvals := rel_obj_zip approval (by simp) rfl
  have influences := rel_obj_zip influence (by simp) rfl
  have decisions := rel_obj_zip decision (by simp) rfl
  have executions := rel_obj_zip execution (by simp) rfl
  have executors := rel_obj_zip executor (by simp) rfl
  have policies := rel_obj_zip policy (by simp) rfl
  have requests := rel_obj_zip request (by simp) rfl
  have tenants := rel_obj_zip tenant (by simp) rfl
  simp only [List.zip_cons_cons, List.forall_mem_cons] at actions approvals influences decisions
  simp only [List.zip_cons_cons, List.forall_mem_cons] at executions executors policies requests
  simp only [List.zip_cons_cons, List.forall_mem_cons] at tenants
  obtain ⟨envelopeHash, inputHash, toolName, _⟩ := actions
  obtain ⟨approvalId, authorizationHash, nonce, receiptHash, receiptId, _⟩ := approvals
  obtain ⟨bindingHash, scope, resultSource, _⟩ := influences
  obtain ⟨decisionId, decisionInput, outcome, decisionVersion, _⟩ := decisions
  obtain ⟨attemptId, attemptNumber, grantId, mode, _⟩ := executions
  obtain ⟨executorId, _⟩ := executors
  obtain ⟨digest, evaluator, provider, providerVersion, version, versionHash, _⟩ := policies
  obtain ⟨requestHash, requestVersion, toolCallId, _⟩ := requests
  obtain ⟨workspaceId, _⟩ := tenants
  obtain ⟨⟨_, _, _⟩, ⟨_, _, _, _, _⟩, ⟨_, _, _⟩, ⟨_, _, _, _⟩, ⟨_, _, _, _⟩, _,
    ⟨_, _, _, _, _, _⟩, ⟨_, _, _⟩, _⟩ := left
  obtain ⟨⟨_, _, _⟩, ⟨_, _, _, _, _⟩, ⟨_, _, _⟩, ⟨_, _, _, _⟩, ⟨_, _, _, _⟩, _,
    ⟨_, _, _, _, _, _⟩, ⟨_, _, _⟩, _⟩ := right
  have modes := ActionExecutionMode.text_injective (required_eq_of_rel mode)
  simp only [mk.injEq, AuthorizedAction.mk.injEq, AuthorizedApproval.mk.injEq,
    AuthorizedContentInfluence.mk.injEq, AuthorizedDecision.mk.injEq,
    AuthorizedExecution.mk.injEq, AuthorizedPolicy.mk.injEq, AuthorizedRequest.mk.injEq]
  exact
    ⟨⟨required_eq_of_rel envelopeHash, required_eq_of_rel inputHash, required_eq_of_rel toolName⟩,
      ⟨nullable_eq_of_rel approvalId, nullable_eq_of_rel authorizationHash,
        nullable_eq_of_rel nonce, nullable_eq_of_rel receiptHash, nullable_eq_of_rel receiptId⟩,
      ⟨nullable_eq_of_rel bindingHash, nullable_eq_of_rel scope,
        required_eq_of_rel resultSource⟩,
      ⟨nullable_eq_of_rel decisionId, nullable_eq_of_rel decisionInput,
        outcome_eq_of_rel outcome, nullable_eq_of_rel decisionVersion⟩,
      ⟨required_eq_of_rel attemptId, integer_eq_of_rel attemptNumber,
        nullable_eq_of_rel grantId, modes⟩,
      required_eq_of_rel executorId,
      ⟨nullable_eq_of_rel digest, nullable_eq_of_rel evaluator, nullable_eq_of_rel provider,
        nullable_eq_of_rel providerVersion, nullable_eq_of_rel version,
        required_eq_of_rel versionHash⟩,
      ⟨nullable_eq_of_rel requestHash, nullable_eq_of_rel requestVersion,
        required_eq_of_rel toolCallId⟩,
      required_eq_of_rel workspaceId⟩

end ExecutionAuthorizationBindingV1

/-! ### The authority -/

/-- A binding whose attempt number is a number of the language. -/
structure HeldBinding (nearest : JsonNumber → Option JsonNumber) where
  binding : ExecutionAuthorizationBindingV1
  held : nearest (JsonNumber.ofInt binding.execution.attemptNumber) =
    some (JsonNumber.ofInt binding.execution.attemptNumber)

/-- A JSON value of the language: no object has a key twice, and its numbers are held. -/
structure HeldJson (nearest : JsonNumber → Option JsonNumber) where
  json : Json
  distinct : distinctKeys json = true
  exact : exactNumbers nearest json = true

/-- What `issue` is given; a time to live is no integer where its value is missing. -/
structure IssueInput (nearest : JsonNumber → Option JsonNumber) where
  binding : HeldBinding nearest
  capabilities : Option (HeldJson nearest)
  ttlMs : Option (Option Int)

/-- The projection that the authority keeps, with copies of what it was given. -/
structure KeptProjection where
  authorizationId : String
  binding : Json
  capabilities : Json
  expiresAt : String
  issuedAt : String

structure AuthorityRecord where
  consumed : Bool
  projection : KeptProjection

/-- What `ToolRegistry.execute` is given. The token stands for itself: what it is in the
process that holds it. -/
structure AuthorizedExecutionInvocationV1 where
  authorization : Nat
  authorizationBinding : ExecutionAuthorizationBindingV1
  input : JsonObject
  toolName : String

/-- An executor that was invoked, and what the clock of the authority showed. -/
structure ToolInvocation (Executor : Type) where
  invocation : AuthorizedExecutionInvocationV1
  executor : Executor
  reading : Option Int

/-- The tokens of an authority, in the order they were issued, with the tools of a registry
that consumes them. -/
structure LocalAuthority (Executor : Type) where
  issued : List AuthorityRecord
  tools : KeyedTable String Executor
  invocations : List (ToolInvocation Executor)

/-- The options of the authority: `createExecutionAuthorizationAuthority` refuses any other
time to live. -/
structure AuthorityOptions where
  defaultTtlMs : Int
  positive : 0 < defaultTtlMs

def invalidAuthorization : GateError :=
  .executionAuthorization
    { code := .invalid, message := "Execution authorization was not issued by this authority." }

section

variable (nearest : JsonNumber → Option JsonNumber)

/-- `JSON.parse(canonicalJsonStringify(value))`. -/
def canonicalClone (value : Json) : Option Json :=
  jsonParse nearest (canonicalJsonStringify value)

theorem canonicalClone_same {value : Json} (distinct : distinctKeys value = true)
    (exact : exactNumbers nearest value = true) :
    ∃ copy, canonicalClone nearest value = some copy ∧ Same value copy :=
  have ⟨copy, parsed, same, _⟩ := jsonParse_text codeUnitOrder distinct exact
  ⟨copy, parsed, same⟩

end

theorem canonicalText_of_same {value copy : Json} (same : Same value copy)
    (distinct : distinctKeys value = true) :
    canonicalJsonStringify copy = canonicalJsonStringify value := by
  have texts := textWith_eq_of_same codeUnitsLe_preorder same distinct
    (tieFree_of_antisymm codeUnitsLe_antisymm value)
  unfold canonicalJsonStringify codeUnitOrder
  rw [texts]

/-- `sameCanonicalValue` tells whether two values are the same up to member order. -/
theorem same_of_sameCanonicalValue {left right : Json}
    (same : sameCanonicalValue left right = true) : Same left right := by
  unfold sameCanonicalValue canonicalJsonStringify at same
  exact same_of_textWith_eq (String.ofList_inj.mp (beq_iff_eq.mp same))

/-- The clock is at the expiry or past it. A clock or an expiry that is no time is not. -/
def expiredAt [Runtime] (reading : Option Int) (expiresAt : String) : Bool :=
  match reading, dateParse expiresAt with
  | some now, some expiry => decide (expiry ≤ now)
  | _, _ => false

/-- The binding that `ToolRegistry.execute` expects: what the invocation states, with the
input, the tool and the executor that it finds itself. -/
def AuthorizedExecutionInvocationV1.expectedBinding [Runtime]
    (invocation : AuthorizedExecutionInvocationV1) : ExecutionAuthorizationBindingV1 :=
  { invocation.authorizationBinding with
    action :=
      { invocation.authorizationBinding.action with
        inputHash := hashJson (.obj invocation.input)
        toolName := invocation.toolName }
    executorId := localExecutorId }

namespace LocalAuthority

variable {nearest : JsonNumber → Option JsonNumber} {Executor : Type}

def initial : LocalAuthority Executor :=
  { issued := [], tools := KeyedTable.empty, invocations := [] }

def ttlError : GateError :=
  .named "Error"
    "Execution authorization TTL must be a positive integer number of milliseconds."

def invalidTime : GateError := .named "RangeError" "Invalid time value"

/-- The projection of a new token, checks and copies in the order of the source. -/
def projectionOf (input : IssueInput nearest) (ttlMs now : Int) (drawnId : String) :
    Except GateError KeptProjection := do
  if (TextScan.content drawnId).isNone then
    throw (.named "Error" "Execution authorization ID must not be empty.")
  let unreadable : GateError := .named "SyntaxError" ""
  let binding ← (canonicalClone nearest input.binding.binding.json).elim (.error unreadable) .ok
  let capabilities ← (canonicalClone nearest
    ((input.capabilities.map HeldJson.json).getD conservativeExecutorCapabilities)).elim
      (.error unreadable) .ok
  let expiresAt ← (IsoTime.toISOString (now + ttlMs)).elim (.error invalidTime) .ok
  let issuedAt ← (IsoTime.toISOString now).elim (.error invalidTime) .ok
  return {
    authorizationId := drawnId
    binding := binding
    capabilities := capabilities
    expiresAt := expiresAt
    issuedAt := issuedAt }

/-- The time to live of a new token, if it is one. -/
def ttlOf (options : AuthorityOptions) (input : IssueInput nearest) : Option Int :=
  (input.ttlMs.getD (some options.defaultTtlMs)).filter (fun ttlMs => decide (0 < ttlMs))

def issue (options : AuthorityOptions) (input : IssueInput nearest) (reading : Option Int)
    (drawnId : String) (authority : LocalAuthority Executor) :
    Except GateError Nat × LocalAuthority Executor :=
  match ttlOf options input, reading with
  | none, _ => (.error ttlError, authority)
  | some _, none =>
      (.error (.named "Error" "Execution authorization clock returned an invalid date."),
        authority)
  | some ttlMs, some now =>
      match projectionOf input ttlMs now drawnId with
      | .error error => (.error error, authority)
      | .ok projection =>
          (.ok authority.issued.length,
            { authority with
              issued := authority.issued ++ [{ consumed := false, projection := projection }] })

def recordFor (authority : LocalAuthority Executor) (authorization : Nat) :
    Except GateError AuthorityRecord :=
  match authority.issued[authorization]? with
  | none => .error invalidAuthorization
  | some record => .ok record

def inspect (authority : LocalAuthority Executor) (authorization : Nat) :
    Except GateError KeptProjection :=
  (authority.recordFor authorization).map AuthorityRecord.projection

section

variable [Runtime]

/-- Why a token is not consumed. -/
def refusal (record : AuthorityRecord) (expected : ExecutionAuthorizationBindingV1)
    (reading : Option Int) : Option ExecutionAuthorizationError :=
  if record.consumed then
    some { code := .replayed, message := "Execution authorization has already been consumed." }
  else if expiredAt reading record.projection.expiresAt then
    some { code := .expired, message := "Execution authorization has expired." }
  else if !sameCanonicalValue record.projection.binding expected.json then
    some (bindingError "Execution authorization does not match the current execution binding.")
  else none

def consume (authorization : Nat) (expected : ExecutionAuthorizationBindingV1)
    (reading : Option Int) (authority : LocalAuthority Executor) :
    Except GateError KeptProjection × LocalAuthority Executor :=
  match authority.issued[authorization]? with
  | none => (.error invalidAuthorization, authority)
  | some record =>
      match refusal record expected reading with
      | some error => (.error (.executionAuthorization error), authority)
      | none =>
          (.ok record.projection,
            { authority with
              issued := authority.issued.set authorization { record with consumed := true } })

def register (name : String) (executor : Executor) (authority : LocalAuthority Executor) :
    LocalAuthority Executor :=
  { authority with tools := authority.tools.set name executor }

/-- `ToolRegistry.execute`. An executor that calls the authority again does so after its
token is consumed. -/
def execute (invocation : AuthorizedExecutionInvocationV1) (reading : Option Int)
    (authority : LocalAuthority Executor) : Except GateError Executor × LocalAuthority Executor :=
  match authority.inspect invocation.authorization with
  | .error error => (.error error, authority)
  | .ok projection =>
      if !sameCanonicalValue projection.capabilities conservativeExecutorCapabilities then
        (.error (bindingMismatch
          "Execution authorization capabilities do not match the local executor."), authority)
      else
        match authority.consume invocation.authorization invocation.expectedBinding reading with
        | (.error error, after) => (.error error, after)
        | (.ok _, after) =>
            match after.tools.get? invocation.toolName with
            | none =>
                (.error (.named "Error" ("No tool registered for " ++ invocation.toolName)), after)
            | some executor =>
                (.ok executor,
                  { after with
                    invocations := after.invocations ++
                      [{ invocation := invocation, executor := executor, reading := reading }] })

end

end LocalAuthority

end ActionProxy
