import ActionProxy.Wrapper.DispatchDiscipline

/-!
`runExternalAction` of the SDK as a conversation with its client and the caller's
executor, and the discipline it shares with the wrapper.
-/

namespace ActionProxy.Sdk

open Dialogue Talk JsonText

/-- What the SDK sends to its client, or hands to the executor. -/
inductive Request where
  | submitToolCall (request : Json) (idempotencyKey : Option String)
  | waitForToolCall (id : Option Json) (options : JsonObject)
  | consumeExecutionGrant (grantId : String)
      (input policyVersionHash toolCallId toolName : Option Json)
  | execute (input consumed toolCall : Option Json)
  | reportError (grantId error : String)
  | reportResult (grantId : String) (result : Option Json)

abbrev Run (α : Type) : Type := Talk Request (fun _ => Except Thrown (Option Json)) Thrown α

abbrev History : Type := List (Exchange Request (fun _ => Except Thrown (Option Json)))

def Run.request (request : Request) : Run (Option Json) :=
  .ask request (fun answer => Talk.ofExcept answer)

structure RunExternalActionInput where
  action : Option JsonObject
  agentId : String
  input : JsonObject
  idempotencyKey : Option String
  metadata : Option JsonObject
  reason : String
  requestedBy : String
  toolName : String
  wait : Option JsonObject

structure RunExternalActionResult where
  consumed : Option Json
  outcome : Option Json
  result : Option Json
  submitted : Option Json
  toolCall : Option Json

/-- `{ ...members, key: members?.key ?? value }`. -/
def withDefault (members : Option JsonObject) (key value : String) : JsonObject :=
  let members := members.getD []
  putMember members key ((orElse (member? members key) (some (.str value))).getD .null)

def submission (input : RunExternalActionInput) : Json :=
  .obj
    [("action", some (.obj (withDefault input.action "executionMode" "external_grant"))),
      ("agentId", some (.str input.agentId)),
      ("input", some (.obj input.input)),
      ("metadata", some (.obj (withDefault input.metadata "actionproxyExecution" "external"))),
      ("reason", some (.str input.reason)),
      ("requestedBy", some (.str input.requestedBy)),
      ("toolName", some (.str input.toolName))]

/-- `{ until: wait?.until ?? [...], ...wait }`. -/
def waitOptions (wait : Option JsonObject) : JsonObject :=
  let statuses := .arr [.str "authorized", .str "blocked", .str "rejected", .str "failed"]
  let members := wait.getD []
  let rest := members.filter (fun member => member.1 != "until")
  if members.any (fun member => member.1 == "until") then
    ("until", member? members "until") :: rest
  else ("until", some statuses) :: rest

def grantFromToolCall (toolCall : Option Json) : Option String := do
  let result ← asRecord? (optionalProperty toolCall "result")
  let grant ← asRecord? (member? result "grant")
  match member? grant "id" with
  | some (.str id) => some id
  | _ => none

def externalActionError (message : String) : Thrown :=
  .error "ActionProxyExternalActionError" message

/-- Report that the executor failed; the error that is thrown then. -/
def reportFailure (toolName grantId : String) (error : Thrown) : Run RunExternalActionResult := do
  let _ ← Run.request (.reportError grantId (errorMessage error))
  .throw (externalActionError
    ("Downstream execution outcome is unknown for " ++ toolName ++
      "; reconcile before retrying."))

/-- Report the result of the executor, and only then return it. -/
def reportSuccess (grantId : String) (consumed submitted result : Option Json) :
    Run RunExternalActionResult := do
  let outcome ← Run.request (.reportResult grantId result)
  let toolCall ← Talk.ofExcept (property outcome "toolCall")
  Pure.pure
    { consumed := consumed
      outcome := outcome
      result := result
      submitted := submitted
      toolCall := toolCall }

def runExternalAction (input : RunExternalActionInput) : Run RunExternalActionResult := do
  let submitted ← Run.request (.submitToolCall (submission input) input.idempotencyKey)
  let id ← Talk.ofExcept (property submitted "id")
  let finalToolCall ← Run.request (.waitForToolCall id (waitOptions input.wait))
  let status ← Talk.ofExcept (property finalToolCall "status")
  if !equalsText status "authorized" then
    .throw (externalActionError
      ("ActionProxy did not authorize " ++ input.toolName ++ ". Final status: " ++
        inTemplate status ++ "."))
  else
    match grantFromToolCall finalToolCall with
    | none =>
        .throw (externalActionError
          ("ActionProxy authorized " ++ input.toolName ++ " without an execution grant."))
    | some grantId => do
        let executionInput := optionalProperty finalToolCall "input"
        let consumed ← Run.request (.consumeExecutionGrant grantId executionInput
          (optionalProperty finalToolCall "policyVersionHash")
          (optionalProperty finalToolCall "id") (optionalProperty finalToolCall "toolName"))
        match ← (Run.request (.execute executionInput consumed finalToolCall)).attempt with
        | .error error => reportFailure input.toolName grantId error
        | .ok result => reportSuccess grantId consumed submitted result

/-! ### The discipline -/

def isExecution : Request → Bool
  | .execute _ _ _ => true
  | _ => false

/-- The request was resolved with this answer. -/
def Answered (history : History) (request : Request) (answer : Option Json) : Prop :=
  ⟨request, .ok answer⟩ ∈ history

/-- The grant of the tool call that was submitted and waited for was consumed with this
input. -/
def ConsumedFor (history : History) (input consumed toolCall : Option Json) (grantId : String) :
    Prop :=
  ∃ body key submitted id options policyVersionHash toolName,
    Answered history (.submitToolCall body key) submitted ∧ property submitted "id" = .ok id ∧
    Answered history (.waitForToolCall id options) toolCall ∧
    grantFromToolCall toolCall = some grantId ∧
    Answered history (.consumeExecutionGrant grantId input policyVersionHash
      (optionalProperty toolCall "id") toolName) consumed

/-- The executor is handed the input of a consumed grant, and only the first time. -/
def MayAsk (history : History) : Request → Prop
  | .execute input consumed toolCall =>
      (∀ exchange ∈ history, isExecution exchange.1 = false) ∧
        ∃ grantId, ConsumedFor history input consumed toolCall grantId
  | _ => True

/-- The result is what the executor answered, and its report was resolved. -/
def MayReturn (history : History) (returned : RunExternalActionResult) : Prop :=
  ∃ grantId input toolCall, ConsumedFor history input returned.consumed toolCall grantId ∧
    Answered history (.execute input returned.consumed toolCall) returned.result ∧
    Answered history (.reportResult grantId returned.result) returned.outcome

theorem holds_request_iff {request : Request} {asks : History → Request → Prop}
    {returns : History → Option Json → Prop} {throws : History → Thrown → Prop}
    {history : History} :
    (Run.request request).Holds asks returns throws history ↔
      asks history request ∧ (∀ answer, returns (history ++ [⟨request, .ok answer⟩]) answer) ∧
        ∀ error, throws (history ++ [⟨request, .error error⟩]) error := by
  constructor
  · rintro ⟨asked, every⟩
    exact ⟨asked, fun answer => every (.ok answer), fun error => every (.error error)⟩
  · rintro ⟨asked, resolved, rejected⟩
    refine ⟨asked, ?_⟩
    intro answer
    cases answer with
    | ok answer => exact resolved answer
    | error error => exact rejected error

theorem runExternalAction_holds (input : RunExternalActionInput) :
    (runExternalAction input).Holds MayAsk MayReturn (fun _ _ => True) [] := by
  rw [runExternalAction, holds_bind_iff]
  refine holds_request_iff.mpr ⟨True.intro, ?_, fun _ => True.intro⟩
  intro submitted
  rw [holds_bind_iff]
  refine holds_ofExcept ?_ (fun _ _ => True.intro)
  intro id read
  rw [holds_bind_iff]
  refine holds_request_iff.mpr ⟨True.intro, ?_, fun _ => True.intro⟩
  intro toolCall
  rw [holds_bind_iff]
  refine holds_ofExcept ?_ (fun _ _ => True.intro)
  intro status _
  split
  · exact True.intro
  · split
    · exact True.intro
    · rename_i grantId granted
      dsimp only
      rw [holds_bind_iff]
      refine holds_request_iff.mpr ⟨True.intro, ?_, fun _ => True.intro⟩
      intro consumed
      generalize spent : ([] ++ [_] ++ [_] ++ [_] : History) = history
      have kept (more : History) : ConsumedFor (history ++ more)
          (optionalProperty toolCall "input") consumed toolCall grantId := by
        rw [← spent]
        exact ⟨submission input, input.idempotencyKey, submitted, id, waitOptions input.wait,
          optionalProperty toolCall "policyVersionHash", optionalProperty toolCall "toolName",
          by simp [Answered], read, by simp [Answered], granted, by simp [Answered]⟩
      have fresh : ∀ exchange ∈ history, isExecution exchange.1 = false := by
        rw [← spent]
        simp [isExecution]
      have consumption := kept []
      rw [List.append_nil] at consumption
      rw [holds_bind_iff, holds_attempt_iff]
      refine holds_request_iff.mpr ⟨⟨fresh, grantId, consumption⟩, ?_, ?_⟩
      · intro result
        dsimp only
        rw [reportSuccess, holds_bind_iff]
        refine holds_request_iff.mpr ⟨True.intro, ?_, fun _ => True.intro⟩
        intro outcome
        rw [holds_bind_iff]
        refine holds_ofExcept ?_ (fun _ _ => True.intro)
        intro final _
        refine ⟨grantId, optionalProperty toolCall "input", toolCall, ?_, ?_, ?_⟩
        · rw [List.append_assoc]
          exact kept _
        · simp [Answered]
        · simp [Answered]
      · intro error
        dsimp only
        rw [reportFailure, holds_bind_iff]
        exact holds_request_iff.mpr ⟨True.intro, fun _ => True.intro, fun _ => True.intro⟩

/-! ### Both -/

/-- Whatever is answered, one call of the wrapper or one run of the SDK goes downstream
at most once, with the input of the grant of its tool call that was consumed before, and
returns what it got from there only when that very result was reported before. -/
theorem dispatch_discipline [Runtime] (nearest : JsonNumber → Option JsonNumber) :
    (∀ wrapper name args options history now,
      Talk.Reached (Wrapper.callTool nearest wrapper name args options) history now →
        (history.filter (fun exchange => Wrapper.isDispatch exchange.1)).length ≤ 1 ∧
        (∀ server tool input signal,
          now.Asking (.request (.callDownstream server tool input signal)) →
            tool = name ∧ Wrapper.NoDispatch history ∧
              ∃ grantId, Wrapper.ConsumedFor name history input grantId) ∧
        ∀ value, now = .pure value →
          Wrapper.ReportedResult nearest name history value ∨
            ∃ text, value = Wrapper.errorResult text ∧ (Wrapper.NoDispatch history ∨
              ∃ message ∈ Wrapper.uncertainOutcomes, text = .str message)) ∧
    ∀ input history now, Talk.Reached (runExternalAction input) history now →
      (history.filter (fun exchange => isExecution exchange.1)).length ≤ 1 ∧
      (∀ executed consumed toolCall, now.Asking (.execute executed consumed toolCall) →
        (∀ exchange ∈ history, isExecution exchange.1 = false) ∧
          ∃ grantId, ConsumedFor history executed consumed toolCall grantId) ∧
      ∀ returned, now = .pure returned → MayReturn history returned := by
  constructor
  · intro wrapper name args options history now reached
    have start := Wrapper.callTool_holds nearest wrapper name args options
    refine ⟨reached.atMostOnce Wrapper.isDispatch start ?_, ?_, ?_⟩
    · intro before question allowed dispatch
      cases question with
      | aborted => cases dispatch
      | request request =>
          cases request with
          | callDownstream server tool input signal => exact allowed.2.1
          | _ => cases dispatch
    · intro server tool input signal asking
      exact reached.asked start asking
    · intro value done
      exact reached.returned start done
  · intro input history now reached
    have start := runExternalAction_holds input
    refine ⟨reached.atMostOnce isExecution start ?_, ?_, ?_⟩
    · intro before request allowed execution
      cases request with
      | execute executed consumed toolCall => exact allowed.1
      | _ => cases execution
    · intro executed consumed toolCall asking
      exact reached.asked start asking
    · intro returned done
      exact reached.returned start done

private def refundInput : RunExternalActionInput :=
  { action := none
    agentId := "agent"
    input := []
    idempotencyKey := none
    metadata := none
    reason := "refund"
    requestedBy := "user"
    toolName := "refunds.create"
    wait := none }

private def authorizedRefund : Json :=
  .obj
    [("id", some (.str "call")), ("input", some (.obj [])),
      ("result", some (.obj [("grant", some (.obj [("id", some (.str "grant"))]))])),
      ("status", some (.str "authorized")), ("toolName", some (.str "refunds.create"))]

private def refundReturned : RunExternalActionResult :=
  { consumed := none
    outcome := some (.obj [])
    result := some (.str "done")
    submitted := some authorizedRefund
    toolCall := none }

/-- A run that was authorized, consumed its grant and reported its result. -/
theorem refund_disciplined : ∃ history,
    Talk.Reached (runExternalAction refundInput) history (.pure refundReturned) ∧
      MayReturn history refundReturned := by
  have reached : ∃ history, Talk.Reached (runExternalAction refundInput) history (.pure refundReturned) := by
    have begun : Talk.Reached (runExternalAction refundInput) [] (runExternalAction refundInput) := .start
    have submitted := Talk.Reached.answered begun (.ok (some authorizedRefund))
    have waited := Talk.Reached.answered submitted (.ok (some authorizedRefund))
    have consumed := Talk.Reached.answered waited (.ok none)
    have executed := Talk.Reached.answered consumed (.ok (some (.str "done")))
    exact ⟨_, Talk.Reached.answered executed (.ok (some (.obj [])))⟩
  obtain ⟨history, reached⟩ := reached
  exact ⟨history, reached, ((@dispatch_discipline (sampleRuntime []) some).2 _ _ _ reached).2.2 _ rfl⟩

end ActionProxy.Sdk
