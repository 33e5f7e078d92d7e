import ActionProxy.Wrapper.CallTool

/-!
What one call of the wrapper may ask and return, whatever it is answered: the downstream
server is called once at most and with the input of a consumed grant, and a result goes
back only when it was reported.
-/

namespace ActionProxy.Wrapper

open Dialogue Talk JsonText

abbrev History : Type := List (Exchange Question Question.Answer)

def isDispatch : Question → Bool
  | .request (.callDownstream _ _ _ _) => true
  | _ => false

/-- The request was resolved with this answer. -/
def Answered (history : History) (request : Request) (answer : Option Json) : Prop :=
  ⟨.request request, .ok answer⟩ ∈ history

def NoDispatch (history : History) : Prop := ∀ exchange ∈ history, isDispatch exchange.1 = false

/-- The tool call is the one submitted, as answered or as waited for. -/
def Decided (history : History) (toolCall : Option Json) : Prop :=
  ∃ body key signal submitted, Answered history (.submitToolCall body key signal) submitted ∧
    (property submitted "toolCall" = .ok toolCall ∨
      ∃ id interval timeout signal, property submitted "id" = .ok id ∧
        Answered history (.waitForToolCall id interval timeout signal) toolCall)

/-- The grant of the tool call was consumed with this input. -/
def ConsumedFor (name : String) (history : History) (input : Option Json) (grantId : String) :
    Prop :=
  ∃ toolCall result grant consumeInput signal answer, Decided history toolCall ∧
    property toolCall "result" = .ok result ∧ executionGrantFromResult result = some grant ∧
    grant.id = grantId ∧ property toolCall "id" = .ok consumeInput.toolCallId ∧
    consumeInput.input = input ∧ consumeInput.toolName = name ∧
    Answered history (.consumeExecutionGrant grantId consumeInput signal) answer

/-- A call downstream is the first one, and its grant was consumed with its input. -/
def MayAsk (name : String) (history : History) : Question → Prop
  | .request (.callDownstream _ tool input _) =>
      tool = name ∧ NoDispatch history ∧ ∃ grantId, ConsumedFor name history input grantId
  | _ => True

/-- The texts that may follow a call downstream. -/
def uncertainOutcomes : List String :=
  [DOWNSTREAM_TIMEOUT_MESSAGE, DOWNSTREAM_UNKNOWN_OUTCOME_MESSAGE,
    DOWNSTREAM_OUTCOME_REPORTING_FAILURE_MESSAGE]

section

variable [Runtime] (nearest : JsonNumber → Option JsonNumber)

/-- The value is what the server answered to the one call, and it was reported with its
delivery evidence under the grant that was consumed for the call. -/
def ReportedResult (name : String) (history : History) (value : Json) : Prop :=
  ∃ grantId server input signal answer result report reported,
    ConsumedFor name history input grantId ∧
    Answered history (.callDownstream server name input signal) answer ∧
    validateMcpCallResult answer = .ok result ∧ normalizeMcpCallResult nearest result = .ok value ∧
    report.result = some value ∧ report.resultDelivery = some (resultDeliveryForMcpResult value) ∧
    Answered history (.reportExecutionGrantOutcome grantId report) reported

/-- What is returned is a reported result or an error text of the wrapper; after a call
downstream the text is one of three that say nothing of the result. -/
def MayReturn (name : String) (history : History) (value : Json) : Prop :=
  ReportedResult nearest name history value ∨
    ∃ text, value = errorResult text ∧
      (NoDispatch history ∨ ∃ message ∈ uncertainOutcomes, text = .str message)

end

/-! ### Histories that grow -/

/-- The history went on without a call downstream. -/
def Since (earlier later : History) : Prop :=
  ∃ more, later = earlier ++ more ∧ NoDispatch more

theorem Since.refl (history : History) : Since history history :=
  ⟨[], (List.append_nil history).symm, fun _ listed => absurd listed List.not_mem_nil⟩

theorem noDispatch_append {first second : History} (one : NoDispatch first)
    (other : NoDispatch second) : NoDispatch (first ++ second) := by
  intro exchange listed
  exact (List.mem_append.mp listed).elim (one exchange) (other exchange)

theorem Since.trans {first second third : History} (one : Since first second)
    (other : Since second third) : Since first third := by
  obtain ⟨more, rfl, quiet⟩ := one
  obtain ⟨later, rfl, still⟩ := other
  exact ⟨more ++ later, List.append_assoc _ _ _, noDispatch_append quiet still⟩

theorem since_snoc (history : History) {question : Question} (quiet : isDispatch question = false)
    (answer : question.Answer) : Since history (history ++ [⟨question, answer⟩]) := by
  refine ⟨_, rfl, ?_⟩
  intro exchange listed
  rw [List.mem_singleton.mp listed]
  exact quiet

theorem Since.noDispatch {earlier later : History} (since : Since earlier later)
    (none : NoDispatch earlier) : NoDispatch later := by
  obtain ⟨more, rfl, quiet⟩ := since
  exact noDispatch_append none quiet

theorem Answered.append {history : History} {request : Request} {answer : Option Json}
    (answered : Answered history request answer) (more : History) :
    Answered (history ++ more) request answer :=
  List.mem_append_left more answered

theorem Decided.append {history : History} {toolCall : Option Json}
    (decided : Decided history toolCall) (more : History) : Decided (history ++ more) toolCall := by
  obtain ⟨body, key, signal, submitted, sent, called | ⟨id, interval, timeout, waiting, read, waited⟩⟩ :=
    decided
  · exact ⟨body, key, signal, submitted, sent.append more, Or.inl called⟩
  · exact ⟨body, key, signal, submitted, sent.append more,
      Or.inr ⟨id, interval, timeout, waiting, read, waited.append more⟩⟩

theorem ConsumedFor.append {name : String} {history : History} {input : Option Json}
    {grantId : String} (consumed : ConsumedFor name history input grantId) (more : History) :
    ConsumedFor name (history ++ more) input grantId := by
  obtain ⟨toolCall, result, grant, consumeInput, signal, answer, decided, read, granted, same, id,
    input, tool, answered⟩ := consumed
  exact ⟨toolCall, result, grant, consumeInput, signal, answer, decided.append more, read, granted,
    same, id, input, tool, answered.append more⟩

theorem Since.answered {earlier later : History} (since : Since earlier later) {request : Request}
    {answer : Option Json} (answered : Answered earlier request answer) :
    Answered later request answer := by
  obtain ⟨more, rfl, _⟩ := since
  exact answered.append more

theorem Since.decided {earlier later : History} (since : Since earlier later)
    {toolCall : Option Json} (decided : Decided earlier toolCall) : Decided later toolCall := by
  obtain ⟨more, rfl, _⟩ := since
  exact decided.append more

theorem Since.consumed {earlier later : History} (since : Since earlier later) {name : String}
    {input : Option Json} {grantId : String} (consumed : ConsumedFor name earlier input grantId) :
    ConsumedFor name later input grantId := by
  obtain ⟨more, rfl, _⟩ := since
  exact consumed.append more

theorem answered_snoc (history : History) (request : Request) (answer : Option Json) :
    Answered (history ++ [⟨.request request, .ok answer⟩]) request answer :=
  List.mem_append_right history List.mem_cons_self

/-! ### Steps of a call -/

section

variable {name : String} {history : History} {α : Type}

theorem holds_request_iff {request : Request} {asks : History → Question → Prop}
    {returns : History → Option Json → Prop} {throws : History → Thrown → Prop} :
    (Call.request request).Holds asks returns throws history ↔
      asks history (.request request) ∧
        (∀ answer, returns (history ++ [⟨.request request, .ok answer⟩]) answer) ∧
        ∀ error, throws (history ++ [⟨.request request, .error error⟩]) error := by
  constructor
  · rintro ⟨asked, every⟩
    exact ⟨asked, fun answer => every (.ok answer), fun error => every (.error error)⟩
  · rintro ⟨asked, resolved, rejected⟩
    refine ⟨asked, ?_⟩
    intro answer
    cases answer with
    | ok answer => exact resolved answer
    | error error => exact rejected error

/-- A request that is not a call downstream leaves the history without a new one. -/
theorem holds_quiet_request {request : Request} (quiet : isDispatch (.request request) = false)
    {returns : History → Option Json → Prop} {throws : History → Thrown → Prop}
    (resolved : ∀ later answer, Since history later → Answered later request answer →
      returns later answer)
    (rejected : ∀ later error, Since history later → throws later error) :
    (Call.request request).Holds (MayAsk name) returns throws history := by
  refine holds_request_iff.mpr ⟨?_, ?_, ?_⟩
  · cases request <;> first | exact True.intro | cases quiet
  · intro answer
    exact resolved _ answer (since_snoc history quiet _) (answered_snoc history request answer)
  · intro error
    exact rejected _ error (since_snoc history quiet _)

theorem holds_aborted {options : CallOptions} {returns : History → Bool → Prop}
    {throws : History → Thrown → Prop}
    (answered : ∀ later answer, Since history later → returns later answer) :
    options.aborted.Holds (MayAsk name) returns throws history := by
  unfold CallOptions.aborted
  by_cases signal : options.signal = true
  · rw [if_pos signal]
    exact ⟨True.intro, fun answer => answered _ answer (since_snoc history rfl answer)⟩
  · rw [if_neg signal]
    exact answered history false (Since.refl history)

theorem holds_throwIfAborted {options : CallOptions} {returns : History → Unit → Prop}
    {throws : History → Thrown → Prop} (passed : ∀ later, Since history later → returns later ())
    (thrown : ∀ later error, Since history later → throws later error) :
    (throwIfAborted options).Holds (MayAsk name) returns throws history := by
  rw [throwIfAborted, holds_bind_iff]
  refine holds_aborted ?_
  intro later answer since
  cases answer with
  | false => exact passed later since
  | true => exact thrown later _ since

theorem holds_quiet_attempt {request : Request} (quiet : isDispatch (.request request) = false)
    {returns : History → Except Thrown (Option Json) → Prop} {throws : History → Thrown → Prop}
    (resolved : ∀ later answer, Since history later → Answered later request answer →
      returns later (.ok answer))
    (rejected : ∀ later error, Since history later → returns later (.error error)) :
    (Call.request request).attempt.Holds (MayAsk name) returns throws history := by
  rw [holds_attempt_iff]
  exact holds_quiet_request quiet resolved rejected

theorem holds_isAbandonedApprovalWait {options : CallOptions} {error : Thrown}
    {returns : History → Bool → Prop} {throws : History → Thrown → Prop}
    (answered : ∀ later answer, Since history later → returns later answer) :
    (isAbandonedApprovalWait error options).Holds (MayAsk name) returns throws history := by
  rw [isAbandonedApprovalWait, holds_bind_iff]
  refine holds_aborted ?_
  intro later aborted since
  cases aborted with
  | false => exact answered later _ since
  | true => exact answered later true since

theorem holds_cancelPending {wrapper : ActionProxyMcpWrapper} {options : CallOptions}
    {approvalId : Option Json} {returns : History → Unit → Prop}
    {throws : History → Thrown → Prop} (passed : ∀ later, Since history later → returns later ()) :
    (cancelPending wrapper options approvalId).Holds (MayAsk name) returns throws history := by
  rw [cancelPending, holds_bind_iff]
  refine holds_aborted ?_
  intro first aborted before
  dsimp only
  rw [holds_bind_iff]
  refine holds_quiet_attempt rfl ?_ ?_
  · intro later answer since _
    exact passed later (before.trans since)
  · intro later error since
    exact passed later (before.trans since)

theorem holds_cancelAbandonedApproval {wrapper : ActionProxyMcpWrapper} {options : CallOptions}
    {submitted : Option Json} {error : Thrown} {returns : History → Unit → Prop}
    {throws : History → Thrown → Prop} (passed : ∀ later, Since history later → returns later ()) :
    (cancelAbandonedApproval wrapper options submitted error).Holds (MayAsk name) returns throws
      history := by
  unfold cancelAbandonedApproval
  dsimp only
  split
  · rw [holds_bind_iff]
    refine holds_isAbandonedApprovalWait ?_
    intro first abandoned before
    cases abandoned with
    | false => exact passed first before
    | true =>
        refine holds_cancelPending ?_
        intro later since
        exact passed later (before.trans since)
  · exact passed history (Since.refl history)

theorem holds_decidedToolCall {wrapper : ActionProxyMcpWrapper} {options : CallOptions}
    {submitted : Option Json} {body : Json} {key : String} {signal : Bool}
    (sent : Answered history (.submitToolCall body key signal) submitted)
    {returns : History → Option Json → Prop}
    (decided : ∀ later toolCall, Since history later → Decided later toolCall →
      returns later toolCall) :
    (decidedToolCall wrapper options submitted).Holds (MayAsk name) returns (fun _ _ => True)
      history := by
  rw [decidedToolCall, holds_bind_iff]
  refine holds_ofExcept ?_ (fun _ _ => True.intro)
  intro toolCall called
  rw [holds_bind_iff]
  refine holds_ofExcept ?_ (fun _ _ => True.intro)
  intro status _
  split
  · rw [holds_bind_iff]
    refine holds_ofExcept ?_ (fun _ _ => True.intro)
    intro id read
    rw [holds_bind_iff]
    refine holds_quiet_attempt rfl ?_ ?_
    · intro later answer since waited
      exact decided later answer since
        ⟨body, key, signal, submitted, since.answered sent, Or.inr ⟨id, _, _, _, read, waited⟩⟩
    · intro later error _
      dsimp only
      rw [holds_bind_iff]
      exact holds_cancelAbandonedApproval (fun _ _ => True.intro)
  · exact decided history toolCall (Since.refl history)
      ⟨body, key, signal, submitted, sent, Or.inl called⟩

theorem holds_consumeGrant {options : CallOptions} {grantId : String} {consumeInput : ConsumeInput}
    {returns : History → Option String → Prop} {throws : History → Thrown → Prop}
    (consumed : ∀ later answer, Since history later →
      Answered later (.consumeExecutionGrant grantId consumeInput options.signal) answer →
      returns later none)
    (refused : ∀ later message, Since history later → returns later (some message)) :
    (consumeGrant options grantId consumeInput).Holds (MayAsk name) returns throws history := by
  rw [consumeGrant, holds_bind_iff]
  refine holds_quiet_attempt rfl ?_ ?_
  · intro later answer since answered
    exact consumed later answer since answered
  · intro later error before
    dsimp only
    split
    · rw [holds_bind_iff]
      refine holds_quiet_attempt rfl ?_ ?_
      · intro last answer since _
        exact refused last _ (before.trans since)
      · intro last failure since
        exact refused last _ (before.trans since)
    · exact refused later _ before

theorem holds_reportDownstreamError {grantId : String} {error : Thrown}
    {returns : History → Json → Prop} {throws : History → Thrown → Prop}
    (said : ∀ later, ∀ message ∈ uncertainOutcomes, returns later (errorResult (.str message))) :
    (reportDownstreamError grantId error).Holds (MayAsk name) returns throws history := by
  rw [reportDownstreamError, holds_bind_iff]
  refine holds_quiet_attempt rfl ?_ ?_
  · intro later answer _ _
    dsimp only
    split
    · exact said later DOWNSTREAM_TIMEOUT_MESSAGE (by simp [uncertainOutcomes])
    · exact said later DOWNSTREAM_UNKNOWN_OUTCOME_MESSAGE (by simp [uncertainOutcomes])
  · intro later failure _
    exact said later DOWNSTREAM_OUTCOME_REPORTING_FAILURE_MESSAGE (by simp [uncertainOutcomes])

end

section

variable [Runtime] {nearest : JsonNumber → Option JsonNumber} {name : String} {history : History}

theorem resultReport_carries (result : Json) :
    (resultReport result).result = some result ∧
      (resultReport result).resultDelivery = some (resultDeliveryForMcpResult result) := by
  unfold resultReport
  split
  · exact ⟨rfl, rfl⟩
  · exact ⟨rfl, rfl⟩

theorem holds_reportResult {grantId : String} {result : Json} {returns : History → Json → Prop}
    {throws : History → Thrown → Prop}
    (reported : ∀ later answer, Since history later →
      Answered later (.reportExecutionGrantOutcome grantId (resultReport result)) answer →
      returns later result)
    (said : ∀ later, ∀ message ∈ uncertainOutcomes, returns later (errorResult (.str message))) :
    (reportResult grantId result).Holds (MayAsk name) returns throws history := by
  rw [reportResult, holds_bind_iff]
  refine holds_quiet_attempt rfl ?_ ?_
  · intro later answer since answered
    exact reported later answer since answered
  · intro later failure _
    exact said later DOWNSTREAM_OUTCOME_REPORTING_FAILURE_MESSAGE (by simp [uncertainOutcomes])

/-- After its grant was consumed a call goes downstream once, and returns what the
rules allow. -/
theorem holds_dispatchConsumed {options : CallOptions} {server : String} {input : Option Json}
    {grantId : String} (consumed : ConsumedFor name history input grantId)
    (none : NoDispatch history) :
    (dispatchConsumed nearest options server name input grantId).Holds (MayAsk name)
      (MayReturn nearest name) (fun _ _ => True) history := by
  have said (later : History) (message : String) (listed : message ∈ uncertainOutcomes) :
      MayReturn nearest name later (errorResult (.str message)) :=
    Or.inr ⟨.str message, rfl, Or.inr ⟨message, listed, rfl⟩⟩
  rw [dispatchConsumed, holds_bind_iff]
  refine holds_aborted ?_
  intro first aborted before
  cases aborted with
  | true =>
      rw [if_pos rfl, holds_bind_iff]
      refine holds_quiet_attempt rfl ?_ ?_
      · intro later answer since _
        exact Or.inr ⟨_, rfl, Or.inl ((before.trans since).noDispatch none)⟩
      · intro later error since
        exact Or.inr ⟨_, rfl, Or.inl ((before.trans since).noDispatch none)⟩
  | false =>
      rw [if_neg (by simp), holds_bind_iff, holds_attempt_iff, callDownstream, holds_bind_iff]
      refine holds_request_iff.mpr ⟨⟨rfl, before.noDispatch none, grantId,
        before.consumed consumed⟩, ?_, ?_⟩
      · intro answer
        have called := answered_snoc first
          (.callDownstream server name input options.signal) answer
        have kept := (before.consumed consumed).append
          [⟨.request (.callDownstream server name input options.signal), .ok answer⟩]
        rw [holds_bind_iff]
        refine holds_ofExcept ?_ (fun _ _ => holds_reportDownstreamError said)
        intro result checked
        refine holds_ofExcept ?_ (fun _ _ => holds_reportDownstreamError said)
        intro value normalized
        refine holds_reportResult ?_ said
        intro later reported since resolved
        have carries := resultReport_carries value
        exact Or.inl ⟨grantId, server, input, options.signal, answer, result, resultReport value,
          reported, since.consumed kept, since.answered called, checked, normalized, carries.1,
          carries.2, resolved⟩
      · intro error
        exact holds_reportDownstreamError said

theorem holds_executeAuthorized {options : CallOptions} {server : String} {args : JsonObject}
    {finalToolCall : Option Json} (decided : Decided history finalToolCall)
    (none : NoDispatch history) :
    (executeAuthorized nearest options server name args finalToolCall).Holds (MayAsk name)
      (MayReturn nearest name) (fun _ _ => True) history := by
  rw [executeAuthorized, holds_bind_iff]
  refine holds_ofExcept ?_ (fun _ _ => True.intro)
  intro input _
  dsimp only
  rw [holds_bind_iff]
  refine holds_ofExcept ?_ (fun _ _ => True.intro)
  intro result read
  split
  · exact Or.inr ⟨_, rfl, Or.inl none⟩
  · rename_i grant granted
    rw [holds_bind_iff]
    refine holds_ofExcept ?_ (fun _ _ => True.intro)
    intro policyVersionHash _
    rw [holds_bind_iff]
    refine holds_ofExcept ?_ (fun _ _ => True.intro)
    intro toolCallId identified
    rw [holds_bind_iff]
    refine holds_consumeGrant ?_ ?_
    · intro later answer since answered
      exact holds_dispatchConsumed
        ⟨finalToolCall, result, grant, _, _, answer, since.decided decided, read, granted, rfl,
          identified, rfl, rfl, answered⟩ (since.noDispatch none)
    · intro later message since
      exact Or.inr ⟨_, rfl, Or.inl (since.noDispatch none)⟩

theorem callTool_holds (nearest : JsonNumber → Option JsonNumber)
    (wrapper : ActionProxyMcpWrapper) (name : String) (args : JsonObject) (options : CallOptions) :
    (callTool nearest wrapper name args options).Holds (MayAsk name) (MayReturn nearest name)
      (fun _ _ => True) [] := by
  have none : NoDispatch [] := fun _ listed => absurd listed List.not_mem_nil
  unfold callTool
  split
  · exact Or.inr ⟨_, rfl, Or.inl none⟩
  · rename_i server _
    rw [holds_bind_iff]
    refine holds_throwIfAborted ?_ (fun _ _ _ => True.intro)
    intro first before
    rw [holds_bind_iff]
    refine holds_ofExcept ?_ (fun _ _ => True.intro)
    intro _ _
    dsimp only
    rw [holds_bind_iff]
    refine holds_quiet_request rfl ?_ (fun _ _ _ => True.intro)
    intro second submitted sending sent
    rw [holds_bind_iff]
    refine holds_decidedToolCall sent ?_
    intro third finalToolCall deciding decided
    have quiet := (before.trans (sending.trans deciding)).noDispatch none
    rw [holds_bind_iff]
    refine holds_ofExcept ?_ (fun _ _ => True.intro)
    intro status _
    split
    · rw [holds_bind_iff]
      refine holds_ofExcept ?_ (fun _ _ => True.intro)
      intro denied _
      exact Or.inr ⟨denied, rfl, Or.inl quiet⟩
    · exact holds_executeAuthorized decided quiet

end

end ActionProxy.Wrapper
