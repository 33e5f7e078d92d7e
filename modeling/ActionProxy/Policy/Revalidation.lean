import ActionProxy.Policy.PolicyContext
import ActionProxy.Policy.PolicyHash
import ActionProxy.Security.ActionEnvelope

/-!
Revalidation of an edited input. Policies tell two contexts of a tool apart
exactly when the values their conditions are compared with differ; the frozen
context of a canonical tool call keeps the amount, currency and recipients of
the submitted input, so an edit is judged as a fresh submission would be exactly
when these stay in force.
-/

namespace ActionProxy

open JsonText

/-! ### Contexts that no policy tells apart -/

/-- Texts a condition can be compared with are never empty. -/
structure ConditionValues.Given (values : ConditionValues) : Prop where
  approverGroup : values.approverGroup ≠ some ""
  currency : values.currency ≠ some ""
  operationKind : values.operationKind ≠ some ""
  recipientDomain : values.recipientDomain ≠ some ""
  risk : values.risk ≠ some ""

/-- A policy that denies one tool under one condition and allows everything else. -/
def denyingPolicy (toolName key : String) (expected : Json) : PolicyFile :=
  { version := JsonNumber.ofDigit 1 Nat.one_ne_zero
    default := PolicyRule.plain .never
    tools := KeyedTable.empty.set toolName
      { PolicyRule.plain .deny with conditions := some [(key, expected)] } }

theorem denyingPolicy_accepted {toolName key : String} {expected : Json}
    (named : toolName ≠ "__proto__") (distinct : distinctMembers expected = true) :
    (denyingPolicy toolName key expected).accepted = true := by
  simp [denyingPolicy, PolicyFile.accepted, KeyedTable.set, KeyedTable.empty,
    KeyedTable.setEntries, PolicyRule.accepted, PolicyRule.plain, conditionsAccepted, distinct,
    named]

theorem text_eq_of_matches {left right : Option String} (leftGiven : left ≠ some "")
    (rightGiven : right ≠ some "")
    (agree : ∀ expected, matchesOne (.str expected) left = matchesOne (.str expected) right) :
    left = right := by
  have kept : ∀ {value : Option String}, value ≠ some "" → nonEmpty value = value := by
    intro value given
    cases value with
    | none => rfl
    | some text =>
        have present : text ≠ "" := fun empty => given (congrArg some empty)
        simp [nonEmpty, present]
  unfold matchesOne at agree
  rw [kept leftGiven, kept rightGiven] at agree
  cases left with
  | none =>
      cases right with
      | none => rfl
      | some text => simpa [matchesText] using agree text
  | some text =>
      have hit := agree text
      cases right with
      | none => simp [matchesText] at hit
      | some other => simpa [matchesText] using hit

theorem flag_eq_of_matches {left right : Option Bool}
    (agree : ∀ expected, matchesBoolean (.bool expected) left =
      matchesBoolean (.bool expected) right) : left = right := by
  cases left with
  | none =>
      cases right with
      | none => rfl
      | some flag => simpa [matchesBoolean] using agree flag
  | some flag =>
      have hit := agree flag
      cases right with
      | none => simp [matchesBoolean] at hit
      | some other =>
          have same : other = flag := by simpa [matchesBoolean] using hit
          rw [same]

section

variable [Runtime]

theorem evaluateConditions_of_values {left right : PolicyEvaluationContext}
    (same : conditionValues left = conditionValues right)
    (conditions : Option (List (String × Json))) (toolName : String) :
    evaluateConditions conditions toolName left = evaluateConditions conditions toolName right := by
  unfold evaluateConditions evaluateCondition
  rw [same]

theorem findWildcardRule_of_values {left right : PolicyEvaluationContext}
    (same : conditionValues left = conditionValues right) (toolName : String)
    (entries : List (String × PolicyRule)) :
    findWildcardRule toolName left entries = findWildcardRule toolName right entries := by
  induction entries with
  | nil => rfl
  | cons entry rest ih =>
      simp only [findWildcardRule, wildcardEvaluation, conditionsMatch,
        evaluateConditions_of_values same, ih]
      rfl

theorem evaluate_of_values {left right : PolicyEvaluationContext}
    (same : conditionValues left = conditionValues right) (policy : PolicyFile)
    (toolName : String) :
    evaluatePolicyTrace policy toolName left = evaluatePolicyTrace policy toolName right := by
  simp only [evaluatePolicyTrace, exactApplies, exactEvaluation, conditionsMatch,
    evaluateConditions_of_values same, findWildcardRule_of_values same]
  rfl

theorem evaluatePolicy_decision (policy : PolicyFile) (toolName : String)
    (context : PolicyEvaluationContext) :
    (evaluatePolicy policy toolName context).decision =
      (evaluatePolicyTrace policy toolName context).selection.decision := by
  unfold evaluatePolicy evaluatePolicyTrace
  simp only
  split
  · rfl
  · split <;> rfl

theorem denyingPolicy_decision (toolName key : String) (expected : Json)
    (context : PolicyEvaluationContext) :
    (evaluatePolicy (denyingPolicy toolName key expected) toolName context).decision =
      if (evaluateCondition key expected toolName context).2 then .deny else .allow := by
  have found : (denyingPolicy toolName key expected).tools.get? toolName =
      some { PolicyRule.plain .deny with conditions := some [(key, expected)] } :=
    KeyedTable.get?_set_self _ _ _
  have matched : conditionsMatch (some [(key, expected)]) toolName context =
      (evaluateCondition key expected toolName context).2 := by
    simp [conditionsMatch, evaluateConditions]
  rw [evaluatePolicy_decision]
  cases holds : (evaluateCondition key expected toolName context).2 with
  | true =>
      have applies : exactApplies (denyingPolicy toolName key expected) toolName context = true := by
        simp [exactApplies, findExactRule, found, matched, holds]
      rw [selection_exact applies]
      simp [findExactRule, found, toEvaluation, PolicyRule.plain]
  | false =>
      have open_exact :
          exactApplies (denyingPolicy toolName key expected) toolName context = false := by
        simp [exactApplies, findExactRule, found, matched, holds]
      have missing : (denyingPolicy toolName key expected).tools.entries.find?
          (contends toolName context) = none := by
        simp [denyingPolicy, KeyedTable.set, KeyedTable.empty, KeyedTable.setEntries, contends,
          matched, holds]
      rw [selection_default open_exact missing]
      rfl

theorem condition_of_decisions {toolName : String} (named : toolName ≠ "__proto__")
    {left right : PolicyEvaluationContext}
    (agree : ∀ policy : PolicyFile, policy.accepted = true →
      (evaluatePolicy policy toolName left).decision =
        (evaluatePolicy policy toolName right).decision)
    (key : String) {expected : Json} (distinct : distinctMembers expected = true) :
    (evaluateCondition key expected toolName left).2 =
      (evaluateCondition key expected toolName right).2 := by
  have decisions := agree (denyingPolicy toolName key expected)
    (denyingPolicy_accepted named distinct)
  rw [denyingPolicy_decision, denyingPolicy_decision] at decisions
  cases leftHolds : (evaluateCondition key expected toolName left).2 <;>
    cases rightHolds : (evaluateCondition key expected toolName right).2 <;>
    simp [leftHolds, rightHolds] at decisions <;> rfl

theorem amount_eq_of_matches {left right : Option JsonNumber}
    (agree : ∀ expected, matchesAmount (.num expected) left = matchesAmount (.num expected) right) :
    left = right := by
  cases left with
  | none =>
      cases right with
      | none => rfl
      | some number => simpa [matchesAmount] using agree number
  | some number =>
      have hit := agree number
      cases right with
      | none => simp [matchesAmount] at hit
      | some other =>
          have same : other = number := by simpa [matchesAmount] using hit
          rw [same]

/-- No accepted policy tells two contexts of a tool apart exactly when the values
its conditions are compared with agree. -/
theorem decisions_agree_iff {toolName : String} (named : toolName ≠ "__proto__")
    {left right : PolicyEvaluationContext} (leftGiven : (conditionValues left).Given)
    (rightGiven : (conditionValues right).Given) :
    (∀ policy : PolicyFile, policy.accepted = true →
        (evaluatePolicy policy toolName left).decision =
          (evaluatePolicy policy toolName right).decision) ↔
      conditionValues left = conditionValues right := by
  constructor
  · intro agree
    have single := condition_of_decisions named agree
    have approverGroup := text_eq_of_matches leftGiven.approverGroup rightGiven.approverGroup
      (fun expected => single "approverGroup" rfl)
    have currency := text_eq_of_matches leftGiven.currency rightGiven.currency
      (fun expected => single "currency" rfl)
    have operationKind := text_eq_of_matches leftGiven.operationKind rightGiven.operationKind
      (fun expected => single "operationKind" rfl)
    have recipientDomain := text_eq_of_matches leftGiven.recipientDomain
      rightGiven.recipientDomain
      (fun expected => single "recipientDomain" rfl)
    have risk := text_eq_of_matches leftGiven.risk rightGiven.risk
      (fun expected => single "risk" rfl)
    have amount := amount_eq_of_matches
      (fun expected => single "amount" rfl)
    have customerVisible : (conditionValues left).customerVisible =
        (conditionValues right).customerVisible := by
      apply flag_eq_of_matches
      intro expected
      have distinct : distinctMembers (.bool expected) = true := rfl
      exact single "customerVisible" distinct
    cases leftValues : conditionValues left
    cases rightValues : conditionValues right
    simp only [leftValues, rightValues] at *
    subst approverGroup currency operationKind recipientDomain risk amount customerVisible
    rfl
  · intro same policy _
    unfold evaluatePolicy
    rw [evaluate_of_values same]

theorem evaluatePolicy_prototype {policy : PolicyFile} (accepted : policy.accepted = true)
    (context : PolicyEvaluationContext) :
    (evaluatePolicy policy "__proto__" context).decision = .deny := by
  have missing : policy.tools.get? "__proto__" = none := by
    cases found : policy.tools.get? "__proto__" with
    | none => rfl
    | some rule =>
        simp only [PolicyFile.accepted, Bool.and_eq_true, List.all_eq_true] at accepted
        have listed := (policy.tools.get?_eq_some_iff _ _).mp found
        simpa using (accepted.2 _ listed).1
  have inherited : findExactRule policy "__proto__" = some none := by
    simp [findExactRule, missing, prototypeNames]
  have applies : exactApplies policy "__proto__" context = true := by
    rw [exactApplies, inherited]
    rfl
  rw [evaluatePolicy_decision, selection_exact applies, inherited]
  rfl

/-! ### The context of an input -/

/-- The recipient domain an input names for itself. -/
def listedRecipientDomain (input : JsonObject) : Option String :=
  if (inputRecipients (some input)).isEmpty then none else some "external"

/-- The amount a condition finds in the input when no amount was derived. -/
def statedAmount (input : JsonObject) : Option JsonNumber :=
  numberContext (notNull (member? input "amount") <|> member? input "amountCents")

/-- What conditions are compared with when the derived fields come from one
input and the others are read from another. -/
def valuesInForce (derivedFrom input : JsonObject) (trusted : Option TrustedPolicy) :
    ConditionValues :=
  { approverGroup := none
    amount := derivedAmount derivedFrom <|> statedAmount input
    currency := derivedCurrency derivedFrom <|> derivedCurrency input
    customerVisible := trusted.map TrustedPolicy.customerVisible
    operationKind := trusted.map (fun policy => policy.operationKind.text)
    recipientDomain := derivedRecipientDomain derivedFrom <|> listedRecipientDomain input
    risk := trusted.bind (fun policy => TextScan.content policy.risk) }

theorem recipientDomainContext_canonical {context : PolicyEvaluationContext}
    {derivedFrom input : JsonObject}
    (explicit : context.recipientDomain = derivedRecipientDomain derivedFrom)
    (from_input : context.input = some input) (bare : context.metadata = none) :
    recipientDomainContext context =
      (derivedRecipientDomain derivedFrom <|> listedRecipientDomain input) := by
  unfold recipientDomainContext
  rw [explicit, from_input, bare]
  rcases derivedRecipientDomain_cases derivedFrom with external | missing
  · rw [external]
    rfl
  · rw [missing]
    unfold listedRecipientDomain
    cases inputRecipients (some input) <;> rfl

theorem conditionValues_canonical (derivedFrom input : JsonObject) (auth : Option AuthContext)
    (trusted : Option TrustedPolicy) :
    conditionValues (policyContextFromCanonicalFields
        (canonicalPolicyContext derivedFrom auth trusted) input) =
      valuesInForce derivedFrom input trusted := by
  have values := canonicalValues derivedFrom auth trusted
  have amount : numberContext ((derivedAmount derivedFrom).map .num) = derivedAmount derivedFrom := by
    cases derivedAmount derivedFrom <;> rfl
  have currency : stringContext ((derivedCurrency derivedFrom).map .str) =
      derivedCurrency derivedFrom := by
    cases derived : derivedCurrency derivedFrom with
    | none => rfl
    | some text => exact (derivedCurrency_content derived).1
  have visible : booleanContext (trusted.map (fun policy => .bool policy.customerVisible)) =
      trusted.map TrustedPolicy.customerVisible := by
    cases trusted <;> rfl
  have kind : stringContext (trusted.map (fun policy => .str policy.operationKind.text)) =
      trusted.map (fun policy => policy.operationKind.text) := by
    cases trusted with
    | none => rfl
    | some policy => exact operationKind_content policy.operationKind
  have domain : stringContext ((derivedRecipientDomain derivedFrom).map .str) =
      derivedRecipientDomain derivedFrom := by
    unfold derivedRecipientDomain
    split <;> rfl
  have risk : stringContext (trusted.map (fun policy => .str policy.risk)) =
      trusted.bind (fun policy => TextScan.content policy.risk) := by
    cases trusted <;> rfl
  have amountInForce : numberContext ((derivedAmount derivedFrom).map .num <|>
      notNull (memberOf (some input) "amount") <|> memberOf (some input) "amountCents") =
      (derivedAmount derivedFrom <|> statedAmount input) := by
    cases derivedAmount derivedFrom <;> rfl
  have alone : ∀ {α : Type} (value : Option α), (value <|> none) = value := by
    intro _ value
    cases value <;> rfl
  have unlisted : ∀ name, stringContext (memberOf none name) = none := fun _ => rfl
  have unflagged : booleanContext (memberOf none "customerVisible") = none := rfl
  have unstated : stringContext none = none := rfl
  simp only [conditionValues, policyContextFromCanonicalFields, valuesInForce, values.amount,
    values.approverGroup, values.currency, values.customerVisible, values.operationKind,
    values.recipientDomain, values.risk, amount, currency, visible, kind, domain, risk,
    amountInForce, alone, unlisted, unflagged, unstated]
  congr 1
  exact recipientDomainContext_canonical rfl rfl rfl

theorem valuesInForce_given (derivedFrom input : JsonObject) (trusted : Option TrustedPolicy) :
    (valuesInForce derivedFrom input trusted).Given := by
  have currency : ∀ source : JsonObject, derivedCurrency source ≠ some "" :=
    fun source derived => (derivedCurrency_content derived).2 rfl
  constructor
  · intro empty
    cases empty
  · intro empty
    change (derivedCurrency derivedFrom <|> derivedCurrency input) = some "" at empty
    cases derived : derivedCurrency derivedFrom with
    | none =>
        rw [derived] at empty
        exact currency input empty
    | some text =>
        rw [derived] at empty
        exact currency derivedFrom (derived.trans empty)
  · intro empty
    obtain ⟨policy, _, text⟩ := Option.map_eq_some_iff.mp empty
    revert text
    cases policy.operationKind <;> simp [ActionOperationKind.text]
  · intro empty
    simp only [valuesInForce, listedRecipientDomain] at empty
    rcases derivedRecipientDomain_cases derivedFrom with external | missing
    · simp [external] at empty
    · rw [missing] at empty
      split at empty <;> simp at empty
  · intro empty
    obtain ⟨policy, _, content⟩ := Option.bind_eq_some_iff.mp empty
    exact (TextScan.content_eq_some content).2 rfl

/-! ### Edited inputs -/

/-- A tool call as a canonical submission stores it: the context derived from its
input, repeated in its trace, with the fields of the contract that prepared it. -/
structure CanonicallySubmitted (toolCall : ToolCallRecord) (envelope : ActionEnvelope)
    (auth : Option AuthContext) (trusted : Option TrustedPolicy) : Prop where
  version : toolCall.canonicalActionRequestVersion = some canonicalActionRequestVersion
  enveloped : toolCall.actionEnvelope = some envelope
  context : toolCall.canonicalPolicyContext =
    some (canonicalPolicyContext toolCall.input auth trusted)
  traced : ∀ trace, toolCall.decisionTrace = some trace →
    member? trace "canonicalPolicyContext" =
      some (.obj (canonicalPolicyContext toolCall.input auth trusted))
  sources : ∀ policy, trusted = some policy → (TextScan.content policy.source).isSome = true
  prepared : ∀ binding, envelope.preparedAction = some binding →
    ∃ policy, trusted = some policy ∧ policy.source = contractSource binding ∧
      (TextScan.content policy.risk).isSome = true

/-- The tool call as revalidation evaluates it for an approved input. -/
def editedToolCall (toolCall : ToolCallRecord) (envelope : ActionEnvelope) (input : JsonObject) :
    ToolCallRecord :=
  { toolCall with
    actionEnvelope := some envelope
    actionEnvelopeHash := some envelope.envelopeHash
    input := input
    inputHash := some envelope.inputHash }

/-- The evaluation of an approved input, at approval and before dispatch. -/
def revalidatedEvaluation (policy : PolicyFile) (toolCall : ToolCallRecord)
    (envelope : ActionEnvelope) (input : JsonObject) : Except String PolicyEvaluation :=
  (policyContextFromToolCall
    (editedToolCall toolCall (actionEnvelopeForInput envelope input) input)).map
      (evaluatePolicy policy toolCall.toolName)

/-- The evaluation of the same tool with the derived fields taken from an input. -/
def freshEvaluation (policy : PolicyFile) (toolName : String) (input : JsonObject)
    (auth : Option AuthContext) (trusted : Option TrustedPolicy) : PolicyEvaluation :=
  evaluatePolicy policy toolName
    (policyContextFromCanonicalFields (canonicalPolicyContext input auth trusted) input)

/-- The amount, currency and recipients in force for the edited input under the
frozen context are those it would be submitted with. -/
structure DerivedFieldsInForce (original edited : JsonObject) : Prop where
  amount : (derivedAmount original <|> statedAmount edited) =
    (derivedAmount edited <|> statedAmount edited)
  currency : (derivedCurrency original <|> derivedCurrency edited) = derivedCurrency edited
  recipients : (derivedRecipientDomain original <|> listedRecipientDomain edited) =
    (derivedRecipientDomain edited <|> listedRecipientDomain edited)

theorem derivedFieldsInForce_iff (original edited : JsonObject) (trusted : Option TrustedPolicy) :
    DerivedFieldsInForce original edited ↔
      valuesInForce original edited trusted = valuesInForce edited edited trusted := by
  have twice : (derivedCurrency edited <|> derivedCurrency edited) = derivedCurrency edited := by
    cases derivedCurrency edited <;> rfl
  constructor
  · intro inForce
    simp only [valuesInForce, inForce.amount, inForce.currency, inForce.recipients, twice]
  · intro same
    refine ⟨congrArg ConditionValues.amount same, ?_, congrArg ConditionValues.recipientDomain same⟩
    exact (congrArg ConditionValues.currency same).trans twice

theorem policyContextFromToolCall_submitted {toolCall : ToolCallRecord}
    {envelope : ActionEnvelope} {auth : Option AuthContext} {trusted : Option TrustedPolicy}
    (submitted : CanonicallySubmitted toolCall envelope auth trusted) (input : JsonObject) :
    policyContextFromToolCall
        (editedToolCall toolCall (actionEnvelopeForInput envelope input) input) =
      .ok (policyContextFromCanonicalFields
        (canonicalPolicyContext toolCall.input auth trusted) input) := by
  have valid := isCanonicalPolicyContext_canonical toolCall.input auth submitted.sources
  have frozen : validatedFrozenCanonicalPolicyContext
      (editedToolCall toolCall (actionEnvelopeForInput envelope input) input) =
      .ok (canonicalPolicyContext toolCall.input auth trusted) := by
    have traced : ∀ trace, toolCall.decisionTrace = some trace →
        member? trace "canonicalPolicyContext" =
          some (.obj (canonicalPolicyContext toolCall.input auth trusted)) := submitted.traced
    have prepared : ∀ binding, envelope.preparedAction = some binding →
        preparedPolicyFailure (canonicalPolicyContext toolCall.input auth trusted) binding =
          none := by
      intro binding given
      obtain ⟨policy, rfl, source, risk⟩ := submitted.prepared binding given
      exact preparedPolicyFailure_canonical toolCall.input auth source risk
    unfold validatedFrozenCanonicalPolicyContext
    simp only [editedToolCall, submitted.context, valid, Bool.not_true, Bool.false_eq_true,
      if_false]
    cases given : toolCall.decisionTrace with
    | none =>
        cases present : envelope.preparedAction with
        | none => simp [actionEnvelopeForInput, present]
        | some binding => simp [actionEnvelopeForInput, present, prepared binding present]
    | some trace =>
        cases present : envelope.preparedAction with
        | none => simp [actionEnvelopeForInput, present, traced trace given, valid]
        | some binding =>
            simp [actionEnvelopeForInput, present, traced trace given, valid,
              prepared binding present]
  have version : (editedToolCall toolCall (actionEnvelopeForInput envelope input)
      input).canonicalActionRequestVersion = some canonicalActionRequestVersion :=
    submitted.version
  unfold policyContextFromToolCall
  rw [frozen, if_pos version]
  rfl

/-- The last checks of an approval: the submitted action still takes the approval
path and the approved input stays on it or is allowed. -/
def approvedEvaluationFailure (original approved : PolicyEvaluation) : Option String :=
  firstFailure [
    (original.decision != .requireApproval,
      "The submitted action no longer follows an approval-required policy path. Resubmit it."),
    (approved.decision == .deny,
      "The approved input is denied by final policy revalidation. Resubmit a permitted action."),
    (approved.decision == .requireApproval && approved.matchedRule != original.matchedRule,
      "The approved input requires a different approval policy route. Resubmit the action.")]

omit [Runtime] in
theorem approvedEvaluationFailure_denied {original approved : PolicyEvaluation}
    (denied : approved.decision = .deny) :
    (approvedEvaluationFailure original approved).isSome = true := by
  rw [Option.isSome_iff_ne_none]
  intro passed
  have checks := firstFailure_eq_none_iff.mp passed
  have refused := checks _ (.tail _ (.head _))
  simp [denied] at refused

/-- A policy judges an edited input as a fresh submission of it, and refuses the
approval of one it would deny. -/
structure JudgesEdit (policy : PolicyFile) (toolCall : ToolCallRecord) (envelope : ActionEnvelope)
    (auth : Option AuthContext) (trusted : Option TrustedPolicy) (edited : JsonObject) : Prop where
  decision : (revalidatedEvaluation policy toolCall envelope edited).map
    PolicyEvaluation.decision =
      .ok (freshEvaluation policy toolCall.toolName edited auth trusted).decision
  refused : (freshEvaluation policy toolCall.toolName edited auth trusted).decision = .deny →
    ∀ original approved, revalidatedEvaluation policy toolCall envelope edited = .ok approved →
      (approvedEvaluationFailure original approved).isSome = true

theorem judgesEdit_of_decision {policy : PolicyFile} {toolCall : ToolCallRecord}
    {envelope : ActionEnvelope} {auth : Option AuthContext} {trusted : Option TrustedPolicy}
    {edited : JsonObject}
    (decision : (revalidatedEvaluation policy toolCall envelope edited).map
      PolicyEvaluation.decision =
        .ok (freshEvaluation policy toolCall.toolName edited auth trusted).decision) :
    JudgesEdit policy toolCall envelope auth trusted edited := by
  refine ⟨decision, ?_⟩
  intro denied original approved judged
  rw [judged, denied] at decision
  exact approvedEvaluationFailure_denied (Except.ok.inj decision)

/-- An edit is judged as a fresh submission by every policy exactly when the
derived fields frozen at submission stay in force. -/
theorem revalidation_judges_edit_iff {toolCall : ToolCallRecord} {envelope : ActionEnvelope}
    {auth : Option AuthContext} {trusted : Option TrustedPolicy}
    (submitted : CanonicallySubmitted toolCall envelope auth trusted) (edited : JsonObject) :
    (∀ policy : PolicyFile, policy.accepted = true →
        JudgesEdit policy toolCall envelope auth trusted edited) ↔
      toolCall.toolName = "__proto__" ∨ DerivedFieldsInForce toolCall.input edited := by
  have judged : ∀ policy : PolicyFile,
      (revalidatedEvaluation policy toolCall envelope edited).map PolicyEvaluation.decision =
        .ok (evaluatePolicy policy toolCall.toolName (policyContextFromCanonicalFields
          (canonicalPolicyContext toolCall.input auth trusted) edited)).decision := by
    intro policy
    rw [revalidatedEvaluation, policyContextFromToolCall_submitted submitted edited]
    rfl
  have sameDecision : (∀ policy : PolicyFile, policy.accepted = true →
        JudgesEdit policy toolCall envelope auth trusted edited) ↔
      ∀ policy : PolicyFile, policy.accepted = true →
        (evaluatePolicy policy toolCall.toolName (policyContextFromCanonicalFields
            (canonicalPolicyContext toolCall.input auth trusted) edited)).decision =
          (freshEvaluation policy toolCall.toolName edited auth trusted).decision := by
    constructor
    · intro judges policy accepted
      exact Except.ok.inj ((judged policy).symm.trans (judges policy accepted).decision)
    · intro same policy accepted
      exact judgesEdit_of_decision ((judged policy).trans (congrArg _ (same policy accepted)))
  rw [sameDecision]
  unfold freshEvaluation
  by_cases named : toolCall.toolName = "__proto__"
  · refine iff_of_true ?_ (Or.inl named)
    intro policy accepted
    rw [named, evaluatePolicy_prototype accepted, evaluatePolicy_prototype accepted]
  · have frozenGiven := valuesInForce_given toolCall.input edited trusted
    have freshGiven := valuesInForce_given edited edited trusted
    rw [← conditionValues_canonical _ _ auth] at frozenGiven freshGiven
    rw [decisions_agree_iff named frozenGiven freshGiven, conditionValues_canonical,
      conditionValues_canonical, ← derivedFieldsInForce_iff]
    exact (or_iff_right named).symm

end

private def paymentInput (amount : Nat) : JsonObject :=
  [("amount", some (.num (JsonNumber.ofInt amount)))]

private def paymentEnvelope : ActionEnvelope :=
  { envelopeHash := "envelope"
    executionMode := .localMock
    input := paymentInput 10
    inputHash := "input"
    preparedAction := none
    body := [] }

private def submittedPayment : ToolCallRecord :=
  { id := "toolcall_1"
    workspaceId := none
    toolName := "payments.send"
    input := paymentInput 10
    inputHash := some "input"
    actionEnvelope := some paymentEnvelope
    actionEnvelopeHash := some "envelope"
    canonicalActionRequestHash := none
    canonicalActionRequestVersion := some canonicalActionRequestVersion
    canonicalDecisionInputHash := none
    canonicalPolicyContext := some (canonicalPolicyContext (paymentInput 10) none none)
    contentInfluence := none
    influenceScopeId := none
    requestedBy := "agent"
    requestedByAuth := none
    agentId := "agent"
    reason := "invoice"
    metadata := []
    status := .pendingApproval
    decision := some .requireApproval
    authorizationDecision := some .requireApproval
    authorizationReason := none
    decisionTrace := none
    policyReason := none
    policyVersionId := none
    policyVersionHash := none
    resultDelivery := none
    resultSource := none
    resultWithheld := none
    risk := none
    result := none
    error := none
    createdAt := "2026-07-10T10:00:00.000Z"
    updatedAt := "2026-07-10T10:00:00.000Z" }

private theorem submittedPayment_canonical :
    CanonicallySubmitted submittedPayment paymentEnvelope none none :=
  { version := rfl
    enveloped := rfl
    context := rfl
    traced := fun _ absent => nomatch absent
    sources := fun _ absent => nomatch absent
    prepared := fun _ absent => nomatch absent }

/-- Payments need an approval, and one of a thousand or more is denied. -/
private def limitedPayments : PolicyFile :=
  { version := JsonNumber.ofDigit 1 Nat.one_ne_zero
    default := PolicyRule.plain .required
    tools := KeyedTable.empty.set "payments.send"
      { PolicyRule.plain .deny with
        conditions := some [("amount", .obj [("gte", some (.num (JsonNumber.ofInt 1000)))])] } }

/-- An approver raises an amount past a limit: a fresh submission is denied, the
approval is not refused. -/
theorem revalidation_misses_edited_amount :
    limitedPayments.accepted = true ∧
      CanonicallySubmitted submittedPayment paymentEnvelope none none ∧
      (@freshEvaluation (sampleRuntime []) limitedPayments "payments.send" (paymentInput 5000)
        none none).decision = .deny ∧
      ∃ original approved,
        @revalidatedEvaluation (sampleRuntime []) limitedPayments submittedPayment paymentEnvelope
            (paymentInput 10) = .ok original ∧
          @revalidatedEvaluation (sampleRuntime []) limitedPayments submittedPayment
            paymentEnvelope (paymentInput 5000) = .ok approved ∧
          approved.decision = .requireApproval ∧
          approvedEvaluationFailure original approved = none := by
  let _ := sampleRuntime []
  have frozen := fun input => policyContextFromToolCall_submitted submittedPayment_canonical input
  let judged (input : JsonObject) : PolicyEvaluation :=
    evaluatePolicy limitedPayments "payments.send" (policyContextFromCanonicalFields
      (canonicalPolicyContext (paymentInput 10) none none) input)
  refine ⟨by decide, submittedPayment_canonical, by decide, judged (paymentInput 10),
    judged (paymentInput 5000), ?_, ?_, ?_, ?_⟩
  · exact congrArg (Except.map _) (frozen (paymentInput 10))
  · exact congrArg (Except.map _) (frozen (paymentInput 5000))
  · decide
  · decide

theorem revalidation_judges_edit_payment :
    (∀ policy : PolicyFile, policy.accepted = true →
        @JudgesEdit (sampleRuntime []) policy submittedPayment paymentEnvelope none none
          (paymentInput 5000)) ↔
      submittedPayment.toolName = "__proto__" ∨
        @DerivedFieldsInForce (sampleRuntime []) submittedPayment.input (paymentInput 5000) :=
  @revalidation_judges_edit_iff (sampleRuntime []) submittedPayment paymentEnvelope none none
    submittedPayment_canonical (paymentInput 5000)

end ActionProxy
