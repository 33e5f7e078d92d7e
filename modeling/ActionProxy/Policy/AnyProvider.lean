import ActionProxy.Policy.PolicyProvider
import ActionProxy.Policy.PolicyReference
import ActionProxy.Foundation.LooseValue

/-!
The provider boundary over providers of which nothing is known: the descriptor and the
trace are whatever the provider gives or throws, and every check reads one property after
another. A typed provider is one of these, and on it the checks are the typed ones.
-/

namespace ActionProxy

open JsonText

/-! ### Traces as values -/

def PolicyEvaluation.members (evaluation : PolicyEvaluation) : JsonObject :=
  [("decision", some (.str evaluation.decision.text)),
    ("approval", evaluation.approval.map (fun approval => .str approval.text)),
    ("risk", some (.str evaluation.risk)),
    ("reason", some (.str evaluation.reason)),
    ("matchedRule", some (.str evaluation.matchedRule)),
    ("rule", evaluation.rule.map PolicyRule.json)]

def PolicyEvaluation.json (evaluation : PolicyEvaluation) : Json := .obj evaluation.members

def PolicyEvaluationTrace.members (trace : PolicyEvaluationTrace) : JsonObject :=
  [("decision", some (.str trace.decision.text)),
    ("evaluation", some trace.evaluation.json),
    ("fallbackPath", some (.arr (trace.fallbackPath.map (fun kind => .str kind.text)))),
    ("matchedRule", some (.str trace.matchedRule)),
    ("matchType", some (.str trace.matchType.text)),
    ("ruleEvaluations", some (.arr (trace.ruleEvaluations.map PolicyTraceRuleEvaluation.json)))]

def PolicyEvaluationTrace.json (trace : PolicyEvaluationTrace) : Json := .obj trace.members

def PolicyProviderDescriptor.members (descriptor : PolicyProviderDescriptor) : JsonObject :=
  [("evaluatorVersion", some (.str descriptor.evaluatorVersion)),
    ("policyDigest", some (.str descriptor.policyDigest)),
    ("policyDigestAlgorithm", some (.str descriptor.policyDigestAlgorithm)),
    ("policySchemaVersion", some (.str descriptor.policySchemaVersion)),
    ("policyVersion", some (.str descriptor.policyVersion)),
    ("providerId", some (.str descriptor.providerId)),
    ("providerVersion", some (.str descriptor.providerVersion))]

namespace AnyProvider

/-! ### Checks of single values -/

def isText : Json → Bool
  | .str _ => true
  | _ => false

def isFlag : Json → Bool
  | .bool _ => true
  | _ => false

def isRecord (value : Json) : Bool := (asRecord? (some value)).isSome

/-- `Number.isInteger(value) && Number(value) >= 1`. -/
def isPositiveInteger : Json → Bool
  | .num number => decide (0 ≤ number.exponent) && !number.less (JsonNumber.ofInt 1)
  | _ => false

def nonEmptyString (value : Option Json) : Option String :=
  (value.bind asString?).filter notBlank

/-- `isApproval`, with the mode it recognizes. -/
def approval? (value : Option Json) : Option ApprovalMode :=
  [ApprovalMode.deny, .never, .required].find? (fun mode => equalsText value mode.text)

/-- `isDecision`, with the decision it recognizes. -/
def decision? (value : Option Json) : Option PolicyDecision :=
  [PolicyDecision.allow, .deny, .requireApproval].find? (fun decision =>
    equalsText value decision.text)

/-- `isMatchType`, with the type it recognizes. -/
def matchType? (value : Option Json) : Option PolicyTraceMatchType :=
  [PolicyTraceMatchType.default, .exact, .providerFailure, .wildcard].find? (fun kind =>
    equalsText value kind.text)

/-- `isContentIntegrity`, with the integrity it recognizes. -/
def contentIntegrity? (value : Option Json) : Option ContentIntegrity :=
  contentIntegrityValues.find? (fun integrity => equalsText value integrity.text)

def isStringArray : Json → Bool
  | .arr items => items.all isText
  | _ => false

def optionalStringArray (value : Option Json) : Bool := value.all isStringArray

/-! ### Checks of records -/

def isResultSource (value : Json) : Bool :=
  equalsText (some value) "none" ||
    match asRecord? (some value) with
    | none => false
    | some source =>
        (contentIntegrity? (member? source "integrity")).isSome &&
          (member? source "sourceId").all (fun sourceId =>
            (asString? sourceId).any isSourceId)

def isInfluenceGuard (value : Json) : Bool :=
  match asRecord? (some value) with
  | none => false
  | some influence =>
      match member? influence "allowFrom" with
      | some (.arr allowFrom) =>
          !allowFrom.isEmpty &&
          (equalsText (member? influence "otherwise") "required" ||
            equalsText (member? influence "otherwise") "deny") &&
          allowFrom.all (fun source =>
            equalsText (some source) "none" || (contentIntegrity? (some source)).isSome) &&
          decide (allowFrom.filterMap asString?).Nodup
      | _ => false

def openWorldReadResultSourceValid (risk rule : Option Json) : Bool :=
  !equalsText risk "open_world_read" ||
    match asRecord? rule with
    | none => false
    | some rule =>
        match asRecord? (member? rule "resultSource") with
        | none => false
        | some resultSource => equalsText (member? resultSource "integrity") "public_untrusted"

def approversValid (value : Json) : Bool :=
  match asRecord? (some value) with
  | none => false
  | some approvers =>
      optionalStringArray (member? approvers "groups") &&
      optionalStringArray (member? approvers "users") &&
      (member? approvers "requiredApprovals").all isPositiveInteger &&
      (member? approvers "separationOfDuties").all isFlag

def externalExecutionValid (value : Json) : Bool :=
  match asRecord? (some value) with
  | none => false
  | some execution =>
      (member? execution "grantTtlSeconds").all isPositiveInteger &&
      (member? execution "requireGrantConsumption").all isFlag

def notifyValid (value : Json) : Bool :=
  match asRecord? (some value) with
  | none => false
  | some notify => optionalStringArray (member? notify "channels")

def redactionValid (value : Json) : Bool :=
  match asRecord? (some value) with
  | none => false
  | some redaction =>
      optionalStringArray (member? redaction "fields") &&
      (member? redaction "replacement").all isText

def isPolicyRule (value : Option Json) : Bool :=
  match asRecord? value with
  | none => false
  | some rule =>
      (approval? (member? rule "approval")).isSome &&
      (member? rule "reason").all isText &&
      (member? rule "risk").all isText &&
      (member? rule "conditions").all isRecord &&
      (member? rule "approvers").all approversValid &&
      (member? rule "externalExecution").all externalExecutionValid &&
      (member? rule "notify").all notifyValid &&
      (member? rule "resultSource").all isResultSource &&
      openWorldReadResultSourceValid (member? rule "risk") value &&
      (member? rule "influence").all isInfluenceGuard &&
      (member? rule "redaction").all redactionValid

def isConditionEvaluation (value : Json) : Bool :=
  match asRecord? (some value) with
  | none => false
  | some condition =>
      (member? condition "key").any isText &&
      (member? condition "matched").any isFlag &&
      condition.any (fun member => member.1 == "expected")

def isRuleEvaluation (value : Json) : Bool :=
  match asRecord? (some value) with
  | none => false
  | some evaluation =>
      (match member? evaluation "conditions" with
        | some (.arr conditions) => conditions.all isConditionEvaluation
        | _ => false) &&
      (member? evaluation "conditionsMatched").any isFlag &&
      (member? evaluation "exists").any isFlag &&
      (matchType? (member? evaluation "matchType")).isSome &&
      (member? evaluation "pattern").any isText &&
      (member? evaluation "prefixMatched").all isFlag &&
      (member? evaluation "selected").any isFlag

/-- The list's items all pass; a value that is no list does not. -/
def everyOf (check : Json → Bool) : Option Json → Bool
  | some (.arr items) => items.all check
  | _ => false

/-- `validTrace` past its first line: the trace and its evaluation are records. -/
def validParts (trace evaluation : JsonObject) : Bool :=
  match decision? (member? trace "decision"), approval? (member? evaluation "approval") with
  | some decision, some approval =>
      equalsText (member? evaluation "decision") decision.text &&
      decisionForApproval (some approval) == decision &&
      isPolicyRule (member? evaluation "rule") &&
      openWorldReadResultSourceValid (member? evaluation "risk") (member? evaluation "rule") &&
      equalsText (optionalProperty (member? evaluation "rule") "approval") approval.text &&
      (member? evaluation "matchedRule").any isText &&
      (member? evaluation "reason").any isText &&
      (member? evaluation "risk").any isText &&
      everyOf (fun kind => (matchType? (some kind)).isSome) (member? trace "fallbackPath") &&
      ((member? trace "matchedRule").bind asString?).any (fun matchedRule =>
        equalsText (member? evaluation "matchedRule") matchedRule) &&
      (matchType? (member? trace "matchType")).any (· != .providerFailure) &&
      everyOf isRuleEvaluation (member? trace "ruleEvaluations")
  | _, _ => false

def validTrace (value : Option Json) : Bool :=
  match asRecord? value with
  | none => false
  | some trace =>
      match asRecord? (member? trace "evaluation") with
      | none => false
      | some evaluation => validParts trace evaluation

def validDescriptor (value : Option Json) : Bool :=
  match asRecord? value with
  | none => false
  | some descriptor =>
      (nonEmptyString (member? descriptor "evaluatorVersion")).isSome &&
      ((member? descriptor "policyDigest").bind asString?).any isSha256Hex &&
      equalsText (member? descriptor "policyDigestAlgorithm") "sha256" &&
      (nonEmptyString (member? descriptor "policySchemaVersion")).isSome &&
      (nonEmptyString (member? descriptor "policyVersion")).isSome &&
      (nonEmptyString (member? descriptor "providerId")).isSome &&
      (nonEmptyString (member? descriptor "providerVersion")).isSome

/-! ### Evaluation -/

/-- A provider: what reading its descriptor and evaluating give or throw. -/
structure Provider where
  descriptor : Except Thrown (Option Json)
  evaluate : String → PolicyEvaluationContext → Except Thrown (Option Json)

structure Evaluation where
  descriptor : JsonObject
  failureCode : Option PolicyProviderFailureCode
  status : ProviderStatus
  trace : Option Json

def failureTrace (failureCode : PolicyProviderFailureCode) : PolicyEvaluationTrace :=
  (ActionProxy.failedEvaluation failureCode (PartialDescriptor.named "unknown")).trace

def failedEvaluation (failureCode : PolicyProviderFailureCode) (descriptor : JsonObject) :
    Evaluation :=
  { descriptor := descriptor
    failureCode := some failureCode
    status := .failure
    trace := some (failureTrace failureCode).json }

def evaluatePolicyProvider (provider : Option Provider) (toolName : String)
    (context : PolicyEvaluationContext) : Evaluation :=
  match provider with
  | none => failedEvaluation .unavailable [("providerId", some (.str "unavailable"))]
  | some provider =>
      match provider.descriptor with
      | .error _ => failedEvaluation .error [("providerId", some (.str "unknown"))]
      | .ok rawDescriptor =>
          if !validDescriptor rawDescriptor then
            failedEvaluation .versionMissing [("providerId", some (.str
              ((nonEmptyString (optionalProperty rawDescriptor "providerId")).getD "unknown")))]
          else
            let descriptor := (asRecord? rawDescriptor).getD []
            match provider.evaluate toolName context with
            | .error _ => failedEvaluation .error descriptor
            | .ok trace =>
                if !validTrace trace then failedEvaluation .invalidOutput descriptor
                else
                  { descriptor := descriptor
                    failureCode := none
                    status := .ok
                    trace := trace }

/-- The decision of the trace returned. -/
def Evaluation.decision (evaluation : Evaluation) : Option Json :=
  optionalProperty evaluation.trace "decision"

/-- A typed provider, as one of which nothing is known. -/
def ofTyped (provider : DeterministicPolicyProvider) : Provider :=
  { descriptor := .ok (some (.obj provider.descriptor.members))
    evaluate := fun toolName context =>
      match provider.evaluate toolName context with
      | none => .error (.error "Error" "")
      | some trace => .ok (some trace.json) }

/-! ### The checks on what the types carry -/

@[simp] theorem equalsText_str (text other : String) :
    equalsText (some (.str text)) other = (text == other) := rfl

@[simp] theorem asRecord?_obj (members : JsonObject) :
    asRecord? (some (.obj members)) = some members := rfl

@[simp] theorem approval?_text (mode : ApprovalMode) :
    approval? (some (.str mode.text)) = some mode := by
  cases mode <;> decide

@[simp] theorem decision?_text (decision : PolicyDecision) :
    decision? (some (.str decision.text)) = some decision := by
  cases decision <;> decide

@[simp] theorem matchType?_text (kind : PolicyTraceMatchType) :
    matchType? (some (.str kind.text)) = some kind := by
  cases kind <;> decide

@[simp] theorem contentIntegrity?_text (integrity : ContentIntegrity) :
    contentIntegrity? (some (.str integrity.text)) = some integrity := by
  cases integrity <;> decide

@[simp] theorem nonEmptyString_str (text : String) :
    (nonEmptyString (some (.str text))).isSome = notBlank text := by
  simp [nonEmptyString, asString?, Option.isSome_filter]

theorem isStringArray_texts (texts : List String) : isStringArray (textsJson texts) = true := by
  simp [isStringArray, textsJson, isText]

@[simp] theorem optionalStringArray_texts (texts : Option (List String)) :
    optionalStringArray (texts.map textsJson) = true := by
  cases texts with
  | none => rfl
  | some texts => exact isStringArray_texts texts

@[simp] theorem isPositiveInteger_integer (value : Int) :
    isPositiveInteger (integerJson value) = decide (1 ≤ value) := by
  have whole := (JsonNumber.ofInt_scaled value).1
  rw [integerJson, isPositiveInteger, JsonNumber.ofInt_less, decide_eq_true whole, Bool.true_and,
    ← decide_not, decide_eq_decide]
  omega

theorem isText_str (text : String) : isText (.str text) = true := rfl

theorem isFlag_bool (flag : Bool) : isFlag (.bool flag) = true := rfl

attribute [local simp] member?_nil member?_cons isText_str isFlag_bool Function.comp_def

theorem approversValid_json (approvers : PolicyApprovers) :
    approversValid approvers.json =
      approvers.requiredApprovals.all (fun count => decide (1 ≤ count)) := by
  obtain ⟨groups, users, required, separation⟩ := approvers
  simp [approversValid, PolicyApprovers.json, Option.all_map]

theorem externalExecutionValid_json (execution : PolicyExternalExecution) :
    externalExecutionValid execution.json =
      execution.grantTtlSeconds.all (fun seconds => decide (1 ≤ seconds)) := by
  obtain ⟨seconds, required⟩ := execution
  simp [externalExecutionValid, PolicyExternalExecution.json, Option.all_map]

theorem notifyValid_json (channels : Option (List String)) :
    notifyValid (.obj [("channels", channels.map textsJson)]) = true := by
  simp [notifyValid]

theorem redactionValid_json (redaction : PolicyRedaction) :
    redactionValid redaction.json = true := by
  obtain ⟨fields, replacement⟩ := redaction
  simp [redactionValid, PolicyRedaction.json, Option.all_map]

theorem isResultSource_json (source : PolicyResultSource) :
    isResultSource source.json = source.accepted := by
  cases source with
  | none => rfl
  | classified integrity sourceId =>
      simp [isResultSource, PolicyResultSource.json, PolicyResultSource.accepted, Option.all_map,
        equalsText, asString?]

theorem influenceSourceText_injective : Function.Injective influenceSourceText := by
  intro left right same
  cases left with
  | none =>
      cases right with
      | none => rfl
      | some right => cases right <;> exact absurd same (by decide)
  | some left =>
      cases right with
      | none => cases left <;> exact absurd same (by decide)
      | some right => cases left <;> cases right <;> first | rfl | exact absurd same (by decide)

theorem influenceSource_listed (source : ContentInfluenceSource) :
    (equalsText (some (.str (influenceSourceText source))) "none" ||
      (contentIntegrity? (some (.str (influenceSourceText source)))).isSome) = true := by
  cases source with
  | none => rfl
  | some integrity =>
      rw [influenceSourceText, Option.elim_some, contentIntegrity?_text, Option.isSome_some,
        Bool.or_true]

theorem isInfluenceGuard_json (influence : PolicyInfluenceGuard) :
    isInfluenceGuard influence.json =
      (!influence.allowFrom.isEmpty && decide influence.allowFrom.Nodup) := by
  obtain ⟨allowFrom, otherwise, narrows⟩ := influence
  have listed : ∀ source ∈ allowFrom, 
      (equalsText (some (.str (influenceSourceText source))) "none" ||
        (contentIntegrity? (some (.str (influenceSourceText source)))).isSome) = true :=
    fun source _ => influenceSource_listed source
  have texts : (allowFrom.map (fun source => Json.str (influenceSourceText source))).filterMap
      asString? = allowFrom.map influenceSourceText := by
    rw [List.filterMap_map]
    exact List.filterMap_eq_map ▸ rfl
  have named : (otherwise.text == "required" || otherwise.text == "deny") = true := by
    cases otherwise with
    | never => exact absurd rfl narrows
    | required => rfl
    | deny => rfl
  simp only [isInfluenceGuard, PolicyInfluenceGuard.json, textsJson, List.map_map, Function.comp_def,
    asRecord?_obj, member?_cons, member?_nil, String.reduceEq, if_true, if_false, Option.some_or,
    equalsText_str, named, texts, List.isEmpty_map, List.all_map, Bool.and_true]
  have all : (allowFrom.all fun source => influenceSourceText source == "none" ||
      (contentIntegrity? (some (.str (influenceSourceText source)))).isSome) = true :=
    List.all_eq_true.mpr listed
  rw [all, Bool.and_true]
  congr 1
  rw [decide_eq_decide]
  exact List.nodup_map_iff influenceSourceText_injective

theorem openWorldReadResultSourceValid_json (risk : Option String) (rule : PolicyRule) :
    openWorldReadResultSourceValid (risk.map .str) (some rule.json) =
      ActionProxy.openWorldReadResultSourceValid risk rule := by
  have guarded : (!equalsText (risk.map .str) "open_world_read") =
      (risk != some "open_world_read") := by
    cases risk with
    | none => rfl
    | some risk => simp [equalsText, bne]
  rw [openWorldReadResultSourceValid, ActionProxy.openWorldReadResultSourceValid, guarded]
  congr 1
  simp only [PolicyRule.json, PolicyRule.members, asRecord?_obj, member?_cons, member?_nil,
    String.reduceEq, if_true, if_false, Option.or_none]
  cases rule.resultSource with
  | none => rfl
  | some source =>
      cases source with
      | none => rfl
      | classified integrity sourceId => cases integrity <;> rfl

theorem isPolicyRule_json (rule : PolicyRule) :
    isPolicyRule (some rule.json) = ActionProxy.isPolicyRule rule := by
  have openWorld := openWorldReadResultSourceValid_json rule.risk rule
  rw [ActionProxy.isPolicyRule, isPolicyRule, ← openWorld]
  have conditions : (rule.conditions.map conditionsJson).all isRecord = true := by
    cases rule.conditions <;> rfl
  simp only [PolicyRule.json, PolicyRule.members, asRecord?_obj, member?_cons, member?_nil,
    String.reduceEq, if_true, if_false, Option.or_none, Option.some_or, approval?_text,
    Option.isSome_some, Option.all_map, isText_str, Option.all_true,
    Bool.true_and, Bool.and_true, conditions, approversValid_json, externalExecutionValid_json,
    notifyValid_json, redactionValid_json, isResultSource_json, isInfluenceGuard_json]

theorem isConditionEvaluation_json (condition : PolicyTraceConditionEvaluation) :
    isConditionEvaluation condition.json = true := by
  simp [isConditionEvaluation, PolicyTraceConditionEvaluation.json]

theorem isRuleEvaluation_json (evaluation : PolicyTraceRuleEvaluation) :
    isRuleEvaluation evaluation.json = true := by
  simp [isRuleEvaluation, PolicyTraceRuleEvaluation.json, Option.all_map,
    isConditionEvaluation_json]


theorem decision_text_beq (left right : PolicyDecision) :
    (left.text == right.text) = (left == right) := by
  cases left <;> cases right <;> decide

theorem approval_text_beq (left right : ApprovalMode) :
    (left.text == right.text) = (left == right) := by
  cases left <;> cases right <;> decide

theorem rule_approval (rule : PolicyRule) :
    optionalProperty (some rule.json) "approval" = some (.str rule.approval.text) := by
  simp [optionalProperty, field?, PolicyRule.json, PolicyRule.members]

theorem matchTypes_listed (kinds : List PolicyTraceMatchType) :
    everyOf (fun kind => (matchType? (some kind)).isSome)
      (some (.arr (kinds.map (fun kind => .str kind.text)))) = true := by
  simp [everyOf]

theorem ruleEvaluations_listed (evaluations : List PolicyTraceRuleEvaluation) :
    everyOf isRuleEvaluation (some (.arr (evaluations.map PolicyTraceRuleEvaluation.json))) =
      true := by
  simp [everyOf, isRuleEvaluation_json]

theorem validParts_json (trace : PolicyEvaluationTrace) (rule : PolicyRule)
    (approval : ApprovalMode) (ruled : trace.evaluation.rule = some rule)
    (moded : trace.evaluation.approval = some approval) :
    validParts trace.members trace.evaluation.members = ActionProxy.validTrace trace := by
  have openWorld := openWorldReadResultSourceValid_json (some trace.evaluation.risk) rule
  have named : (trace.evaluation.matchedRule == trace.matchedRule) =
      (trace.matchedRule == trace.evaluation.matchedRule) := Bool.beq_comm
  rw [ActionProxy.validTrace, ruled, moded]
  simp only [← openWorld, ← isPolicyRule_json, ← named,
    ← decision_text_beq trace.evaluation.decision]
  simp only [validParts, PolicyEvaluationTrace.members, PolicyEvaluation.members, ruled, moded,
    member?_cons, member?_nil, String.reduceEq, if_true, if_false, Option.some_or, Option.map_some,
    Option.or_none, decision?_text, approval?_text, equalsText_str, matchType?_text, matchTypes_listed,
    ruleEvaluations_listed, rule_approval, approval_text_beq, Option.any_some, isText_str,
    Option.bind_some, asString?, Bool.and_true, Option.isSome_some, Option.some_beq_some]

theorem validTrace_json (trace : PolicyEvaluationTrace) :
    validTrace (some trace.json) = ActionProxy.validTrace trace := by
  have members : validTrace (some trace.json) =
      validParts trace.members trace.evaluation.members := by
    simp [validTrace, PolicyEvaluationTrace.json, PolicyEvaluationTrace.members,
      PolicyEvaluation.json]
  rw [members]
  cases ruled : trace.evaluation.rule with
  | none =>
      rw [ActionProxy.validTrace, ruled]
      cases moded : trace.evaluation.approval with
      | none =>
          simp [validParts, PolicyEvaluationTrace.members, PolicyEvaluation.members, moded,
            approval?, equalsText]
      | some approval =>
          simp [validParts, PolicyEvaluationTrace.members, PolicyEvaluation.members, ruled, moded,
            isPolicyRule, asRecord?]
  | some rule =>
      cases moded : trace.evaluation.approval with
      | none =>
          rw [ActionProxy.validTrace, ruled, moded]
          simp [validParts, PolicyEvaluationTrace.members, PolicyEvaluation.members, moded,
            approval?, equalsText]
      | some approval => exact validParts_json trace rule approval ruled moded

theorem validDescriptor_json (descriptor : PolicyProviderDescriptor) :
    validDescriptor (some (.obj descriptor.members)) = ActionProxy.validDescriptor descriptor := by
  simp [validDescriptor, PolicyProviderDescriptor.members, ActionProxy.validDescriptor, asString?]


/-! ### A typed provider -/

/-- The evaluation of a typed provider, as that of one of which nothing is known. -/
structure SameEvaluation (evaluation : Evaluation) (typed : PolicyProviderEvaluation) : Prop where
  provider : member? evaluation.descriptor "providerId" = some (.str typed.descriptor.providerId)
  failureCode : evaluation.failureCode = typed.failureCode
  status : evaluation.status = typed.status
  trace : evaluation.trace = some typed.trace.json

theorem failed_same {descriptor : JsonObject} {typed : PartialDescriptor}
    (failureCode : PolicyProviderFailureCode)
    (named : member? descriptor "providerId" = some (.str typed.providerId)) :
    SameEvaluation (failedEvaluation failureCode descriptor)
      (ActionProxy.failedEvaluation failureCode typed) :=
  { provider := named, failureCode := rfl, status := rfl, trace := rfl }

theorem providerId_listed (descriptor : PolicyProviderDescriptor) :
    member? descriptor.members "providerId" = some (.str descriptor.providerId) := by
  simp [PolicyProviderDescriptor.members]

theorem evaluatePolicyProvider_ofTyped (provider : Option DeterministicPolicyProvider)
    (toolName : String) (context : PolicyEvaluationContext) :
    SameEvaluation (evaluatePolicyProvider (provider.map ofTyped) toolName context)
      (ActionProxy.evaluatePolicyProvider provider toolName context) := by
  cases provider with
  | none => exact failed_same .unavailable rfl
  | some provider =>
      have listed := providerId_listed provider.descriptor
      rw [Option.map_some, evaluatePolicyProvider, ActionProxy.evaluatePolicyProvider]
      simp only [ofTyped, validDescriptor_json]
      cases ActionProxy.validDescriptor provider.descriptor with
      | false =>
          simp only [Bool.not_false, if_true]
          apply failed_same
          simp only [optionalProperty, Option.bind_some, field?, listed, nonEmptyString, asString?,
            member?_cons, if_true, Option.some_or, PartialDescriptor.named]
          cases visible : notBlank provider.descriptor.providerId with
          | true => simp [Option.filter, visible]
          | false => simp [Option.filter, visible]
      | true =>
          simp only [Bool.not_true, Bool.false_eq_true, if_false]
          cases provider.evaluate toolName context with
          | none => exact failed_same .error listed
          | some trace =>
              simp only [validTrace_json]
              cases ActionProxy.validTrace trace with
              | false => exact failed_same .invalidOutput listed
              | true =>
                  exact
                    { provider := listed, failureCode := rfl, status := rfl, trace := rfl }

end AnyProvider

end ActionProxy
